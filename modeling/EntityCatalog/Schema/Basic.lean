import EntityCatalog.Json.Printer
import EntityCatalog.Column.Basic
import EntityCatalog.Text.Replace
import EntityCatalog.Text.WordChar

/-!
A node of a JSON schema, seen through the keywords that the compiler understands.

A node is its keywords in order.  A value that is no object has none, so a boolean schema says
nothing.
-/

namespace EntityCatalog

/-- A node of a schema. -/
structure Schema where
  keywords : List (String × Json)
deriving Repr

namespace Schema

/-- The node that a value describes. -/
def ofJson : Json → Schema
  | .object members => ⟨members⟩
  | _ => ⟨[]⟩

/-- The value of a keyword. -/
def keyword? (s : Schema) (key : String) : Option Json := s.keywords.lookup key

/-- A keyword that holds a text. -/
def text? (s : Schema) (key : String) : Option String := (s.keyword? key).bind Json.text?

/-- A value as a word: a text as it stands, anything else in JSON. -/
def word : Json → String
  | .string s => s
  | j => j.compact

/-- The keyword `type`, where a union is the list of its parts. -/
def typeKeyword? (s : Schema) : Option String :=
  match s.keyword? "type" with
  | none => none
  | some (.array parts) => some (",".intercalate (parts.map word))
  | some j => some (word j)

/-- The format of a text. -/
def format? (s : Schema) : Option String := s.text? "format"

/-- The pattern of a text. -/
def pattern? (s : Schema) : Option String := s.text? "pattern"

/-- The node that stands elsewhere. -/
def reference? (s : Schema) : Option String := s.text? "$ref"

/-- The node of the items. -/
def items? (s : Schema) : Option Schema := (s.keyword? "items").map ofJson

/-- The nodes of the properties, in order. -/
def properties? (s : Schema) : Option (List (String × Schema)) :=
  match s.keyword? "properties" with
  | some (.object members) => some (members.map fun m => (m.1, ofJson m.2))
  | _ => none

/-- The values that are allowed, as words. -/
def enumValues? (s : Schema) : Option (List String) :=
  match s.keyword? "enum" with
  | some (.array values) => some (values.map word)
  | _ => none

/-! ## Extensions -/

/-- How the keys of extensions begin. -/
def extensionStart : String := "x-fqm-"

/-- The key under which a schema tells that a property is computed and not stored. -/
def virtualKey : String := "folio:isVirtual"

/-- The key of a type that is not inferred. -/
def typeOverrideKey : String := "x-fqm-data-type"

/-- The keys of all extensions. -/
def allowedExtensions : List String :=
  ["x-fqm-name", "x-fqm-ignore", "x-fqm-data-type", "x-fqm-value-getter",
   "x-fqm-filter-value-getter", "x-fqm-value-function", "x-fqm-is-id-column",
   "x-fqm-value-source-api", "x-fqm-values", "x-fqm-visible-by-default", "x-fqm-visibility",
   "x-fqm-essential", "x-fqm-joins-to", "x-fqm-joins-to-raw", "x-fqm-source"]

/-- The keys of extensions that the node has. -/
def extensionKeys (s : Schema) : List String :=
  (s.keywords.map (·.1)).filter (Text.startsWith extensionStart)

/-- The keys that look like extensions and are none. -/
def unknownExtensions (s : Schema) : List String :=
  s.extensionKeys.filter fun key => !allowedExtensions.contains key

/-- Whether the property is computed and not stored. -/
def isVirtual (s : Schema) : Bool :=
  match s.keyword? virtualKey with
  | some (.bool b) => b
  | _ => false

/-- What a node says about being left out. -/
inductive IgnoreMark where
  | absent
  | set (ignored : Bool)
  | malformed (value : Json)
deriving Repr

/-- What the node says about being left out. -/
def ignoreMark (s : Schema) : IgnoreMark :=
  match s.keyword? "x-fqm-ignore" with
  | none => .absent
  | some (.bool b) => .set b
  | some j => .malformed j

/-- Whether the node asks to be left out. -/
def isIgnored (s : Schema) : Bool :=
  match s.ignoreMark with
  | .set b => b
  | _ => false

/-- What a node says about its type outright. -/
inductive TypeOverride where
  | absent
  | known (tag : TypeTag)
  | unknown (tag : String)
deriving DecidableEq, Repr

/-- What the node says about its type outright. -/
def typeOverride (s : Schema) : TypeOverride :=
  match s.keyword? typeOverrideKey with
  | none => .absent
  | some j =>
      match j.text?.bind TypeTag.ofName? with
      | some tag => .known tag
      | none => .unknown (word j)

end Schema

end EntityCatalog
