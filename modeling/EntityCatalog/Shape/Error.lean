import EntityCatalog.Json.Printer
import EntityCatalog.Text.Quoted
import EntityCatalog.Uuid.Basic

/-!
Why a JSON value does not have the shape that is wanted, and the wording of each reason.
-/

namespace EntityCatalog.Shape

/-- A reason to refuse a value. -/
inductive Mismatch where
  /-- A member that must be present is absent. -/
  | missing (name : String)
  /-- A member that the shape does not have. -/
  | unknownMember (name : String) (known : List String)
  /-- A name that is none of a choice. -/
  | unknownChoice (name : String) (known : List String)
  /-- A value of another kind. -/
  | kind (found : Json) (wanted : String)
  /-- A value of the right kind that is out of place. -/
  | value (found : Json) (wanted : String)
  /-- An array of another length. -/
  | length (given : Nat) (wanted : String)
  /-- A value that has none of the shapes of a choice. -/
  | noAlternative (choice : String)
  /-- A scalar type with an item type or with properties. -/
  | nestedInScalar (tag : String)
  /-- A join of a kind that does not exist. -/
  | joinKind (kind : String)
  /-- A join by a condition of its own that does not give one. -/
  | customWithoutSql
  /-- A text that is no identifier. -/
  | uuid (reason : Uuid.Malformed)
deriving Repr

/-- A value as it is named in a message. -/
def describe : Json → String
  | .null => "null"
  | .bool b => "boolean `" ++ (if b then "true" else "false") ++ "`"
  | .number (.integer i) => "integer `" ++ toString i ++ "`"
  | .number (.double bits) => "floating point `" ++ Decimal.render bits ++ "`"
  | .string s => "string " ++ Text.quoted s
  | .array _ => "sequence"
  | .object _ => "map"

/-- A name in back quotes. -/
def backquoted (name : String) : String := "`" ++ name ++ "`"

/-- The names of a choice. -/
def oneOf : List String → String
  | [] => "nothing"
  | [a] => backquoted a
  | [a, b] => backquoted a ++ " or " ++ backquoted b
  | names => "one of " ++ ", ".intercalate (names.map backquoted)

/-- The reason in words. -/
def Mismatch.message : Mismatch → String
  | .missing name => "missing field " ++ backquoted name
  | .unknownMember name known => "unknown field " ++ backquoted name ++ ", expected " ++ oneOf known
  | .unknownChoice name known =>
      "unknown variant " ++ backquoted name ++ ", expected " ++ oneOf known
  | .kind found wanted => "invalid type: " ++ describe found ++ ", expected " ++ wanted
  | .value found wanted => "invalid value: " ++ describe found ++ ", expected " ++ wanted
  | .length given wanted => "invalid length " ++ toString given ++ ", expected " ++ wanted
  | .noAlternative choice => "data did not match any variant of untagged enum " ++ choice
  | .nestedInScalar tag => tag ++ " cannot carry nested types"
  | .joinKind other =>
      "invalid join type '" ++ other
        ++ "'; expected one of equality-simple, equality-cast-uuid, custom"
  | .customWithoutSql => "custom joins require a sql condition"
  | .uuid reason => "UUID parsing failed: " ++ reason.message

end EntityCatalog.Shape
