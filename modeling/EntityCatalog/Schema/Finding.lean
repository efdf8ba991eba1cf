import EntityCatalog.Json.Printer
import EntityCatalog.Shape.Error

/-!
What is found wrong with a schema while types and columns are made from it.

A finding is raised at a node; on the way up it collects the steps from the property that was
asked for down to that node, and is worded with them in front, outermost first.
-/

namespace EntityCatalog

/-- A visibility that does not exist, the one finding that ends the work on a resource. -/
structure InvalidVisibility where
  property : String
  value : String
deriving DecidableEq, Repr

/-- The finding in words. -/
def InvalidVisibility.message (e : InvalidVisibility) : String :=
  "Invalid value for x-fqm-visibility in property " ++ e.property ++ ": " ++ e.value

/-- Something wrong with a node. -/
inductive Finding where
  /-- Keys that look like extensions and are none. -/
  | unknownExtensions (owner : String) (keys : List String)
  /-- A wish to be left out that is not a truth value. -/
  | malformedIgnore (property : String) (found : Json)
  /-- Joins that have not the shape of joins. -/
  | malformedJoins (reason : Shape.Mismatch)
  /-- An extension that has not its shape. -/
  | malformedExtension (key property : String) (reason : Shape.Mismatch)
  /-- A getter that is neither a text nor null. -/
  | malformedGetter (key property : String) (found : Json)
  /-- A type that does not exist. -/
  | unknownOverride (tag : String)
  /-- A reference that does not tell a type. -/
  | unknownReference (reference : String)
  /-- A `type` that is not understood, or none at all. -/
  | unknownType (keyword : Option String)
  /-- An array that does not say what it holds. -/
  | unknownItems
  /-- A node below the last level that is looked at. -/
  | tooDeep
  /-- A computed property of which nothing says whether it is wanted. -/
  | virtualProperty
  /-- A property that yields no column. -/
  | noField
deriving Repr

/-- The number of levels below a resource that are looked at. -/
def maxSchemaDepth : Nat := 32

/-- Keys that look like extensions and are none, in words. -/
def unknownExtensionsMessage (owner : String) (keys : List String) : String :=
  "Invalid custom properties found for " ++ owner ++ ": " ++ ", ".intercalate keys

/-- The finding in words. -/
def Finding.message : Finding → String
  | .unknownExtensions owner keys => unknownExtensionsMessage owner keys
  | .malformedIgnore property found =>
      "Invalid value for x-fqm-ignore in property " ++ property ++ ": expected a boolean, got "
        ++ found.compact
  | .malformedJoins reason => "Error parsing x-fqm-joins-to: " ++ reason.message
  | .malformedExtension key property reason =>
      "Invalid value for " ++ key ++ " in property " ++ property ++ ": " ++ reason.message
  | .malformedGetter key property found =>
      "Invalid value for " ++ key ++ " in property " ++ property
        ++ ": expected a string or null, got " ++ found.compact
  | .unknownOverride tag => "Unknown data type override: " ++ tag
  | .unknownReference reference => "Unknown reference: \"" ++ reference ++ "\""
  | .unknownType keyword => "Unknown type: " ++ keyword.getD "undefined"
  | .unknownItems => "Array type with unknown item type; defaulting to string"
  | .tooDeep =>
      "Schema nesting exceeds depth " ++ toString maxSchemaDepth ++ "; treating as string"
  | .virtualProperty =>
      "It looks like this is a virtual property (folio:isVirtual=true); set x-fqm-ignore to true or false to silence this warning"
  | .noField => "unable to generate field"

/-- A step from a node to one below it. -/
inductive Step where
  | property (name : String)
  | items
deriving DecidableEq, Repr

/-- The step in words, in front of what was found behind it. -/
def Step.message : Step → String
  | .property name => "in object property " ++ name ++ ": "
  | .items => "in array: "

/-- A finding with the steps that lead to it. -/
structure Located where
  steps : List Step := []
  finding : Finding
deriving Repr

namespace Located

/-- A finding at the node itself. -/
def here (finding : Finding) : Located := { finding }

/-- The finding as it is seen one step further up. -/
def under (step : Step) (l : Located) : Located := { l with steps := step :: l.steps }

/-- The finding in words, behind the steps that lead to it. -/
def message (l : Located) : String :=
  l.steps.foldr (fun step rest => step.message ++ rest) l.finding.message

@[simp] theorem message_here (f : Finding) : (here f).message = f.message := rfl

@[simp] theorem message_under (step : Step) (l : Located) :
    (l.under step).message = step.message ++ l.message := rfl

end Located

/-- A result with what was found on the way to it. -/
structure Noted (α : Type) where
  value : α
  findings : List Located

end EntityCatalog
