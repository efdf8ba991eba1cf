import EntityCatalog.Naming
import EntityCatalog.Text.Replace

/-!
The keys of labels, as a module writes them and as a batch does.

A module names its resources by themselves, a batch with the module in front:

    fqm.entityType.<resource>...
    entityType.<module>__<resource>...

What stands behind the resource, from the first dot on, is the same in both.
-/

namespace EntityCatalog.Label

/-- How keys begin that a module writes. -/
def externalPrefix : String := "fqm."

/-- A text as what stands before its first dot, and the rest. -/
def atDot (s : String) : String × String :=
  (String.ofList (s.toList.takeWhile (· != '.')), String.ofList (s.toList.dropWhile (· != '.')))

/-- What follows the first double underscore, if there is one. -/
def afterFirstSeparator? : List Char → Option (List Char)
  | '_' :: '_' :: rest => some rest
  | _ :: rest => afterFirstSeparator? rest
  | [] => none

/-- The resource in the name of an entity type. -/
def resourceOf (entity : String) : String :=
  ((afterFirstSeparator? entity.toList).map String.ofList).getD entity

/-- The key of a batch for a key that a module writes, if it is one of an entity type. -/
def toBatch? (moduleName key : String) : Option String :=
  (Text.stripStart? "fqm.entityType." key).map fun rest =>
    let (resource, below) := atDot rest
    "entityType." ++ Naming.qualifiedName moduleName resource ++ below

/-- The key that a module writes for a key of a batch. -/
def toModule (key : String) : String :=
  match Text.stripStart? "entityType." key with
  | some rest =>
      let (entity, below) := atDot rest
      "fqm.entityType." ++ resourceOf entity ++ below
  | none => externalPrefix ++ key

end EntityCatalog.Label
