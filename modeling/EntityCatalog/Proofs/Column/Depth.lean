import EntityCatalog.Column.Basic

/-!
# The columns at any depth

A statement about a batch is seldom about its columns alone: it is about the properties of objects,
and those of the items of arrays, in any nesting.  `allFields` lists them all, a column before what
its type holds, so such a statement is one about the members of a list, and one that compares two
batches is one about two lists of equal length.
-/

namespace EntityCatalog

mutual
/-- The properties in a type, at any depth, each before what it holds. -/
def DataType.innerFields : DataType → List Field
  | .leaf _ => []
  | .object properties => allFields properties
  | .array _ item => item.innerFields

/-- Columns with the properties in their types, at any depth, each before what it holds. -/
def allFields : List Field → List Field
  | [] => []
  | ⟨info, t⟩ :: rest => ⟨info, t⟩ :: (t.innerFields ++ allFields rest)
end

end EntityCatalog
