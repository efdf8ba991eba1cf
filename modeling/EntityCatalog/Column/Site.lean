/-!
Where a value stands, relative to the document of its row.

A value is reached from the document by keys alone, or it stands inside the elements of an array
that is reached by keys.  Arrays inside the elements of an array add no level of their own: each
outer element contributes one value.
-/

namespace EntityCatalog

/-- How a value is reached, key by key. -/
inductive Scope where
  /-- From the document. -/
  | document (keys : List String)
  /-- From each element of the array that is reached by `array` from the document. -/
  | element (array keys : List String)
deriving DecidableEq, Repr

/-- A place in a document, with what an expression for it depends on. -/
structure Site where
  /-- The source that expressions are written against. -/
  sourceAlias : String
  /-- The schema that holds the helper functions of the database. -/
  schemaPrefix : String
  /-- Whether texts are compared without accents and case. -/
  legacyIndexStyle : Bool := false
  scope : Scope := .document []
  /-- The number of steps from the resource. -/
  depth : Nat := 0
deriving DecidableEq, Repr

/-- The steps through keys. -/
def keyPath (keys : List String) : String :=
  String.join (keys.map fun key => "->'" ++ key ++ "'")

theorem keyPath_cons (key : String) (keys : List String) :
    keyPath (key :: keys) = "->'" ++ key ++ "'" ++ keyPath keys := by
  simp [keyPath]

theorem keyPath_append (keys keys' : List String) :
    keyPath (keys ++ keys') = keyPath keys ++ keyPath keys' := by
  induction keys with
  | nil => simp [keyPath]
  | cons key keys ih =>
      rw [List.cons_append, keyPath_cons, ih, keyPath_cons]
      simp only [String.append_assoc]

theorem keyPath_concat (keys : List String) (key : String) :
    keyPath (keys ++ [key]) = keyPath keys ++ "->'" ++ key ++ "'" := by
  rw [keyPath_append, keyPath_cons]
  simp [keyPath, String.append_assoc]

namespace Site

/-- The document. -/
def document (s : Site) : String := ":" ++ s.sourceAlias ++ ".jsonb"

/-- What is reached from the document through keys. -/
def reach (s : Site) (keys : List String) : String := s.document ++ keyPath keys

/-- The place of a property of the value here. -/
def property (s : Site) (key : String) : Site :=
  { s with
    depth := s.depth + 1
    scope :=
      match s.scope with
      | .document keys => .document (keys ++ [key])
      | .element array keys => .element array (keys ++ [key]) }

/-- The place of the elements of the array here. -/
def elements (s : Site) : Site :=
  { s with
    depth := s.depth + 1
    scope :=
      match s.scope with
      | .document keys => .element keys []
      | .element array keys => .element array keys }

end Site

end EntityCatalog
