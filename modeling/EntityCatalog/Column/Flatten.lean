import EntityCatalog.Column.Basic
import EntityCatalog.Naming

/-!
Columns without objects.

The query engine has no columns for objects.  A column that is one is opened: its properties take
its place, under names that begin with its own.  `flatten` opens columns as long as there is one
to open; `nesting_openAll_lt` is why that ends.  Objects inside arrays stay as they are, but the
engine cannot ask for their properties, which `restrictElements` therefore closes to queries.
-/

namespace EntityCatalog

/-! ## The depth of objects in objects -/

mutual
/-- The number of objects on the longest way from a type through objects alone. -/
def DataType.nesting : DataType → Nat
  | .object properties => nesting properties + 1
  | _ => 0

/-- The number of objects on the longest way from some columns through objects alone. -/
def nesting : List Field → Nat
  | [] => 0
  | ⟨_, t⟩ :: rest => max t.nesting (nesting rest)
end

theorem nesting_cons (f : Field) (fs : List Field) :
    nesting (f :: fs) = max f.dataType.nesting (nesting fs) := by
  cases f
  rw [nesting]

theorem nesting_append (fs gs : List Field) :
    nesting (fs ++ gs) = max (nesting fs) (nesting gs) := by
  induction fs with
  | nil => simp [nesting]
  | cons f rest ih => simp only [List.cons_append, nesting_cons, ih, Nat.max_assoc]

/-! ## Opening -/

/-- A property as a column of the object that holds it. -/
def Field.within (outer : String) (f : Field) : Field :=
  { f with name := outer ++ "_" ++ Naming.snakeCase f.name }

/-- The columns that take the place of a column. -/
def Field.opened (f : Field) : List Field :=
  match f.dataType with
  | .object properties => properties.map (Field.within f.name)
  | _ => [f]

/-- The columns with each object among them opened once. -/
def openAll (columns : List Field) : List Field := columns.flatMap Field.opened

theorem nesting_map_within (outer : String) (fs : List Field) :
    nesting (fs.map (Field.within outer)) = nesting fs := by
  induction fs with
  | nil => rfl
  | cons f rest ih => simp [nesting_cons, ih, Field.within]

/-- What takes the place of a column nests less deep, by one if the column is an object. -/
theorem nesting_opened (f : Field) : nesting f.opened = f.dataType.nesting - 1 := by
  unfold Field.opened
  split
  · rename_i properties h
    rw [h, nesting_map_within, DataType.nesting, Nat.add_sub_cancel]
  · rename_i h
    rw [nesting_cons, nesting]
    cases ht : f.dataType with
    | object properties => exact absurd ht (h properties)
    | leaf _ => rfl
    | array _ _ => rfl

theorem nesting_openAll (columns : List Field) :
    nesting (openAll columns) = nesting columns - 1 := by
  induction columns with
  | nil => rfl
  | cons f rest ih =>
    have h : openAll (f :: rest) = f.opened ++ openAll rest := rfl
    rw [h, nesting_append, nesting_opened, ih, nesting_cons]
    omega

/-- Where an object is among the columns, opening all of them makes the nesting less deep. -/
theorem nesting_openAll_lt (columns : List Field)
    (h : columns.any (·.dataType.isObject) = true) :
    nesting (openAll columns) < nesting columns := by
  have hpos : 0 < nesting columns := by
    induction columns with
    | nil => simp at h
    | cons f rest ih =>
      rw [nesting_cons]
      simp only [List.any_cons, Bool.or_eq_true] at h
      rcases h with h | h
      · cases ht : f.dataType with
        | object properties =>
          rw [DataType.nesting]
          omega
        | leaf _ => simp [ht, DataType.isObject] at h
        | array _ _ => simp [ht, DataType.isObject] at h
      · have := ih h
        omega
  rw [nesting_openAll]
  omega

/-- The columns with objects opened until there is none. -/
def flatten (columns : List Field) : List Field :=
  if columns.any (·.dataType.isObject) then flatten (openAll columns) else columns
termination_by nesting columns
decreasing_by exact nesting_openAll_lt columns ‹_›

/-! ## Objects in arrays -/

mutual
/-- A type whose properties are closed to queries where they stand inside an array. -/
def DataType.restrict (inArray : Bool) : DataType → DataType
  | .leaf t => .leaf t
  | .object properties => .object (restrictAll inArray properties)
  | .array kind item => .array kind (item.restrict true)

/-- Properties, closed to queries if they stand inside an array, and restricted below. -/
def restrictAll (inArray : Bool) : List Field → List Field
  | [] => []
  | ⟨info, t⟩ :: rest =>
      ⟨{ info with queryable := info.queryable && !inArray }, t.restrict inArray⟩
        :: restrictAll inArray rest
end

/-- The columns with every property inside an array closed to queries. -/
def restrictElements (columns : List Field) : List Field := restrictAll false columns

end EntityCatalog
