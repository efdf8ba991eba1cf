import EntityCatalog.Column.Flatten
import Mathlib.Data.List.Basic

/-!
# Flattening as a recursion

`flatten` goes round by round: each round opens every object among the columns once and keeps the
rest, until there is no object.  `Field.expanded` is the recursion that this comes to, column by
column and depth first, and `flatten_eq_flatMap` says that the two agree.  What a column becomes
then depends on the column alone, and statements about the flat columns go by induction on types.

The closing of properties inside arrays does not meet the flat columns themselves, so on these it is
a map that leaves everything but the type as it is: `restrictElements_eq_map`.
-/

namespace EntityCatalog

/-! ## The columns that a column comes to -/

mutual
/-- The flat columns of a column with a type. -/
def DataType.expanded : DataType → ColumnInfo → List Field
  | .leaf t, info => [⟨info, .leaf t⟩]
  | .object properties, info => expandedWithin properties info.name
  | .array kind item, info => [⟨info, .array kind item⟩]

/-- The flat columns of the properties of an object, under names that begin with its own. -/
def expandedWithin : List Field → String → List Field
  | [], _ => []
  | ⟨info, t⟩ :: rest, outer =>
      t.expanded { info with name := outer ++ "_" ++ Naming.snakeCase info.name }
        ++ expandedWithin rest outer
end

theorem DataType.exists_of_isObject {t : DataType} (h : t.isObject = true) :
    ∃ properties, t = .object properties := by
  cases t with
  | leaf t => exact absurd h (by simp [isObject])
  | object properties => exact ⟨properties, rfl⟩
  | array kind item => exact absurd h (by simp [isObject])

namespace Field

/-- The flat columns that a column comes to. -/
def expanded (f : Field) : List Field := f.dataType.expanded f.toColumnInfo

/-- The column under another name. -/
def renamed (f : Field) (name : String) : Field := { f with name }

theorem expanded_of_not_isObject {f : Field} (h : f.dataType.isObject = false) :
    f.expanded = [f] := by
  obtain ⟨info, t⟩ := f
  cases t with
  | leaf t => rfl
  | object properties => exact absurd h (by simp [DataType.isObject])
  | array kind item => rfl

end Field

theorem expandedWithin_eq (properties : List Field) (outer : String) :
    expandedWithin properties outer
      = (properties.map (Field.within outer)).flatMap Field.expanded := by
  induction properties with
  | nil => rfl
  | cons f rest ih =>
      cases f
      rw [expandedWithin, ih]
      rfl

theorem Field.expanded_of_object {f : Field} {properties : List Field}
    (h : f.dataType = .object properties) :
    f.expanded = (properties.map (Field.within f.name)).flatMap Field.expanded := by
  rw [expanded, h, DataType.expanded, expandedWithin_eq]

/-! ## Rounds -/

theorem flatMap_expanded_opened (f : Field) : f.opened.flatMap Field.expanded = f.expanded := by
  unfold Field.opened
  split
  · rename_i properties h
    rw [Field.expanded_of_object h]
  · rw [List.flatMap_singleton]

theorem flatMap_expanded_openAll (columns : List Field) :
    (openAll columns).flatMap Field.expanded = columns.flatMap Field.expanded := by
  rw [openAll, List.flatMap_assoc]
  exact List.flatMap_congr fun f _ => flatMap_expanded_opened f

theorem flatMap_expanded_of_flat {columns : List Field}
    (h : columns.any (·.dataType.isObject) = false) :
    columns.flatMap Field.expanded = columns := by
  induction columns with
  | nil => rfl
  | cons f rest ih =>
      rw [List.any_cons, Bool.or_eq_false_iff] at h
      rw [List.flatMap_cons, Field.expanded_of_not_isObject h.1, ih h.2, List.singleton_append]

/-- Rounds of opening come to the expansion of each column by itself. -/
theorem flatten_eq_flatMap (columns : List Field) :
    flatten columns = columns.flatMap Field.expanded := by
  induction columns using flatten.induct with
  | case1 columns h ih => rw [flatten, if_pos h, ih, flatMap_expanded_openAll]
  | case2 columns h =>
      rw [flatten, if_neg h, flatMap_expanded_of_flat (Bool.not_eq_true _ ▸ h)]

/-! ## Flat columns -/

mutual
theorem isObject_of_mem_expanded :
    ∀ (t : DataType) (info : ColumnInfo), ∀ c ∈ t.expanded info, c.dataType.isObject = false
  | .leaf t, info, c, hc => by
      rw [DataType.expanded, List.mem_singleton] at hc
      rw [hc]
      rfl
  | .object properties, info, c, hc => isObject_of_mem_expandedWithin properties info.name c hc
  | .array kind item, info, c, hc => by
      rw [DataType.expanded, List.mem_singleton] at hc
      rw [hc]
      rfl

theorem isObject_of_mem_expandedWithin :
    ∀ (fs : List Field) (outer : String),
      ∀ c ∈ expandedWithin fs outer, c.dataType.isObject = false
  | [], _, _, hc => absurd hc List.not_mem_nil
  | ⟨info, t⟩ :: rest, outer, c, hc => by
      rw [expandedWithin, List.mem_append] at hc
      rcases hc with hc | hc
      · exact isObject_of_mem_expanded t _ c hc
      · exact isObject_of_mem_expandedWithin rest outer c hc
end

/-- No flat column is an object. -/
theorem isObject_of_mem_flatten {columns : List Field} {c : Field} (h : c ∈ flatten columns) :
    c.dataType.isObject = false := by
  rw [flatten_eq_flatMap] at h
  obtain ⟨f, -, hc⟩ := List.mem_flatMap.mp h
  exact isObject_of_mem_expanded f.dataType f.toColumnInfo c hc

/-- A column whose properties inside arrays are closed to queries. -/
def Field.restricted (f : Field) : Field := { f with dataType := f.dataType.restrict false }

theorem isObject_restrict (inArray : Bool) (type : DataType) :
    (type.restrict inArray).isObject = type.isObject := by
  cases type <;> rfl

theorem restrictElements_eq_map (columns : List Field) :
    restrictElements columns = columns.map Field.restricted := by
  unfold restrictElements
  induction columns with
  | nil => rfl
  | cons f rest ih =>
      cases f
      rw [restrictAll, ih, Bool.not_false, Bool.and_true]
      rfl

end EntityCatalog
