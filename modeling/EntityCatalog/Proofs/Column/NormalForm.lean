import EntityCatalog.Proofs.Column.Expansion
import Mathlib.Data.List.Forall2

/-!
# The normal form of columns

Columns are brought to a form by two passes: objects are opened until none is left, and properties
inside arrays are closed to queries.  The first goes through objects and stops at arrays, the second
goes through both and does something inside arrays only.  So neither undoes nor needs the other:
they commute (`flatten_restrictElements`), and each is done once for all.

What the second pass does is said place by place.  A place in a type is a path of steps, to a
property or to the items of an array; `at?_restrict` is the one induction, and says that closing a
type is closing what stands at the end of each path, inside an array if the path has come through
one.
-/

namespace EntityCatalog

/-! ## Places in a type -/

/-- A step into a type: to the property at an index, or to the items of an array. -/
inductive TypeStep where
  | property (index : Nat)
  | items
deriving DecidableEq, Repr

/-- The type at the end of a path, if the path leads anywhere. -/
def DataType.at? : List TypeStep → DataType → Option DataType
  | [], t => some t
  | .property i :: path, .object properties => properties[i]?.bind fun f => at? path f.dataType
  | .items :: path, .array _ item => at? path item
  | _ :: _, _ => none

/-- A property, closed to queries if it stands inside an array, and restricted below. -/
def Field.restrictedWithin (inArray : Bool) (f : Field) : Field :=
  { f with queryable := f.queryable && !inArray, dataType := f.dataType.restrict inArray }

theorem restrictAll_eq_map (inArray : Bool) (fs : List Field) :
    restrictAll inArray fs = fs.map (Field.restrictedWithin inArray) := by
  induction fs with
  | nil => rfl
  | cons f fs ih =>
      cases f
      rw [restrictAll, ih]
      rfl

/-- Closing a type closes what stands at the end of each path. -/
theorem at?_restrict (path : List TypeStep) (inArray : Bool) (t : DataType) :
    (t.restrict inArray).at? path
      = (t.at? path).map (DataType.restrict (inArray || path.contains .items)) := by
  induction path generalizing inArray t with
  | nil => simp [DataType.at?]
  | cons step path ih =>
      cases t with
      | leaf t => cases step <;> rfl
      | object properties =>
          cases step with
          | items => rfl
          | property i =>
              rw [DataType.restrict, DataType.at?, DataType.at?, restrictAll_eq_map,
                List.getElem?_map]
              cases properties[i]? with
              | none => rfl
              | some f => exact ih inArray f.dataType
      | array kind item =>
          cases step with
          | property i => rfl
          | items =>
              rw [DataType.restrict, DataType.at?, DataType.at?, ih]
              simp

theorem tag_restrict (inArray : Bool) (t : DataType) : (t.restrict inArray).tag = t.tag := by
  cases t <;> rfl

/-! ## What the closing pass does -/

/-- Whether a column differs from another in nothing but that properties inside arrays are closed to
queries: where the one has a type, the other has one of the same tag, and the properties of an
object have the same members, but for the mark of those to which the path has led through an
array. -/
structure Field.ClosedFrom (c c' : Field) : Prop where
  info : c'.toColumnInfo = c.toColumnInfo
  tag : ∀ path, (c'.dataType.at? path).map DataType.tag = (c.dataType.at? path).map DataType.tag
  properties : ∀ path properties, c.dataType.at? path = some (.object properties) →
    ∃ properties', c'.dataType.at? path = some (.object properties') ∧
      properties'.map Field.toColumnInfo
        = properties.map fun f =>
            if .items ∈ path then { f.toColumnInfo with queryable := false } else f.toColumnInfo

theorem Field.closedFrom_restricted (c : Field) : c.ClosedFrom c.restricted where
  info := rfl
  tag := by
    intro path
    show ((c.dataType.restrict false).at? path).map DataType.tag = _
    rw [at?_restrict, Option.map_map]
    exact congrArg (Option.map · (c.dataType.at? path)) (funext fun t => tag_restrict _ t)
  properties := by
    intro path properties h
    refine ⟨restrictAll (path.contains .items) properties, ?_, ?_⟩
    · show (c.dataType.restrict false).at? path = _
      rw [at?_restrict, h]
      rfl
    · rw [restrictAll_eq_map, List.map_map]
      refine List.map_congr_left fun f _ => ?_
      by_cases hpath : TypeStep.items ∈ path
      · simp [Field.restrictedWithin, hpath]
      · simp [Field.restrictedWithin, hpath]

/-! ## Columns in normal form -/

/-- Whether a column is no object, and no property inside an array can be queried. -/
structure Field.IsNormal (c : Field) : Prop where
  flat : c.dataType.isObject = false
  closed : ∀ path properties, .items ∈ path → c.dataType.at? path = some (.object properties) →
    ∀ f ∈ properties, f.queryable = false

theorem Field.isNormal_congr {c c' : Field} (htype : c'.dataType = c.dataType) (h : c.IsNormal) :
    c'.IsNormal where
  flat := htype ▸ h.flat
  closed := by
    intro path properties hpath hat
    rw [htype] at hat
    exact h.closed path properties hpath hat

theorem Field.isNormal_restricted {c : Field} (h : c.dataType.isObject = false) :
    c.restricted.IsNormal where
  flat := (isObject_restrict false c.dataType).trans h
  closed := by
    intro path properties hpath hat f hf
    have hmap : (c.dataType.restrict false).at? path = some (.object properties) := hat
    rw [at?_restrict, Option.map_eq_some_iff] at hmap
    obtain ⟨t, -, ht⟩ := hmap
    cases t with
    | leaf t => exact absurd ht (by simp [DataType.restrict])
    | array kind item => exact absurd ht (by simp [DataType.restrict])
    | object inner =>
        rw [DataType.restrict, restrictAll_eq_map] at ht
        obtain rfl := DataType.object.inj ht
        obtain ⟨g, -, rfl⟩ := List.mem_map.mp hf
        simp [Field.restrictedWithin, hpath]

/-! ## The two passes in either order -/

mutual
/-- A closed column is opened to the closed forms of what it is opened to. -/
theorem expanded_restrict :
    ∀ (t : DataType) (info : ColumnInfo),
      (t.restrict false).expanded info = (t.expanded info).map Field.restricted
  | .leaf _, _ => rfl
  | .object properties, info => expandedWithin_restrictAll properties info.name
  | .array _ _, _ => rfl

theorem expandedWithin_restrictAll :
    ∀ (fs : List Field) (outer : String),
      expandedWithin (restrictAll false fs) outer = (expandedWithin fs outer).map Field.restricted
  | [], _ => rfl
  | ⟨info, t⟩ :: rest, outer => by
      rw [restrictAll, expandedWithin, expandedWithin, expanded_restrict t,
        expandedWithin_restrictAll rest, List.map_append, Bool.not_false, Bool.and_true]
end

theorem flatten_restrictElements (columns : List Field) :
    flatten (restrictElements columns) = restrictElements (flatten columns) := by
  rw [restrictElements_eq_map, restrictElements_eq_map, flatten_eq_flatMap, flatten_eq_flatMap,
    List.flatMap_map, List.map_flatMap]
  exact List.flatMap_congr fun f _ => expanded_restrict f.dataType f.toColumnInfo

mutual
theorem restrict_restrict :
    ∀ (t : DataType) (inArray : Bool), (t.restrict inArray).restrict inArray = t.restrict inArray
  | .leaf _, _ => rfl
  | .object properties, inArray => by
      rw [DataType.restrict, DataType.restrict, restrictAll_restrictAll properties inArray]
  | .array _ item, _ => by
      rw [DataType.restrict, DataType.restrict, restrict_restrict item true]

theorem restrictAll_restrictAll :
    ∀ (fs : List Field) (inArray : Bool),
      restrictAll inArray (restrictAll inArray fs) = restrictAll inArray fs
  | [], _ => rfl
  | ⟨info, t⟩ :: rest, inArray => by
      rw [restrictAll, restrictAll, restrict_restrict t inArray,
        restrictAll_restrictAll rest inArray, Bool.and_assoc, Bool.and_self]
end

theorem flatten_flatten (columns : List Field) : flatten (flatten columns) = flatten columns := by
  have hflat : ¬ (flatten columns).any (·.dataType.isObject) = true := by
    intro h
    obtain ⟨c, hc, hobject⟩ := List.any_eq_true.mp h
    exact absurd hobject (by simp [isObject_of_mem_flatten hc])
  rw [flatten, if_neg hflat]

/-- What flattening and closing come to. -/
structure BroughtToNormalForm (columns : List Field) : Prop where
  normal : ∀ c ∈ restrictElements (flatten columns), c.IsNormal
  /-- Beside what flattening does, only the marks of properties inside arrays are changed. -/
  unchanged : List.Forall₂ Field.ClosedFrom (flatten columns) (restrictElements (flatten columns))
  commute : flatten (restrictElements columns) = restrictElements (flatten columns)
  again : restrictElements (flatten (restrictElements (flatten columns)))
    = restrictElements (flatten columns)

theorem broughtToNormalForm (columns : List Field) : BroughtToNormalForm columns where
  normal := by
    intro c hc
    rw [restrictElements_eq_map] at hc
    obtain ⟨f, hf, rfl⟩ := List.mem_map.mp hc
    exact Field.isNormal_restricted (isObject_of_mem_flatten hf)
  unchanged := by
    rw [restrictElements_eq_map, List.forall₂_map_right_iff]
    exact List.forall₂_same.mpr fun c _ => c.closedFrom_restricted
  commute := flatten_restrictElements columns
  again := by
    rw [flatten_restrictElements, flatten_flatten]
    exact restrictAll_restrictAll (flatten columns) false

end EntityCatalog
