import EntityCatalog.Proofs.Column.Depth
import EntityCatalog.Proofs.Column.Expansion

/-!
# What flattening leaves of a column

Flattening goes through objects and stops at arrays.  An object on its way is opened: its properties
stay, under longer names, and all that its own column said is gone.  `markedFields` tells for each
column at any depth whether that happens to it, and `lastingFields` are those to which it does not.

A lasting column is in the flat form once, in its place, and says the same about joins as before
(`map_joinPart_flat`): it may have another name, and its properties may be closed to queries, but
neither touches its joins or the condition that they get.
-/

namespace EntityCatalog

/-! ## Columns that are opened -/

mutual
/-- The properties in a type, at any depth, each with whether it is opened.  Inside an array none
is. -/
def DataType.marked (inDocument : Bool) : DataType → List (Bool × Field)
  | .leaf _ => []
  | .object properties => markedFields inDocument properties
  | .array _ item => item.marked false

/-- Columns with the properties in their types, at any depth, each with whether it is opened. -/
def markedFields (inDocument : Bool) : List Field → List (Bool × Field)
  | [] => []
  | ⟨info, t⟩ :: rest =>
      (inDocument && t.isObject, ⟨info, t⟩)
        :: (t.marked inDocument ++ markedFields inDocument rest)
end

theorem markedFields_cons (inDocument : Bool) (f : Field) (fs : List Field) :
    markedFields inDocument (f :: fs)
      = (inDocument && f.dataType.isObject, f)
          :: (f.dataType.marked inDocument ++ markedFields inDocument fs) := by
  cases f
  rw [markedFields]

theorem markedFields_append (inDocument : Bool) (fs gs : List Field) :
    markedFields inDocument (fs ++ gs)
      = markedFields inDocument fs ++ markedFields inDocument gs := by
  induction fs with
  | nil => rfl
  | cons f fs ih =>
      rw [List.cons_append, markedFields_cons, markedFields_cons, ih, List.cons_append,
        List.append_assoc]

theorem markedFields_flatMap {α : Type} (inDocument : Bool) (columns : α → List Field)
    (l : List α) :
    markedFields inDocument (l.flatMap columns)
      = l.flatMap fun a => markedFields inDocument (columns a) := by
  induction l with
  | nil => rfl
  | cons a l ih => rw [List.flatMap_cons, List.flatMap_cons, markedFields_append, ih]

mutual
theorem marked_false : ∀ t : DataType, t.marked false = t.innerFields.map fun f => (false, f)
  | .leaf _ => rfl
  | .object properties => markedFields_false properties
  | .array _ item => marked_false item

/-- Inside an array the marked columns are all columns, and none is opened. -/
theorem markedFields_false :
    ∀ fs : List Field, markedFields false fs = (allFields fs).map fun f => (false, f)
  | [] => rfl
  | ⟨info, t⟩ :: rest => by
      rw [markedFields, marked_false t, markedFields_false rest, allFields, List.map_cons,
        List.map_append]
      rfl
end

/-! ## Columns that last -/

/-- The columns of a list with marks that are not opened. -/
def unopened (marked : List (Bool × Field)) : List Field :=
  (marked.filter fun m => !m.1).map Prod.snd

theorem unopened_append (l l' : List (Bool × Field)) :
    unopened (l ++ l') = unopened l ++ unopened l' := by
  rw [unopened, List.filter_append, List.map_append]
  rfl

theorem unopened_map_false (fs : List Field) : unopened (fs.map fun f => (false, f)) = fs := by
  induction fs with
  | nil => rfl
  | cons f fs ih => exact congrArg (f :: ·) ih

/-- The columns at any depth that are not opened. -/
def lastingFields (fs : List Field) : List Field := unopened (markedFields true fs)

theorem lastingFields_append (fs gs : List Field) :
    lastingFields (fs ++ gs) = lastingFields fs ++ lastingFields gs := by
  rw [lastingFields, markedFields_append, unopened_append]
  rfl

theorem lastingFields_object (info : ColumnInfo) (properties : List Field) :
    lastingFields [⟨info, .object properties⟩] = lastingFields properties := by
  show unopened (markedFields true properties ++ []) = _
  rw [List.append_nil]
  rfl

theorem lastingFields_array (info : ColumnInfo) (kind : ArrayKind) (item : DataType) :
    lastingFields [⟨info, .array kind item⟩] = ⟨info, .array kind item⟩ :: item.innerFields := by
  show ⟨info, .array kind item⟩ :: unopened (item.marked false ++ []) = _
  rw [List.append_nil, marked_false, unopened_map_false]

/-! ## What a column says about joins -/

/-- What a column says about joins: those that are declared, those that lead to an identifier, and
the condition of one that gives none. -/
structure JoinPart where
  declared : List DeclaredJoin
  resolved : List ResolvedJoin
  condition : JoinCondition
deriving DecidableEq, Repr

/-- What a column says about joins. -/
def Field.joinPart (f : Field) : JoinPart :=
  ⟨f.declaredJoins, f.joinsTo.getD [], f.dataType.joinCondition⟩

theorem allFields_append (fs gs : List Field) :
    allFields (fs ++ gs) = allFields fs ++ allFields gs := by
  induction fs with
  | nil => rfl
  | cons f fs ih =>
      cases f
      rw [List.cons_append, allFields, allFields, ih, List.cons_append, List.append_assoc]

mutual
/-- Opening a column until there is no object left, under any name, leaves what the lasting columns
say about joins. -/
theorem map_joinPart_expanded :
    ∀ (t : DataType) (info : ColumnInfo) (name : String),
      (allFields (t.expanded { info with name })).map Field.joinPart
        = (lastingFields [⟨info, t⟩]).map Field.joinPart
  | .leaf t, info, name => rfl
  | .object properties, info, name => by
      rw [lastingFields_object]
      exact map_joinPart_expandedWithin properties name
  | .array kind item, info, name => by
      rw [lastingFields_array, DataType.expanded, allFields, allFields, List.append_nil]
      rfl

theorem map_joinPart_expandedWithin :
    ∀ (fs : List Field) (outer : String),
      (allFields (expandedWithin fs outer)).map Field.joinPart
        = (lastingFields fs).map Field.joinPart
  | [], _ => rfl
  | ⟨info, t⟩ :: rest, outer => by
      rw [expandedWithin, allFields_append, List.map_append, map_joinPart_expanded t info _,
        map_joinPart_expandedWithin rest outer, ← List.map_append, ← lastingFields_append]
      rfl
end

theorem map_joinPart_flatMap_expanded (fs : List Field) :
    (allFields (fs.flatMap Field.expanded)).map Field.joinPart
      = (lastingFields fs).map Field.joinPart := by
  induction fs with
  | nil => rfl
  | cons f fs ih =>
      have hone : (allFields f.expanded).map Field.joinPart
          = (lastingFields [f]).map Field.joinPart := by
        obtain ⟨info, t⟩ := f
        exact map_joinPart_expanded t info info.name
      rw [List.flatMap_cons, allFields_append, List.map_append, ih, ← List.singleton_append,
        lastingFields_append, List.map_append, hone]

/-! ## Columns that are closed to queries -/

theorem joinCondition_restrict (inArray : Bool) (t : DataType) :
    (t.restrict inArray).joinCondition = t.joinCondition := by
  cases t <;> rfl

mutual
theorem map_joinPart_innerFields_restrict :
    ∀ (t : DataType) (inArray : Bool),
      (t.restrict inArray).innerFields.map Field.joinPart = t.innerFields.map Field.joinPart
  | .leaf _, _ => rfl
  | .object properties, inArray => map_joinPart_restrictAll properties inArray
  | .array _ item, _ => map_joinPart_innerFields_restrict item true

theorem map_joinPart_restrictAll :
    ∀ (fs : List Field) (inArray : Bool),
      (allFields (restrictAll inArray fs)).map Field.joinPart = (allFields fs).map Field.joinPart
  | [], _ => rfl
  | ⟨info, t⟩ :: rest, inArray => by
      rw [restrictAll, allFields, allFields, List.map_cons, List.map_cons, List.map_append,
        List.map_append, map_joinPart_innerFields_restrict t inArray,
        map_joinPart_restrictAll rest inArray]
      congr 1
      exact congrArg (JoinPart.mk _ _) (joinCondition_restrict inArray t)
end

/-- The flat columns, at any depth, say about joins what the lasting columns say, in order. -/
theorem map_joinPart_flat (fs : List Field) :
    (allFields ((fs.flatMap Field.expanded).map Field.restricted)).map Field.joinPart
      = (lastingFields fs).map Field.joinPart := by
  rw [← restrictElements_eq_map, restrictElements, map_joinPart_restrictAll,
    map_joinPart_flatMap_expanded]

end EntityCatalog
