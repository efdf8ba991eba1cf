import EntityCatalog.Proofs.Column.NormalForm
import Mathlib.Logic.Function.Iterate

/-!
# Where flat columns come from

A column, or a property below one through objects alone, has a place: which column it is or stands
in, which of its properties, and so on.  `placed` lists what has a place, each with the objects that
it stands in.  Two things pin the list down.  It has what stands in the columns and nothing else
(`mem_placed_iff`), and its places ascend, so it has nothing twice and an object before what stands
in it (`pairwise_placedFrom`).

Flattening leaves of this list what is no object, in order and each once, under a name made of all
the names on the way (`flatten_eq_map_placed`).  The rounds in which it goes about that are counted
by the nesting: each takes one level off (`nesting_iterate_openAll`), so the last one is done when
no object is left, and never before.
-/

namespace EntityCatalog

/-! ## Rounds -/

theorem nesting_pos_iff (columns : List Field) :
    0 < nesting columns ↔ columns.any (·.dataType.isObject) = true := by
  induction columns with
  | nil => simp [nesting]
  | cons f rest ih =>
      have hone : 0 < f.dataType.nesting ↔ f.dataType.isObject = true := by
        cases f.dataType <;> simp [DataType.nesting, DataType.isObject]
      rw [nesting_cons, List.any_cons, Bool.or_eq_true, ← ih, ← hone]
      omega

/-- Each round takes one level off. -/
theorem nesting_iterate_openAll (n : Nat) (columns : List Field) :
    nesting (openAll^[n] columns) = nesting columns - n := by
  induction n generalizing columns with
  | zero => rfl
  | succ n ih =>
      rw [Function.iterate_succ_apply, ih, nesting_openAll]
      omega

theorem flatten_eq_iterate (columns : List Field) :
    flatten columns = openAll^[nesting columns] columns := by
  induction columns using flatten.induct with
  | case1 columns h ih =>
      have hpos : 0 < nesting columns := (nesting_pos_iff columns).mpr h
      obtain ⟨n, hn⟩ : ∃ n, nesting columns = n + 1 := ⟨nesting columns - 1, by omega⟩
      rw [flatten, if_pos h, ih, nesting_openAll, hn, Nat.add_sub_cancel,
        Function.iterate_succ_apply]
  | case2 columns h =>
      have hzero : nesting columns = 0 :=
        Nat.eq_zero_of_not_pos fun hpos => h ((nesting_pos_iff columns).mp hpos)
      rw [flatten, if_neg h, hzero]
      rfl

theorem flatten_append (columns others : List Field) :
    flatten (columns ++ others) = flatten columns ++ flatten others := by
  rw [flatten_eq_flatMap, flatten_eq_flatMap, flatten_eq_flatMap, List.flatMap_append]

/-! ## Places -/

/-- A column, or a property below one through objects alone. -/
structure Placed where
  /-- Which column, which of its properties, and so on. -/
  place : List Nat
  /-- The objects that it stands in, the outermost first. -/
  objects : List Field
  field : Field

/-- A name behind that of an object. -/
def nameWithin (outer : String) (f : Field) : String := outer ++ "_" ++ Naming.snakeCase f.name

namespace Placed

/-- What stands in an object, as seen from among the columns with the object. -/
def under (index : Nat) (object : Field) (p : Placed) : Placed :=
  ⟨index :: p.place, object :: p.objects, p.field⟩

/-- The name made of all the names on the way, where that of the column at its beginning may be
changed. -/
def nameBy (rename : Field → String) (p : Placed) : String :=
  match p.objects with
  | [] => rename p.field
  | object :: objects => (objects ++ [p.field]).foldl nameWithin (rename object)

/-- Below an object, names begin with the object's. -/
theorem nameBy_under (rename : Field → String) (i : Nat) (object : Field) (p : Placed) :
    (p.under i object).nameBy rename = p.nameBy (nameWithin (rename object)) := by
  obtain ⟨place, objects, field⟩ := p
  cases objects <;> rfl

/-- The flat column: all but the name is as it was. -/
def column (p : Placed) : Field := p.field.renamed (p.nameBy fun f => f.name)

/-- Whether it is no object. -/
def isLeaf (p : Placed) : Bool := !p.field.dataType.isObject

end Placed

/-- What stands among columns: they themselves, and what stands among the properties of one. -/
inductive StandsIn : List Field → Placed → Prop
  | column {columns : List Field} {i : Nat} {f : Field} : columns[i]? = some f →
      StandsIn columns ⟨[i], [], f⟩
  | property {columns properties : List Field} {i : Nat} {f : Field} {p : Placed} :
      columns[i]? = some f → f.dataType = .object properties → StandsIn properties p →
        StandsIn columns (p.under i f)

mutual
/-- What stands in a type. -/
def DataType.placed : DataType → List Placed
  | .leaf _ => []
  | .object properties => placedFrom 0 properties
  | .array _ _ => []

/-- What stands among columns that are counted from an index on, each object before what stands in
it. -/
def placedFrom : Nat → List Field → List Placed
  | _, [] => []
  | i, ⟨info, t⟩ :: rest =>
      ⟨[i], [], ⟨info, t⟩⟩ :: (t.placed.map (Placed.under i ⟨info, t⟩) ++ placedFrom (i + 1) rest)
end

/-- What stands among columns. -/
def placed (columns : List Field) : List Placed := placedFrom 0 columns

/-- A column and what stands in it. -/
def Field.placedAt (i : Nat) (f : Field) : List Placed :=
  ⟨[i], [], f⟩ :: f.dataType.placed.map (Placed.under i f)

theorem placedFrom_cons (i : Nat) (f : Field) (rest : List Field) :
    placedFrom i (f :: rest) = f.placedAt i ++ placedFrom (i + 1) rest := by
  cases f
  rw [placedFrom]
  rfl

theorem mem_placedFrom {i : Nat} {columns : List Field} {p : Placed} :
    p ∈ placedFrom i columns ↔
      ∃ (j : Nat) (f : Field), columns[j]? = some f ∧ p ∈ f.placedAt (i + j) := by
  induction columns generalizing i with
  | nil => simp [placedFrom]
  | cons f rest ih =>
      rw [placedFrom_cons, List.mem_append, ih]
      constructor
      · rintro (h | ⟨j, g, hg, h⟩)
        · exact ⟨0, f, rfl, h⟩
        · exact ⟨j + 1, g, hg, by rwa [Nat.add_right_comm] at h⟩
      · rintro ⟨j, g, hg, h⟩
        cases j with
        | zero =>
            obtain rfl : f = g := Option.some.inj hg
            exact Or.inl h
        | succ j => exact Or.inr ⟨j, g, hg, by rwa [Nat.add_right_comm]⟩

/-- The list has what stands among the columns and nothing else. -/
theorem mem_placed_iff {columns : List Field} {p : Placed} :
    p ∈ placed columns ↔ StandsIn columns p := by
  constructor
  · intro h
    -- the place gets shorter on the way in
    induction hplace : p.place generalizing columns p with
    | nil =>
        obtain ⟨i, f, -, hp⟩ := mem_placedFrom.mp h
        rcases List.mem_cons.mp hp with rfl | hp
        · exact absurd hplace (List.cons_ne_nil _ _)
        · obtain ⟨q, -, rfl⟩ := List.mem_map.mp hp
          exact absurd hplace (List.cons_ne_nil _ _)
    | cons k place ih =>
        obtain ⟨i, f, hf, hp⟩ := mem_placedFrom.mp h
        rw [Nat.zero_add] at hp
        rcases List.mem_cons.mp hp with rfl | hp
        · exact .column hf
        · obtain ⟨q, hq, rfl⟩ := List.mem_map.mp hp
          have hinner : q.place = place := (List.cons.inj hplace).2
          cases htype : f.dataType with
          | leaf t => exact absurd (htype ▸ hq) (by simp [DataType.placed])
          | array kind item => exact absurd (htype ▸ hq) (by simp [DataType.placed])
          | object properties =>
              rw [htype, DataType.placed] at hq
              exact .property hf htype (ih hq hinner)
  · intro h
    induction h with
    | @column columns i f hf =>
        exact mem_placedFrom.mpr ⟨i, f, hf, by rw [Nat.zero_add]; exact List.mem_cons_self⟩
    | @property columns properties i f p hf htype _ ih =>
        refine mem_placedFrom.mpr ⟨i, f, hf, ?_⟩
        rw [Nat.zero_add, Field.placedAt, htype, DataType.placed]
        exact List.mem_cons_of_mem _ (List.mem_map_of_mem ih)

/-- The places of a column and of what stands in it begin with its index. -/
theorem exists_place_of_mem_placedAt {i : Nat} {f : Field} {p : Placed} (h : p ∈ f.placedAt i) :
    ∃ rest, p.place = i :: rest := by
  rcases List.mem_cons.mp h with rfl | h
  · exact ⟨[], rfl⟩
  · obtain ⟨q, -, rfl⟩ := List.mem_map.mp h
    exact ⟨q.place, rfl⟩

/-- One comes before the other: it has the smaller index where their places part, or stands
above it. -/
def Placed.Before (p q : Placed) : Prop := p.place < q.place

theorem place_ne_nil {t : DataType} {p : Placed} (h : p ∈ t.placed) : p.place ≠ [] := by
  cases t with
  | leaf t => exact absurd h List.not_mem_nil
  | array kind item => exact absurd h List.not_mem_nil
  | object properties =>
      obtain ⟨i, f, -, hp⟩ := mem_placedFrom.mp h
      obtain ⟨rest, hplace⟩ := exists_place_of_mem_placedAt hp
      exact hplace ▸ List.cons_ne_nil _ _

theorem pairwise_placedAt {f : Field} (h : f.dataType.placed.Pairwise Placed.Before) (i : Nat) :
    (f.placedAt i).Pairwise Placed.Before := by
  refine List.pairwise_cons.mpr ⟨fun p hp => ?_, List.pairwise_map.mpr (h.imp fun hpq => ?_)⟩
  · obtain ⟨q, hq, rfl⟩ := List.mem_map.mp hp
    obtain ⟨k, rest, hplace⟩ := List.exists_cons_of_ne_nil (place_ne_nil hq)
    have hshort : ([] : List Nat) < q.place := hplace ▸ List.nil_lt_cons k rest
    exact List.cons_lt_cons_iff.mpr (Or.inr ⟨rfl, hshort⟩)
  · exact List.cons_lt_cons_iff.mpr (Or.inr ⟨rfl, hpq⟩)

mutual
theorem pairwise_placed_type : ∀ t : DataType, t.placed.Pairwise Placed.Before
  | .leaf _ => .nil
  | .object properties => pairwise_placedFrom properties 0
  | .array _ _ => .nil

/-- Places ascend. -/
theorem pairwise_placedFrom :
    ∀ (columns : List Field) (i : Nat), (placedFrom i columns).Pairwise Placed.Before
  | [], _ => .nil
  | ⟨info, t⟩ :: rest, i => by
      rw [placedFrom_cons, List.pairwise_append]
      refine ⟨pairwise_placedAt (pairwise_placed_type t) i, pairwise_placedFrom rest (i + 1), ?_⟩
      intro p hp q hq
      obtain ⟨place, hplace⟩ := exists_place_of_mem_placedAt hp
      obtain ⟨j, g, -, hq⟩ := mem_placedFrom.mp hq
      obtain ⟨place', hplace'⟩ := exists_place_of_mem_placedAt hq
      rw [Placed.Before, hplace, hplace']
      exact List.cons_lt_cons_iff.mpr (Or.inl (by omega))
end

/-! ## Leaves -/

mutual
/-- A column under any name comes to the leaves among itself and what stands in it. -/
theorem expanded_eq_map_placedAt :
    ∀ (t : DataType) (info : ColumnInfo) (i : Nat) (rename : Field → String),
      t.expanded { info with name := rename ⟨info, t⟩ }
        = ((Field.placedAt i ⟨info, t⟩).filter Placed.isLeaf).map
            fun p => p.field.renamed (p.nameBy rename)
  | .leaf _, _, _, _ => rfl
  | .object properties, info, i, rename => by
      have hbelow := expandedWithin_eq_map_placedFrom properties 0
        (rename ⟨info, .object properties⟩)
      rw [DataType.expanded, hbelow, Field.placedAt, List.filter_cons_of_neg Bool.false_ne_true,
        List.filter_map, List.map_map]
      refine List.map_congr_left fun p _ => ?_
      rw [Function.comp_apply, Placed.nameBy_under]
      rfl
  | .array _ _, _, _, _ => rfl

theorem expandedWithin_eq_map_placedFrom :
    ∀ (fs : List Field) (i : Nat) (outer : String),
      expandedWithin fs outer
        = ((placedFrom i fs).filter Placed.isLeaf).map
            fun p => p.field.renamed (p.nameBy (nameWithin outer))
  | [], _, _ => rfl
  | ⟨info, t⟩ :: rest, i, outer => by
      rw [placedFrom_cons, List.filter_append, List.map_append,
        ← expanded_eq_map_placedAt t info i (nameWithin outer),
        ← expandedWithin_eq_map_placedFrom rest (i + 1) outer, expandedWithin]
      rfl
end

theorem flatMap_expanded_eq_map_placedFrom (columns : List Field) (i : Nat) :
    columns.flatMap Field.expanded
      = ((placedFrom i columns).filter Placed.isLeaf).map Placed.column := by
  induction columns generalizing i with
  | nil => rfl
  | cons f rest ih =>
      obtain ⟨info, t⟩ := f
      have hfirst := expanded_eq_map_placedAt t info i fun f => f.name
      rw [placedFrom_cons, List.filter_append, List.map_append, List.flatMap_cons, ih (i + 1)]
      exact congrArg (· ++ _) hfirst

/-- The flat columns are the leaves, in order and each once. -/
theorem flatten_eq_map_placed (columns : List Field) :
    flatten columns = ((placed columns).filter Placed.isLeaf).map Placed.column := by
  rw [flatten_eq_flatMap]
  exact flatMap_expanded_eq_map_placedFrom columns 0

/-! ## The meaning of flattening -/

/-- What flattening some columns comes to. -/
structure FlattensByExpansion (columns : List Field) : Prop where
  /-- It ends after as many rounds as objects nest, with an object left before each of them. -/
  rounds : flatten columns = openAll^[nesting columns] columns ∧
    ∀ n < nesting columns, (openAll^[n] columns).any (·.dataType.isObject) = true
  flat : ∀ c ∈ flatten columns, c.dataType.isObject = false
  expansion : flatten columns = columns.flatMap Field.expanded
  append : ∀ others, flatten (columns ++ others) = flatten columns ++ flatten others
  /-- What stands among the columns is listed once, in the order of the places. -/
  listed : (∀ p, p ∈ placed columns ↔ StandsIn columns p) ∧
    (placed columns).Pairwise Placed.Before
  /-- Of that list the objects are dropped, and of the rest the names are changed. -/
  leaves : flatten columns = ((placed columns).filter Placed.isLeaf).map Placed.column

theorem flattensByExpansion (columns : List Field) : FlattensByExpansion columns where
  rounds := by
    refine ⟨flatten_eq_iterate columns, fun n hn => (nesting_pos_iff _).mp ?_⟩
    rw [nesting_iterate_openAll]
    omega
  flat := fun _ hc => isObject_of_mem_flatten hc
  expansion := flatten_eq_flatMap columns
  append := flatten_append columns
  listed := ⟨fun _ => mem_placed_iff, pairwise_placedFrom columns 0⟩
  leaves := flatten_eq_map_placed columns

/-- **Flattening is its recursive meaning.**  The expansion of a column is the column itself if it
is no object, and otherwise the expansions of its properties, in order, each under the column's
name and its own in snake case and else unchanged.  Flattening ends for all columns, and comes to
the expansion of each of them: what is no object is kept once and in its place, and the objects are
dropped. -/
theorem flatten_expansion :
    (∀ c : Field, c.dataType.isObject = false → c.expanded = [c]) ∧
      (∀ (c : Field) (properties : List Field), c.dataType = .object properties →
        c.expanded = properties.flatMap fun p =>
          (p.renamed (c.name ++ "_" ++ Naming.snakeCase p.name)).expanded) ∧
      ∀ columns, FlattensByExpansion columns := by
  refine ⟨fun c h => Field.expanded_of_not_isObject h, fun c properties h => ?_,
    flattensByExpansion⟩
  rw [Field.expanded_of_object h, List.flatMap_map]
  rfl

end EntityCatalog
