import EntityCatalog.Proofs.Column.Edits
import Mathlib.Data.List.ReduceOption

/-!
# Overrides, one by one and all together

Overrides come one after the other, and each finds its column among those that the earlier ones have
left.  It finds what it would have found in the beginning: no two overrides have one name, so no
other has come to its column, and if none of them writes a name, every column still stands under its
own.  So what becomes of a column is what its own override makes of it, whether an override fails is
seen from the columns as they were, and the order of the overrides is no matter.

Where a name is written this is lost: under its new name the column is found by another override.
-/

namespace EntityCatalog

open Shape (Mismatch)
open OrderedMap (lastValue?)

/-! ## One override -/

/-- What a column comes to where it is written over by the override of its name. -/
def Field.overriddenBy (overrides : List (String × Json)) (c : Field) : Field :=
  match overrides.lookup c.name with
  | some (.object members) => (c.overridden members).toOption.getD c
  | _ => c

/-- What is reported of an override: it fails for one of three reasons, or applies. -/
inductive OverrideVerdict (columns : List Field) : String × Json → Option Issue → Prop
  /-- No column has the name. -/
  | noColumn {name : String} {value : Json} : name ∉ columnNames columns →
      OverrideVerdict columns (name, value)
        (some ⟨.warning, .config, "Field override for " ++ name ++ " does not match any field"⟩)
  /-- No members are given. -/
  | noTable {name : String} {value : Json} : name ∈ columnNames columns →
      (∀ members, value ≠ .object members) →
      OverrideVerdict columns (name, value)
        (some ⟨.warning, .config,
          "Field override for " ++ name ++ " must be a table of field properties"⟩)
  /-- A member is given that is none of a column, or a value that is none of the member. -/
  | invalid {name : String} {members : List (String × Json)} (reason : Mismatch) :
      name ∈ columnNames columns → ¬ Field.Acceptable members →
      OverrideVerdict columns (name, .object members)
        (some ⟨.warning, .config,
          "Invalid override for field " ++ name ++ ": " ++ reason.message⟩)
  | applied {name : String} {members : List (String × Json)} : name ∈ columnNames columns →
      Field.Acceptable members → OverrideVerdict columns (name, .object members) none

theorem overrideVerdict (columns : List Field) (name : String) (value : Json) :
    OverrideVerdict columns (name, value)
      ((failure? (overrideColumn columns name value)).map EditFailure.issue) := by
  unfold overrideColumn
  split
  · rename_i hfind
    refine .noColumn fun hmem => ?_
    obtain ⟨c, hc, hname⟩ := List.mem_map.mp hmem
    exact List.find?_eq_none.mp hfind c hc (beq_iff_eq.mpr hname)
  · rename_i c members hfind
    have hmem : name ∈ columnNames columns :=
      List.mem_map.mpr ⟨c, List.mem_of_find?_eq_some hfind, eq_of_beq (List.find?_some hfind :)⟩
    cases hover : c.overridden members with
    | ok c' => exact .applied hmem (c.exists_overridden_iff.mp ⟨c', hover⟩)
    | error reason =>
        refine .invalid reason hmem fun hacc => ?_
        obtain ⟨c', hc'⟩ := c.exists_overridden_iff.mpr hacc
        exact absurd (hover.symm.trans hc') (by simp)
  · rename_i c hfind hvalue
    refine .noTable ?_ fun members hmembers => hvalue members hmembers
    exact List.mem_map.mpr ⟨c, List.mem_of_find?_eq_some hfind, eq_of_beq (List.find?_some hfind :)⟩

/-- A member that is not given is not given last either. -/
theorem lastValue?_eq_none_of_get? {members : List (String × Json)} {key : String}
    (h : (Json.object members).get? key = none) : lastValue? members key = none :=
  OrderedMap.lastValue?_eq_none_iff.mpr (OrderedMap.lookup_eq_none_iff.mp h)

namespace Field

variable {c : Field} {name : String} {value : Json} {overrides : List (String × Json)}

theorem overriddenBy_of_not_mem (h : c.name ∉ overrides.map (·.1)) :
    c.overriddenBy overrides = c := by
  rw [overriddenBy, OrderedMap.lookup_eq_none_iff.mpr h]

theorem overriddenBy_congr {overrides' : List (String × Json)}
    (h : overrides.lookup c.name = overrides'.lookup c.name) :
    c.overriddenBy overrides = c.overriddenBy overrides' := by
  rw [overriddenBy, overriddenBy, h]

/-- An override that fails leaves every column of its name as it is. -/
theorem overriddenBy_of_failed {columns : List Field} {issue : Issue}
    (h : OverrideVerdict columns (name, value) (some issue)) (hc : c ∈ columns)
    (hname : c.name = name) (hlookup : overrides.lookup name = some value) :
    c.overriddenBy overrides = c := by
  rw [overriddenBy, hname, hlookup]
  cases h with
  | noColumn hnone => exact absurd (List.mem_map.mpr ⟨c, hc, hname⟩) hnone
  | noTable _ hvalue =>
      cases value with
      | object members => exact absurd rfl (hvalue members)
      | null => rfl
      | bool _ => rfl
      | number _ => rfl
      | string _ => rfl
      | array _ => rfl
  | @invalid _ members _ _ hacc =>
      show (c.overridden members).toOption.getD c = c
      cases hover : c.overridden members with
      | error e => rfl
      | ok c' => exact absurd (c.exists_overridden_iff.mp ⟨c', hover⟩) hacc

/-- Members that do not have the name leave it as it is. -/
theorem name_overridden_of_kept {c' : Field} {members : List (String × Json)}
    (h : (Json.object members).get? "name" = none) (hover : c.overridden members = .ok c') :
    c'.name = c.name := by
  have hname := name_overridden hover
  rw [lastValue?_eq_none_of_get? h] at hname
  exact (Json.string.inj hname).symm

end Field

/-! ## The first column of each name -/

/-- The columns with the first of each name changed, of the names that are not taken. -/
def changeFirsts (change : Field → Field) : List String → List Field → List Field
  | _, [] => []
  | taken, c :: rest =>
      (if c.name ∈ taken then c else change c) :: changeFirsts change (c.name :: taken) rest

section

variable {change change' : Field → Field} {taken : List String} {columns : List Field}

theorem changeFirsts_congr (h : ∀ c ∈ columns, c.name ∉ taken → change c = change' c) :
    changeFirsts change taken columns = changeFirsts change' taken columns := by
  induction columns generalizing taken with
  | nil => rfl
  | cons c columns ih =>
      obtain ⟨hc, hcolumns⟩ := List.forall_mem_cons.mp h
      rw [changeFirsts, changeFirsts, ih fun c' hc' hnot => hcolumns c' hc' fun hmem =>
        hnot (List.mem_cons_of_mem _ hmem)]
      split
      · rfl
      · rename_i hnot
        rw [hc hnot]

theorem changeFirsts_id : changeFirsts (fun c => c) taken columns = columns := by
  induction columns generalizing taken with
  | nil => rfl
  | cons c columns ih => rw [changeFirsts, ih, ite_self]

theorem length_changeFirsts : (changeFirsts change taken columns).length = columns.length := by
  induction columns generalizing taken with
  | nil => rfl
  | cons c columns ih => rw [changeFirsts, List.length_cons, List.length_cons, ih]

theorem getElem?_changeFirsts (before : List Field) (c : Field) (after : List Field) :
    (changeFirsts change taken (before ++ c :: after))[before.length]?
      = some (if c.name ∈ taken ∨ c.name ∈ columnNames before then c else change c) := by
  induction before generalizing taken with
  | nil =>
      show some (if c.name ∈ taken then c else change c) = _
      simp [columnNames]
  | cons b before ih =>
      rw [List.cons_append, changeFirsts, List.length_cons, List.getElem?_cons_succ, ih]
      simp only [columnNames, List.map_cons, List.mem_cons]
      congr 1
      refine if_congr ?_ rfl rfl
      tauto

/-- Changing the first column of a name beforehand is changing it with the others. -/
theorem changeFirsts_replaceColumn {new : Field} (htaken : new.name ∉ taken)
    (hself : ∀ c, columns.find? (·.name == new.name) = some c → change c = change' new)
    (hother : ∀ c ∈ columns, c.name ≠ new.name → change c = change' c) :
    changeFirsts change' taken (replaceColumn new.name new columns)
      = changeFirsts change taken columns := by
  induction columns generalizing taken with
  | nil => rfl
  | cons c columns ih =>
      obtain ⟨hc, hcolumns⟩ := List.forall_mem_cons.mp hother
      rw [replaceColumn]
      split
      · rename_i hname
        have hchange : change c = change' new :=
          hself c (List.find?_cons_of_pos (beq_iff_eq.mpr hname))
        rw [changeFirsts, changeFirsts, hname, if_neg htaken, if_neg htaken, hchange]
        refine congrArg _ (changeFirsts_congr fun c' hc' hnot => ?_)
        exact (hcolumns c' hc' fun heq => hnot (heq ▸ List.mem_cons_self)).symm
      · rename_i hname
        have htaken' : new.name ∉ c.name :: taken := fun hmem =>
          (List.mem_cons.mp hmem).elim (fun heq => hname heq.symm) htaken
        have hself' : ∀ c', columns.find? (·.name == new.name) = some c' →
            change c' = change' new := fun c' hc' =>
          hself c' ((List.find?_cons_of_neg (by simpa using hname)).trans hc')
        rw [changeFirsts, changeFirsts, ih htaken' hself' hcolumns, hc hname]

end

theorem find?_replaceColumn_of_ne {columns : List Field} {new : Field} {other : String}
    (h : other ≠ new.name) :
    (replaceColumn new.name new columns).find? (·.name == other)
      = columns.find? (·.name == other) := by
  induction columns with
  | nil => rfl
  | cons c columns ih =>
      rw [replaceColumn]
      split
      · rename_i hname
        rw [List.find?_cons_of_neg (by simpa using h.symm),
          List.find?_cons_of_neg (by simpa [hname] using h.symm)]
      · rw [List.find?_cons, List.find?_cons, ih]

/-! ## All overrides -/

theorem failure?_overrideColumn_congr {columns columns' : List Field} {name : String}
    (h : columns.find? (·.name == name) = columns'.find? (·.name == name)) (value : Json) :
    failure? (overrideColumn columns name value)
      = failure? (overrideColumn columns' name value) := by
  unfold overrideColumn
  rw [h]
  split
  · rfl
  · rename_i c members _
    cases c.overridden members <;> rfl
  · rfl

/-- Overrides of different names that write no name, all together. -/
theorem editColumns_overrideColumn {overrides : List (String × Json)}
    (hdistinct : (overrides.map (·.1)).Nodup)
    (hname : ∀ o ∈ overrides, o.2.get? "name" = none) (columns : List Field) :
    editColumns (fun cs o => overrideColumn cs o.1 o.2) columns overrides
      = (changeFirsts (Field.overriddenBy overrides) [] columns,
          overrides.filterMap fun o => failure? (overrideColumn columns o.1 o.2)) := by
  induction overrides generalizing columns with
  | nil => exact congrArg (·, _) changeFirsts_id.symm
  | cons o overrides ih =>
      obtain ⟨name, value⟩ := o
      obtain ⟨hnot, hrest⟩ := List.nodup_cons.mp hdistinct
      obtain ⟨hvalue, hvalues⟩ := List.forall_mem_cons.mp hname
      have hother : ∀ c : Field, c.name ≠ name →
          c.overriddenBy ((name, value) :: overrides) = c.overriddenBy overrides := by
        intro c hne
        refine Field.overriddenBy_congr ?_
        rw [List.lookup_cons, beq_eq_false_iff_ne.mpr hne]
      have hself : ((name, value) :: overrides).lookup name = some value := List.lookup_cons_self
      rw [editColumns]
      cases hedit : overrideColumn columns name value with
      | error failure =>
          dsimp only
          have hverdict := overrideVerdict columns name value
          rw [hedit] at hverdict
          rw [ih hrest hvalues]
          refine Prod.ext (changeFirsts_congr fun c hc _ => ?_) ?_
          · by_cases hc' : c.name = name
            · rw [Field.overriddenBy_of_not_mem (hc' ▸ hnot),
                Field.overriddenBy_of_failed hverdict hc hc' hself]
            · exact (hother c hc').symm
          · rw [List.filterMap_cons_some (b := failure) (by rw [hedit]; rfl)]
      | ok new =>
          dsimp only
          obtain ⟨c, members, c', hfind, rfl, hover, rfl⟩ := overrideColumn_eq_ok hedit
          have hc : c.name = name := eq_of_beq (List.find?_some hfind :)
          have hc' : c'.name = name := (Field.name_overridden_of_kept hvalue hover).trans hc
          subst hc'
          rw [ih hrest hvalues]
          refine Prod.ext (changeFirsts_replaceColumn (by simp) (fun d hd => ?_) ?_) ?_
          · -- the column that the override finds has become what it should
            obtain rfl : c = d := Option.some.inj (hfind.symm.trans hd)
            rw [Field.overriddenBy_of_not_mem hnot, Field.overriddenBy, hc, hself]
            dsimp only
            rw [hover]
            rfl
          · exact fun d _ => hother d
          · rw [List.filterMap_cons_none (by rw [hedit]; rfl)]
            refine List.filterMap_congr fun o ho => ?_
            refine failure?_overrideColumn_congr (find?_replaceColumn_of_ne ?_) o.2
            exact fun heq => hnot (List.mem_map.mpr ⟨o, ho, heq⟩)

/-- What becomes of the column `c` that stands behind the columns `before`: if it is the first of its
name and members of a column are given under the name, they are written over it, and else it stays. -/
inductive ColumnOverridden (overrides : OrderedMap Json) (before : List Field) (c : Field) :
    Field → Prop
  | written {members : List (String × Json)} {c' : Field} : c.name ∉ columnNames before →
      overrides.get? c.name = some (.object members) → Field.Acceptable members →
      Field.WrittenOver members c c' → ColumnOverridden overrides before c c'
  | kept : (c.name ∉ columnNames before → ∀ members,
        overrides.get? c.name = some (.object members) → ¬ Field.Acceptable members) →
      ColumnOverridden overrides before c c

theorem columnOverridden (overrides : OrderedMap Json) (before : List Field) (c : Field) :
    ColumnOverridden overrides before c
      (if c.name ∈ columnNames before then c else c.overriddenBy overrides.entries) := by
  split
  · rename_i hmem
    exact .kept fun hnot => absurd hmem hnot
  · rename_i hnot
    rw [Field.overriddenBy]
    split
    · rename_i members hlookup
      cases hover : c.overridden members with
      | ok c' =>
          obtain ⟨hacc, hwritten⟩ := Field.overridden_eq_ok_iff.mp hover
          exact .written hnot hlookup hacc hwritten
      | error reason =>
          refine .kept fun _ members' hmembers hacc => ?_
          obtain rfl : members = members' :=
            Json.object.inj (Option.some.inj (hlookup.symm.trans hmembers))
          obtain ⟨c', hc'⟩ := c.exists_overridden_iff.mpr hacc
          exact absurd (hover.symm.trans hc') (by simp)
    · rename_i hother
      exact .kept fun _ members hmembers => absurd hmembers (hother members)

/-- What is said of overrides that do not meddle with one another. -/
structure IndependentOverrides (columns : List Field) (overrides : OrderedMap Json) : Prop where
  /-- Each column is written over by the override of its name alone, if it is the first. -/
  column : ∀ before c after, columns = before ++ c :: after →
    ∃ c', (overrideColumns columns overrides).1[before.length]? = some c' ∧
      ColumnOverridden overrides before c c'
  length_eq : (overrideColumns columns overrides).1.length = columns.length
  /-- Each override that fails is reported once, and no other. -/
  verdicts : ∃ verdicts, List.Forall₂ (OverrideVerdict columns) overrides.entries verdicts ∧
    (overrideColumns columns overrides).2.map EditFailure.issue = verdicts.reduceOption
  /-- Without an override that fails, the columns come out the same. -/
  failed : ∀ before name value after issue, ∀ others : OrderedMap Json,
    overrides.entries = before ++ (name, value) :: after → others.entries = before ++ after →
      OverrideVerdict columns (name, value) (some issue) →
        (overrideColumns columns others).1 = (overrideColumns columns overrides).1
  reordered : ∀ others : OrderedMap Json, others.entries.Perm overrides.entries →
    (overrideColumns columns others).1 = (overrideColumns columns overrides).1 ∧
      (overrideColumns columns others).2.Perm (overrideColumns columns overrides).2

/-- **Overrides do not meddle with one another** if none of them writes a name. -/
theorem overrideColumns_independent {overrides : OrderedMap Json}
    (hname : ∀ o ∈ overrides.entries, o.2.get? "name" = none) (columns : List Field) :
    IndependentOverrides columns overrides := by
  have hall : ∀ others : OrderedMap Json, others.entries ⊆ overrides.entries →
      overrideColumns columns others
        = (changeFirsts (Field.overriddenBy others.entries) [] columns,
            others.entries.filterMap fun o => failure? (overrideColumn columns o.1 o.2)) :=
    fun others hsub => editColumns_overrideColumn others.distinct (fun o ho => hname o (hsub ho)) _
  have hself := hall overrides (List.Subset.refl _)
  constructor
  case column =>
    rintro before c after rfl
    refine ⟨_, ?_, columnOverridden overrides before c⟩
    rw [hself, getElem?_changeFirsts]
    simp
  case length_eq => rw [hself, length_changeFirsts]
  case verdicts =>
    refine ⟨overrides.entries.map fun o =>
      (failure? (overrideColumn columns o.1 o.2)).map EditFailure.issue, ?_, ?_⟩
    · rw [List.forall₂_map_right_iff]
      exact List.forall₂_same.mpr fun o _ => overrideVerdict columns o.1 o.2
    · rw [hself, List.reduceOption, List.filterMap_map, List.map_filterMap]
      rfl
  case failed =>
    intro before name value after issue others hentries hothers hverdict
    have hsub : others.entries ⊆ overrides.entries := by
      rw [hentries, hothers]
      exact ((List.Sublist.refl before).append (List.sublist_cons_self _ after)).subset
    rw [hall others hsub, hself]
    refine changeFirsts_congr fun c hc _ => ?_
    by_cases hc' : c.name = name
    · -- one map has no override of the name, the other one that fails
      have hdistinct := overrides.distinct
      rw [hentries, List.map_append, List.map_cons, List.nodup_middle, List.nodup_cons,
        ← List.map_append, ← hothers] at hdistinct
      have hlookup : overrides.entries.lookup name = some value :=
        OrderedMap.mem_entries_iff.mp (by rw [hentries]; simp)
      rw [Field.overriddenBy_of_failed hverdict hc hc' hlookup,
        Field.overriddenBy_of_not_mem (hc' ▸ hdistinct.1)]
    · refine Field.overriddenBy_congr ?_
      rw [hentries, hothers, List.lookup_append, List.lookup_append, List.lookup_cons,
        beq_eq_false_iff_ne.mpr hc']
  case reordered =>
    intro others hperm
    rw [hall others hperm.subset, hself]
    refine ⟨changeFirsts_congr fun c _ _ => ?_, hperm.filterMap _⟩
    exact Field.overriddenBy_congr (OrderedMap.get?_eq_of_perm hperm c.name)

/-- Two columns of one name, an object and a list. -/
def orderColumns : List Field :=
  [{ name := "status", dataType := .leaf .string, valueGetter := some ":orders.status" },
   { name := "vendor",
     dataType := .object [{ name := "code", dataType := .array .jsonb (.leaf .integer) }],
     joinsTo := some [⟨default, "id", some .left, .custom "lower(:this) = :that"⟩] },
   { name := "status", dataType := .leaf .boolean },
   { name := "notes", dataType := .array .plain (.leaf .string), hidden := some false }]

/-- Overrides of which the second and the third apply. -/
def orderOverrides : OrderedMap Json where
  entries :=
    [("total", .object [("hidden", .bool true)]),
     ("vendor", .object [("source",
       .object [("columnName", .string "id"), ("entityTypeId", .string "vendors")])]),
     ("status", .object [("valueGetter", .null), ("hidden", .bool true)]),
     ("notes", .object [("hidden", .bool true), ("essential", .string "yes")])]
  distinct := by decide

theorem overrideColumns_independent_orders :
    (∀ o ∈ orderOverrides.entries, o.2.get? "name" = none) ∧
      (overrideColumns orderColumns orderOverrides).1.map
          (fun c => (c.name, c.hidden, c.valueGetter, c.source, c.joinsTo.isSome))
        = [("status", some true, none, none, false),
           ("vendor", none, none, some ⟨"id", "vendors"⟩, true),
           ("status", none, none, none, false), ("notes", some false, none, none, false)] ∧
      (overrideColumns orderColumns orderOverrides).2.length = 2 ∧
      IndependentOverrides orderColumns orderOverrides := by
  have hname : ∀ o ∈ orderOverrides.entries, o.2.get? "name" = none := by decide
  refine ⟨hname, ?_, ?_, overrideColumns_independent hname orderColumns⟩
  · decide +kernel
  · decide +kernel

end EntityCatalog
