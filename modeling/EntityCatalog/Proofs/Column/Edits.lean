import EntityCatalog.Proofs.Column.Members
import Mathlib.Data.List.Forall2
import Mathlib.Data.List.Induction

/-!
# Edits and the names of columns

An edit finds its column by name.  An addition takes the place of a column with its name, and an
exclusion takes columns away, so neither makes two columns of one name where there were none.  An
override can: it may write over the name, and nothing looks whether another column has the new one.
`nodup_overrideColumn_iff` says that this is the only way.

The same edits of two lists of columns, related one by one, find the same columns as long as related
columns have one name.  `editColumns_forall₂` is the induction over the edits; what is left to show
of an edit is that it keeps the columns related or is refused on both sides.
-/

namespace EntityCatalog

open OrderedMap (lastValue?)

/-- The names of columns, in order. -/
def columnNames (columns : List Field) : List String := columns.map (·.name)

theorem hasColumn_iff {columns : List Field} {name : String} :
    hasColumn columns name = true ↔ name ∈ columnNames columns := by
  rw [hasColumn, List.any_eq_true, columnNames, List.mem_map]
  exact exists_congr fun c => and_congr_right fun _ => beq_iff_eq

/-! ## One edit -/

theorem columnNames_replaceColumn_self {columns : List Field} {new : Field} :
    columnNames (replaceColumn new.name new columns) = columnNames columns := by
  induction columns with
  | nil => rfl
  | cons c columns ih =>
      rw [replaceColumn]
      split
      · rename_i hc
        exact congrArg (· :: columnNames columns) hc.symm
      · exact congrArg (c.name :: ·) ih

/-- The names where a column gives way to one of another name. -/
theorem columnNames_replaceColumn {columns : List Field} {name : String}
    (h : name ∈ columnNames columns) (new : Field) :
    ∃ before after, columnNames columns = before ++ name :: after ∧
      columnNames (replaceColumn name new columns) = before ++ new.name :: after := by
  induction columns with
  | nil => exact absurd h List.not_mem_nil
  | cons c columns ih =>
      rw [replaceColumn]
      split
      · rename_i hc
        exact ⟨[], columnNames columns, congrArg (· :: columnNames columns) hc, rfl⟩
      · rename_i hc
        obtain ⟨before, after, hold, hnew⟩ :=
          ih ((List.mem_cons.mp h).resolve_left fun heq => hc heq.symm)
        exact ⟨c.name :: before, after, congrArg (c.name :: ·) hold, congrArg (c.name :: ·) hnew⟩

theorem nodup_addColumn {columns : List Field} (h : (columnNames columns).Nodup) (new : Field) :
    (columnNames (addColumn columns new)).Nodup := by
  rw [addColumn]
  split
  · rw [columnNames_replaceColumn_self]
    exact h
  · rename_i hnot
    rw [hasColumn_iff] at hnot
    rw [columnNames, List.map_append]
    refine List.nodup_append.mpr ⟨h, List.nodup_singleton _, fun a ha b hb heq => hnot ?_⟩
    obtain rfl : a = new.name := heq.trans (List.mem_singleton.mp hb)
    exact ha

theorem nodup_addColumns {columns : List Field} (h : (columnNames columns).Nodup)
    (additions : List Field) : (columnNames (addColumns columns additions)).Nodup := by
  induction additions generalizing columns with
  | nil => exact h
  | cons new additions ih => exact ih (nodup_addColumn h new)

theorem nodup_excludeColumn {columns new : List Field} {name : String}
    (h : (columnNames columns).Nodup) (hnew : excludeColumn columns name = .ok new) :
    (columnNames new).Nodup := by
  rw [excludeColumn] at hnew
  split at hnew
  · rw [← Except.ok.inj hnew]
    exact (List.filter_sublist.map _).nodup h
  · exact nomatch hnew

/-- An override applies to the first column of its name and gives members. -/
theorem overrideColumn_eq_ok {columns new : List Field} {name : String} {value : Json}
    (h : overrideColumn columns name value = .ok new) :
    ∃ c members c', columns.find? (·.name == name) = some c ∧ value = .object members ∧
      c.overridden members = .ok c' ∧ new = replaceColumn name c' columns := by
  unfold overrideColumn at h
  split at h
  · exact nomatch h
  · rename_i c members hfind
    cases hc : c.overridden members with
    | error e =>
        rw [hc] at h
        exact nomatch h
    | ok c' =>
        rw [hc] at h
        exact ⟨c, members, c', hfind, rfl, hc, (Except.ok.inj h).symm⟩
  · exact nomatch h

/-- Whether an override gives its column a name that another column has. -/
def TakesName (columns : List Field) (name : String) (value : Json) : Prop :=
  (∃ new, overrideColumn columns name value = .ok new) ∧
    ∃ members given, value = .object members ∧ lastValue? members "name" = some (.string given) ∧
      given ≠ name ∧ given ∈ columnNames columns

/-- An override keeps names apart iff it takes none that is there. -/
theorem nodup_overrideColumn_iff {columns new : List Field} {name : String} {value : Json}
    (h : (columnNames columns).Nodup) (hnew : overrideColumn columns name value = .ok new) :
    (columnNames new).Nodup ↔ ¬ TakesName columns name value := by
  obtain ⟨c, members, c', hfind, rfl, hover, rfl⟩ := overrideColumn_eq_ok hnew
  have hc : c ∈ columns := List.mem_of_find?_eq_some hfind
  have hname : c.name = name := eq_of_beq (List.find?_some hfind :)
  have hmem : name ∈ columnNames columns := List.mem_map.mpr ⟨c, hc, hname⟩
  obtain ⟨before, after, hold, hthen⟩ := columnNames_replaceColumn hmem c'
  have hgiven := Field.name_overridden hover
  rw [hname] at hgiven
  -- the other names are apart, so all depends on whether the new name is one of them
  have hothers : name ∉ before ++ after ∧ (before ++ after).Nodup := by
    rw [hold, List.nodup_middle, List.nodup_cons] at h
    exact h
  rw [hthen, List.nodup_middle, List.nodup_cons, and_iff_left hothers.2, not_iff_not]
  constructor
  · intro hin
    have hne : c'.name ≠ name := fun heq => hothers.1 (heq ▸ hin)
    refine ⟨⟨_, hnew⟩, members, c'.name, rfl, ?_, hne, ?_⟩
    · cases hlast : lastValue? members "name" with
      | none =>
          rw [hlast] at hgiven
          exact absurd (Json.string.inj hgiven).symm hne
      | some j =>
          rw [hlast] at hgiven
          exact congrArg some hgiven
    · rw [hold, List.mem_append, List.mem_cons]
      exact (List.mem_append.mp hin).imp_right Or.inr
  · rintro ⟨-, members', given, heq, hlast, hne, hin⟩
    obtain rfl : members = members' := Json.object.inj heq
    rw [hlast] at hgiven
    rw [← Json.string.inj hgiven]
    rw [hold, List.mem_append, List.mem_cons] at hin
    exact List.mem_append.mpr (hin.imp_right fun h => h.resolve_left hne)

/-! ## Several edits -/

section

variable {α : Type} {edit : List Field → α → Except EditFailure (List Field)}

theorem editColumns_append (columns : List Field) (as bs : List α) :
    (editColumns edit columns (as ++ bs)).1
      = (editColumns edit (editColumns edit columns as).1 bs).1 := by
  induction as generalizing columns with
  | nil => rfl
  | cons a as ih =>
      rw [List.cons_append, editColumns, editColumns]
      cases edit columns a with
      | ok new => exact ih new
      | error e => exact ih columns

/-- What every edit keeps of the columns as they are by then, all edits keep. -/
theorem editColumns_induction {P : List Field → Prop} {columns : List Field} {edits : List α}
    (h : P columns)
    (hstep : ∀ before a after new, edits = before ++ a :: after →
      P (editColumns edit columns before).1 →
        edit (editColumns edit columns before).1 a = .ok new → P new) :
    P (editColumns edit columns edits).1 := by
  induction edits using List.reverseRecOn with
  | nil => exact h
  | append_singleton edits a ih =>
      have hbefore := ih fun before b after new heq =>
        hstep before b (after ++ [a]) new (by rw [heq, List.append_assoc, List.cons_append])
      rw [editColumns_append, editColumns]
      cases hedit : edit (editColumns edit columns edits).1 a with
      | error e => exact hbefore
      | ok new => exact hstep edits a [] new rfl hbefore hedit

theorem nodup_excludeColumns {columns : List Field} (h : (columnNames columns).Nodup)
    (names : List String) : (columnNames (excludeColumns columns names).1).Nodup :=
  editColumns_induction (P := fun cs => (columnNames cs).Nodup) h
    fun _ _ _ _ _ hbefore hedit => nodup_excludeColumn hbefore hedit

end

/-! ## The same edits of two lists -/

section

variable {R : Field → Field → Prop} {columns columns' : List Field}

theorem columnNames_of_forall₂ (hR : ∀ c c', R c c' → c.name = c'.name)
    (h : List.Forall₂ R columns columns') : columnNames columns = columnNames columns' := by
  induction h with
  | nil => rfl
  | cons hc _ ih =>
      rw [columnNames, columnNames, List.map_cons, List.map_cons, hR _ _ hc]
      exact congrArg _ ih

theorem hasColumn_of_forall₂ (hR : ∀ c c', R c c' → c.name = c'.name)
    (h : List.Forall₂ R columns columns') (name : String) :
    hasColumn columns name = hasColumn columns' name := by
  rw [Bool.eq_iff_iff, hasColumn_iff, hasColumn_iff, columnNames_of_forall₂ hR h]

theorem forall₂_replaceColumn (hR : ∀ c c', R c c' → c.name = c'.name)
    (h : List.Forall₂ R columns columns') {new new' : Field} (hnew : R new new') (name : String) :
    List.Forall₂ R (replaceColumn name new columns) (replaceColumn name new' columns') := by
  induction h with
  | nil => exact .nil
  | cons hc hrest ih =>
      rw [replaceColumn, replaceColumn, hR _ _ hc]
      split
      · exact .cons hnew hrest
      · exact .cons hc ih

theorem forall₂_addColumns (hR : ∀ c c', R c c' → c.name = c'.name) (hrefl : ∀ c, R c c)
    (h : List.Forall₂ R columns columns') (additions : List Field) :
    List.Forall₂ R (addColumns columns additions) (addColumns columns' additions) := by
  induction additions generalizing columns columns' with
  | nil => exact h
  | cons new additions ih =>
      refine ih ?_
      rw [addColumn, addColumn, hasColumn_of_forall₂ hR h]
      split
      · exact forall₂_replaceColumn hR h (hrefl new) new.name
      · exact List.rel_append h (.cons (hrefl new) .nil)

theorem excludeColumn_together (hR : ∀ c c', R c c' → c.name = c'.name)
    (h : List.Forall₂ R columns columns') (name : String) :
    Together Eq (List.Forall₂ R) (excludeColumn columns name) (excludeColumn columns' name) := by
  rw [excludeColumn, excludeColumn, hasColumn_of_forall₂ hR h]
  split
  · refine .made (List.rel_filter (fun c c' hc => ?_) h)
    show (c.name != name) = true ↔ (c'.name != name) = true
    rw [hR c c' hc]
  · exact .failed rfl

theorem find?_of_forall₂ (hR : ∀ c c', R c c' → c.name = c'.name)
    (h : List.Forall₂ R columns columns') (name : String) :
    Option.Rel (fun c c' => R c c' ∧ c.name = name) (columns.find? (·.name == name))
      (columns'.find? (·.name == name)) := by
  induction h with
  | nil => exact .none
  | cons hc _ ih =>
      rw [List.find?_cons, List.find?_cons, hR _ _ hc]
      split
      · rename_i heq
        exact .some ⟨hc, (hR _ _ hc).trans (eq_of_beq heq)⟩
      · exact ih

/-- Where related columns that are written over are refused together or stay related, so are lists
of them. -/
theorem overrideColumn_together {S : EditFailure → EditFailure → Prop}
    (hR : ∀ c c', R c c' → c.name = c'.name) (hS : ∀ e, S e e)
    (h : List.Forall₂ R columns columns') {name : String} {value : Json}
    (hover : ∀ c c' members, R c c' → c.name = name → value = .object members →
      Together (fun e e' => S (.overrideInvalid name e) (.overrideInvalid name e')) R
        (c.overridden members) (c'.overridden members)) :
    Together S (List.Forall₂ R) (overrideColumn columns name value)
      (overrideColumn columns' name value) := by
  have hfind := find?_of_forall₂ hR h name
  unfold overrideColumn
  generalize columns.find? (·.name == name) = found at hfind ⊢
  generalize columns'.find? (·.name == name) = found' at hfind ⊢
  cases hfind with
  | none => exact .failed (hS _)
  | @some c c' hc =>
      cases value with
      | object members =>
          have hboth := hover c c' members hc.1 hc.2 rfl
          dsimp only
          generalize c.overridden members = x at hboth ⊢
          generalize c'.overridden members = y at hboth ⊢
          cases hboth with
          | failed he => exact .failed he
          | made hnew => exact .made (forall₂_replaceColumn hR h hnew name)
      | null => exact .failed (hS _)
      | bool _ => exact .failed (hS _)
      | number _ => exact .failed (hS _)
      | string _ => exact .failed (hS _)
      | array _ => exact .failed (hS _)

/-- If each edit keeps columns related or is refused for related reasons, so do all. -/
theorem editColumns_forall₂ {α : Type} {edit : List Field → α → Except EditFailure (List Field)}
    {S : EditFailure → EditFailure → Prop} {edits : List α}
    (hstep : ∀ a ∈ edits, ∀ cs cs', List.Forall₂ R cs cs' →
      Together S (List.Forall₂ R) (edit cs a) (edit cs' a))
    (h : List.Forall₂ R columns columns') :
    List.Forall₂ R (editColumns edit columns edits).1 (editColumns edit columns' edits).1 ∧
      List.Forall₂ S (editColumns edit columns edits).2 (editColumns edit columns' edits).2 := by
  induction edits generalizing columns columns' with
  | nil => exact ⟨h, .nil⟩
  | cons a edits ih =>
      obtain ⟨ha, hedits⟩ := List.forall_mem_cons.mp hstep
      have hboth := ha columns columns' h
      rw [editColumns, editColumns]
      generalize edit columns a = x at hboth ⊢
      generalize edit columns' a = y at hboth ⊢
      cases hboth with
      | made hnew => exact ih hedits hnew
      | failed he =>
          obtain ⟨hcolumns, hfailures⟩ := ih hedits h
          exact ⟨hcolumns, .cons he hfailures⟩

end

end EntityCatalog
