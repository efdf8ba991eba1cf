import EntityCatalog.Proofs.Column.Overrides

/-!
# Additions and exclusions

An addition looks for a column of its name and takes its place, and stands at the end if there is
none.  Additions may have the names of one another, so the columns that they are looked for among
grow on the way; what comes of all of them is said without the way.  The names that were there stay
where they were, the new ones follow as they first come, and the first column of a name that is
added is the last addition of the name (`added_addColumns`).

These three facts leave no choice (`Added.unique`), and that carries the last one: additions meet
them once more on their own result, so to add the same columns again is to change nothing.
-/

namespace EntityCatalog

/-! ## Lists of names -/

theorem nodup_eraseDups : ∀ names : List String, names.eraseDups.Nodup
  | [] => List.nodup_nil
  | name :: names => by
      rw [List.eraseDups_cons, List.nodup_cons]
      refine ⟨fun hmem => ?_, nodup_eraseDups _⟩
      rw [List.mem_eraseDups, List.mem_filter] at hmem
      simp at hmem
termination_by names => names.length
decreasing_by exact Nat.lt_succ_of_le (List.length_filter_le _ _)

/-- The names among the second that are none of the first, as they first come. -/
def newNames (names added : List String) : List String :=
  (added.filter fun name => !names.contains name).eraseDups

theorem newNames_cons_of_mem {names : List String} {name : String} (h : name ∈ names)
    (added : List String) : newNames names (name :: added) = newNames names added := by
  rw [newNames, newNames, List.filter_cons_of_neg (by simpa using h)]

theorem newNames_cons_of_not_mem {names : List String} {name : String} (h : name ∉ names)
    (added : List String) :
    newNames names (name :: added) = name :: newNames (names ++ [name]) added := by
  rw [newNames, newNames, List.filter_cons_of_pos (by simpa using h), List.eraseDups_cons,
    List.filter_filter]
  congr 2
  refine List.filter_congr fun other _ => ?_
  rw [List.contains_eq_any_beq, List.contains_eq_any_beq, List.any_append]
  simp [Bool.and_comm]

theorem mem_newNames {names added : List String} {name : String} :
    name ∈ newNames names added ↔ name ∈ added ∧ name ∉ names := by
  rw [newNames, List.mem_eraseDups, List.mem_filter]
  simp

theorem newNames_eq_nil {names added : List String} (h : ∀ name ∈ added, name ∈ names) :
    newNames names added = [] := by
  rw [List.eq_nil_iff_forall_not_mem]
  intro name hname
  obtain ⟨hadded, hnew⟩ := mem_newNames.mp hname
  exact hnew (h name hadded)

theorem columnNames_append (columns columns' : List Field) :
    columnNames (columns ++ columns') = columnNames columns ++ columnNames columns' :=
  List.map_append

theorem length_eq_of_columnNames {columns columns' : List Field}
    (h : columnNames columns = columnNames columns') : columns.length = columns'.length := by
  have hlength := congrArg List.length h
  rwa [columnNames, columnNames, List.length_map, List.length_map] at hlength

theorem getElem?_length_append {α : Type} (before : List α) (a : α) (after : List α) :
    (before ++ a :: after)[before.length]? = some a := by
  rw [List.getElem?_append_right (Nat.le_refl _), Nat.sub_self]
  rfl

/-! ## One addition -/

section

variable {columns before after : List Field} {c new : Field} {name : String}

theorem columnNames_addColumn (columns : List Field) (new : Field) :
    columnNames (addColumn columns new)
      = columnNames columns
          ++ if new.name ∈ columnNames columns then [] else [new.name] := by
  rw [addColumn]
  by_cases h : new.name ∈ columnNames columns
  · rw [if_pos (hasColumn_iff.mpr h), if_pos h, columnNames_replaceColumn_self, List.append_nil]
  · rw [if_neg (mt hasColumn_iff.mp h), if_neg h, columnNames_append]
    rfl

theorem find?_eq_some_of_first (h : c.name ∉ columnNames before) (after : List Field) :
    (before ++ c :: after).find? (·.name == c.name) = some c := by
  have hnone : before.find? (·.name == c.name) = none := by
    rw [List.find?_eq_none]
    intro b hb heq
    exact h (List.mem_map.mpr ⟨b, hb, eq_of_beq heq⟩)
  rw [List.find?_append, hnone, Option.none_or, List.find?_cons_of_pos (by simp)]

theorem find?_replaceColumn_self (h : new.name ∈ columnNames columns) :
    (replaceColumn new.name new columns).find? (·.name == new.name) = some new := by
  induction columns with
  | nil => exact absurd h List.not_mem_nil
  | cons c columns ih =>
      rw [replaceColumn]
      split
      · exact List.find?_cons_of_pos (by simp)
      · rename_i hne
        rw [List.find?_cons_of_neg (by simpa using hne)]
        exact ih ((List.mem_cons.mp h).resolve_left fun heq => hne heq.symm)

/-- What is added is the first column of its name. -/
theorem find?_addColumn_self (columns : List Field) (new : Field) :
    (addColumn columns new).find? (·.name == new.name) = some new := by
  rw [addColumn]
  split
  · rename_i h
    exact find?_replaceColumn_self (hasColumn_iff.mp h)
  · rename_i h
    exact find?_eq_some_of_first (mt hasColumn_iff.mpr h) []

theorem find?_addColumn_of_ne (h : name ≠ new.name) :
    (addColumn columns new).find? (·.name == name) = columns.find? (·.name == name) := by
  rw [addColumn]
  split
  · exact find?_replaceColumn_of_ne h
  · rw [List.find?_append, List.find?_cons_of_neg (by simpa using h.symm), List.find?_nil,
      Option.or_none]

/-- A column that is not the first of its name, or that the replaced column does not share the name
with, stays in its place. -/
theorem exists_replaceColumn_eq (h : c.name ∈ columnNames before ∨ c.name ≠ new.name) :
    ∃ before' after', replaceColumn new.name new (before ++ c :: after) = before' ++ c :: after' ∧
      columnNames before' = columnNames before := by
  induction before with
  | nil =>
      have hne : c.name ≠ new.name := h.resolve_left List.not_mem_nil
      refine ⟨[], replaceColumn new.name new after, ?_, rfl⟩
      rw [List.nil_append, List.nil_append, replaceColumn, if_neg hne]
  | cons b before ih =>
      rw [List.cons_append, replaceColumn]
      split
      · rename_i hb
        refine ⟨new :: before, after, rfl, ?_⟩
        exact congrArg (· :: columnNames before) hb.symm
      · rename_i hb
        have hrest : c.name ∈ columnNames before ∨ c.name ≠ new.name := by
          rcases h with h | h
          · rcases List.mem_cons.mp h with heq | h
            · exact Or.inr fun hc => hb (heq.symm.trans hc)
            · exact Or.inl h
          · exact Or.inr h
        obtain ⟨before', after', heq, hnames⟩ := ih hrest
        exact ⟨b :: before', after', congrArg (b :: ·) heq, congrArg (b.name :: ·) hnames⟩

theorem exists_addColumn_eq (h : c.name ∈ columnNames before ∨ c.name ≠ new.name)
    (after : List Field) :
    ∃ before' after', addColumn (before ++ c :: after) new = before' ++ c :: after' ∧
      columnNames before' = columnNames before := by
  rw [addColumn]
  split
  · exact exists_replaceColumn_eq h
  · exact ⟨before, after ++ [new], by rw [List.append_assoc, List.cons_append], rfl⟩

end

/-! ## All additions -/

/-- What additions make of columns. -/
structure Added (columns additions result : List Field) : Prop where
  /-- The old names stay in order, and the new ones follow as they first come. -/
  names : columnNames result
    = columnNames columns ++ newNames (columnNames columns) (columnNames additions)
  /-- The first column of a name that is added is the last addition of the name. -/
  first : ∀ before a after, additions = before ++ a :: after → a.name ∉ columnNames after →
    result.find? (·.name == a.name) = some a
  /-- A column that is not the first of its name, or whose name is not added, stays as it is. -/
  others : ∀ before c after, columns = before ++ c :: after →
    (c.name ∈ columnNames before ∨ c.name ∉ columnNames additions) →
      result[before.length]? = some c

theorem addColumns_cons (columns : List Field) (new : Field) (additions : List Field) :
    addColumns columns (new :: additions) = addColumns (addColumn columns new) additions := rfl

theorem addColumns_append (columns before after : List Field) :
    addColumns columns (before ++ after) = addColumns (addColumns columns before) after :=
  List.foldl_append

theorem columnNames_addColumns (columns additions : List Field) :
    columnNames (addColumns columns additions)
      = columnNames columns ++ newNames (columnNames columns) (columnNames additions) := by
  induction additions generalizing columns with
  | nil => exact (List.append_nil _).symm
  | cons new additions ih =>
      rw [addColumns_cons, ih, columnNames_addColumn]
      show _ = _ ++ newNames _ (new.name :: columnNames additions)
      by_cases h : new.name ∈ columnNames columns
      · rw [if_pos h, List.append_nil, newNames_cons_of_mem h]
      · rw [if_neg h, newNames_cons_of_not_mem h, List.append_assoc, List.singleton_append]

theorem find?_addColumns_of_not_mem {name : String} {additions : List Field}
    (h : name ∉ columnNames additions) (columns : List Field) :
    (addColumns columns additions).find? (·.name == name)
      = columns.find? (·.name == name) := by
  induction additions generalizing columns with
  | nil => rfl
  | cons new additions ih =>
      obtain ⟨hnew, hrest⟩ := not_or.mp (mt List.mem_cons.mpr h)
      rw [addColumns_cons, ih hrest, find?_addColumn_of_ne hnew]

theorem exists_addColumns_eq {before additions : List Field} {c : Field}
    (h : c.name ∈ columnNames before ∨ c.name ∉ columnNames additions) (after : List Field) :
    ∃ before' after', addColumns (before ++ c :: after) additions = before' ++ c :: after' ∧
      columnNames before' = columnNames before := by
  induction additions generalizing before after with
  | nil => exact ⟨before, after, rfl, rfl⟩
  | cons new additions ih =>
      have hnew : c.name ∈ columnNames before ∨ c.name ≠ new.name :=
        h.imp_right fun hnot heq => hnot (List.mem_cons.mpr (Or.inl heq))
      have hrest : c.name ∈ columnNames before ∨ c.name ∉ columnNames additions :=
        h.imp_right fun hnot hmem => hnot (List.mem_cons_of_mem _ hmem)
      obtain ⟨before', after', heq, hnames⟩ := exists_addColumn_eq hnew after
      rw [addColumns_cons, heq, ← hnames]
      exact ih (by rw [hnames]; exact hrest) _

theorem added_addColumns (columns additions : List Field) :
    Added columns additions (addColumns columns additions) where
  names := columnNames_addColumns columns additions
  first := by
    rintro before a after rfl hlast
    rw [addColumns_append, addColumns_cons, find?_addColumns_of_not_mem hlast]
    exact find?_addColumn_self _ a
  others := by
    rintro before c after rfl h
    obtain ⟨before', after', heq, hnames⟩ := exists_addColumns_eq h after
    rw [heq, ← length_eq_of_columnNames hnames]
    exact getElem?_length_append before' c after'

/-! ## Nothing else is left to say of them -/

theorem exists_last_of_mem {additions : List Field} {name : String}
    (h : name ∈ columnNames additions) :
    ∃ before a after, additions = before ++ a :: after ∧ a.name = name ∧
      name ∉ columnNames after := by
  induction additions with
  | nil => exact absurd h List.not_mem_nil
  | cons new additions ih =>
      by_cases hrest : name ∈ columnNames additions
      · obtain ⟨before, a, after, heq, ha, hlast⟩ := ih hrest
        exact ⟨new :: before, a, after, congrArg (new :: ·) heq, ha, hlast⟩
      · have hnew : name = new.name := (List.mem_cons.mp h).resolve_right hrest
        exact ⟨[], new, additions, rfl, hnew.symm, hrest⟩

namespace Added

variable {columns additions result result' : List Field}

/-- A place of the result holds the first column of a name that is added, or what the columns held
there. -/
theorem place (h : Added columns additions result) {names names' : List String} {name : String}
    (hnames : columnNames result = names ++ name :: names') :
    (name ∉ names ∧ name ∈ columnNames additions) ∨
      ∃ before c after, columns = before ++ c :: after ∧ columnNames before = names ∧
        (c.name ∈ columnNames before ∨ c.name ∉ columnNames additions) := by
  by_cases hfirst : name ∉ names ∧ name ∈ columnNames additions
  · exact Or.inl hfirst
  · right
    have hkept : name ∈ names ∨ name ∉ columnNames additions := by
      by_cases hmem : name ∈ names
      · exact Or.inl hmem
      · exact Or.inr fun hadded => hfirst ⟨hmem, hadded⟩
    -- a new name is the first of its kind, so the place is not among the new ones
    have hold : ∀ fresh, newNames (columnNames columns) (columnNames additions)
        = fresh ++ name :: names' → names ≠ columnNames columns ++ fresh := by
      rintro fresh hfresh rfl
      have hmem : name ∈ newNames (columnNames columns) (columnNames additions) := by
        rw [hfresh]
        simp
      obtain ⟨hadded, hnew⟩ := mem_newNames.mp hmem
      have hnodup := nodup_eraseDups
        ((columnNames additions).filter fun name => !(columnNames columns).contains name)
      rw [← newNames, hfresh, List.nodup_middle, List.nodup_cons] at hnodup
      rcases hkept with hkept | hkept
      · rcases List.mem_append.mp hkept with hmem | hmem
        · exact hnew hmem
        · exact hnodup.1 (List.mem_append.mpr (Or.inl hmem))
      · exact hkept hadded
    rw [h.names, List.append_eq_append_iff] at hnames
    rcases hnames with ⟨fresh, hleft, hright⟩ | ⟨rest, hleft, hright⟩
    · exact absurd hleft (hold fresh hright)
    · cases rest with
      | nil =>
          rw [List.append_nil] at hleft
          exact absurd (by rw [hleft, List.append_nil]) (hold [] hright.symm)
      | cons other rest =>
          obtain ⟨rfl, -⟩ := List.cons.inj hright
          obtain ⟨before, tail, rfl, hbefore, htail⟩ := List.map_eq_append_iff.mp hleft
          obtain ⟨c, after, rfl, rfl, -⟩ := List.map_eq_cons_iff.mp htail
          refine ⟨before, c, after, rfl, hbefore, ?_⟩
          rw [columnNames, hbefore]
          exact hkept

/-- The column at a place of the result is told by the names before it and its own. -/
theorem column_eq (h : Added columns additions result) (h' : Added columns additions result')
    {before after before' after' : List Field} {c c' : Field}
    (heq : result = before ++ c :: after) (heq' : result' = before' ++ c' :: after')
    (hbefore : columnNames before = columnNames before') (hc : c.name = c'.name) : c = c' := by
  have hnames : columnNames result = columnNames before ++ c.name :: columnNames after := by
    rw [heq, columnNames_append]
    rfl
  rcases h.place hnames with ⟨hfirst, hadded⟩ | ⟨left, d, right, hcolumns, hleft, hkept⟩
  · obtain ⟨early, a, late, hadditions, ha, hlast⟩ := exists_last_of_mem hadded
    rw [← ha] at hlast
    have hfind := h.first early a late hadditions hlast
    have hfind' := h'.first early a late hadditions hlast
    rw [ha, heq, find?_eq_some_of_first hfirst _] at hfind
    rw [ha, hc, heq', find?_eq_some_of_first (by rw [← hbefore, ← hc]; exact hfirst) _] at hfind'
    exact Option.some.inj (hfind.trans hfind'.symm)
  · have hplace := h.others left d right hcolumns hkept
    have hplace' := h'.others left d right hcolumns hkept
    rw [length_eq_of_columnNames hleft, heq, getElem?_length_append] at hplace
    rw [length_eq_of_columnNames (hleft.trans hbefore), heq', getElem?_length_append] at hplace'
    exact Option.some.inj (hplace.trans hplace'.symm)

/-- What additions make of columns is told by the names, the last additions and the others. -/
theorem unique (h : Added columns additions result) (h' : Added columns additions result') :
    result = result' := by
  have hnames : columnNames result = columnNames result' := h.names.trans h'.names.symm
  refine List.ext_getElem (length_eq_of_columnNames hnames) fun i hi hi' => ?_
  have hsplit : result = result.take i ++ result[i] :: result.drop (i + 1) := by
    rw [List.getElem_cons_drop, List.take_append_drop]
  have hsplit' : result' = result'.take i ++ result'[i] :: result'.drop (i + 1) := by
    rw [List.getElem_cons_drop, List.take_append_drop]
  refine column_eq h h' hsplit hsplit' ?_ ?_
  · rw [columnNames, columnNames, List.map_take, List.map_take]
    exact congrArg (List.take i) hnames
  · have hi? := congrArg (fun names => names[i]?) hnames
    simp only [columnNames, List.getElem?_map, List.getElem?_eq_getElem hi,
      List.getElem?_eq_getElem hi', Option.map_some] at hi?
    exact Option.some.inj hi?

/-- What has been added can be added again: the result is one that the additions make of itself. -/
theorem self (h : Added columns additions result) : Added result additions result where
  names := by
    have hold : ∀ name ∈ columnNames additions, name ∈ columnNames result := by
      intro name hname
      rw [h.names, List.mem_append, mem_newNames]
      by_cases hmem : name ∈ columnNames columns
      · exact Or.inl hmem
      · exact Or.inr ⟨hname, hmem⟩
    rw [newNames_eq_nil hold, List.append_nil]
  first := h.first
  others := by
    rintro before c after rfl -
    exact getElem?_length_append before c after

end Added

/-- To add the same columns again is to change nothing. -/
theorem addColumns_addColumns (columns additions : List Field) :
    addColumns (addColumns columns additions) additions = addColumns columns additions :=
  (added_addColumns _ additions).unique (added_addColumns columns additions).self

/-! ## Exclusions -/

/-- The exclusions that find no column among those which the earlier ones have left, in order. -/
def vainExclusions (columns : List Field) (names : List String) : List String :=
  (names.zipIdx.filter fun e =>
    !hasColumn (columns.filter fun c => !(names.take e.2).contains c.name) e.1).map Prod.fst

/-- An exclusion that fails and one that does not leave the same columns: those of other names. -/
theorem excludeColumns_cons (columns : List Field) (name : String) (names : List String) :
    excludeColumns columns (name :: names)
      = ((excludeColumns (columns.filter fun c => c.name != name) names).1,
          (if hasColumn columns name then [] else [EditFailure.exclusionOfNone name])
            ++ (excludeColumns (columns.filter fun c => c.name != name) names).2) := by
  rw [excludeColumns, editColumns, excludeColumn]
  cases h : hasColumn columns name with
  | true => rfl
  | false =>
      have hall : (columns.filter fun c => c.name != name) = columns := by
        rw [List.filter_eq_self]
        intro c hc
        rw [bne_iff_ne]
        rintro rfl
        have hmem : c.name ∈ columnNames columns := List.mem_map.mpr ⟨c, hc, rfl⟩
        exact absurd (hasColumn_iff.mpr hmem) (by simp [h])
      rw [hall]
      rfl

theorem filter_name_nil (columns : List Field) :
    (columns.filter fun c => !([] : List String).contains c.name) = columns :=
  List.filter_eq_self.mpr fun _ _ => rfl

theorem filter_name_cons (columns : List Field) (name : String) (names : List String) :
    (columns.filter fun c => !(name :: names).contains c.name)
      = (columns.filter fun c => c.name != name).filter fun c => !names.contains c.name := by
  rw [List.filter_filter]
  refine List.filter_congr fun c _ => ?_
  rw [List.contains_cons, Bool.not_or, Bool.and_comm]
  rfl

theorem vainExclusions_cons (columns : List Field) (name : String) (names : List String) :
    vainExclusions columns (name :: names)
      = (if hasColumn columns name then [] else [name])
          ++ vainExclusions (columns.filter fun c => c.name != name) names := by
  have hrest : ((names.zipIdx 1).filter fun e =>
        !hasColumn (columns.filter fun c => !((name :: names).take e.2).contains c.name) e.1).map
          Prod.fst
      = vainExclusions (columns.filter fun c => c.name != name) names := by
    rw [vainExclusions, List.zipIdx_succ, List.filter_map, List.map_map]
    have hstep : ∀ e : String × Nat,
        (!hasColumn (columns.filter fun c => !((name :: names).take (e.2 + 1)).contains c.name) e.1)
          = !hasColumn ((columns.filter fun c => c.name != name).filter fun c =>
              !(names.take e.2).contains c.name) e.1 := by
      intro e
      rw [List.take_succ_cons, filter_name_cons]
    exact congrArg (List.map Prod.fst) (List.filter_congr fun e _ => hstep e)
  rw [← hrest, vainExclusions, List.zipIdx_cons, List.filter_cons, List.take_zero,
    filter_name_nil]
  cases hasColumn columns name <;> rfl

/-- What exclusions leave of columns, and which of them fail. -/
theorem excludeColumns_eq (columns : List Field) (names : List String) :
    excludeColumns columns names
      = (columns.filter fun c => !names.contains c.name,
          (vainExclusions columns names).map EditFailure.exclusionOfNone) := by
  induction names generalizing columns with
  | nil =>
      rw [filter_name_nil]
      rfl
  | cons name names ih =>
      rw [excludeColumns_cons, ih, filter_name_cons, vainExclusions_cons, List.map_append]
      cases hasColumn columns name <;> rfl

/-- What exclusions make of columns. -/
structure Excluded (columns : List Field) (names : List String)
    (result : List Field × List EditFailure) : Prop where
  /-- The columns of other names are left, in order. -/
  left : result.1 = columns.filter fun c => !names.contains c.name
  /-- Each exclusion that finds no column among those that are left by then is reported once. -/
  issues : result.2.map EditFailure.issue
    = (vainExclusions columns names).map fun name =>
        ⟨.warning, .config, "Field exclusion " ++ name ++ " does not match any field"⟩

theorem excluded_excludeColumns (columns : List Field) (names : List String) :
    Excluded columns names (excludeColumns columns names) where
  left := congrArg Prod.fst (excludeColumns_eq columns names)
  issues := by
    rw [excludeColumns_eq, List.map_map]
    rfl

end EntityCatalog
