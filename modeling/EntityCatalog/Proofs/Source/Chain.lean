import EntityCatalog.Proofs.Outcome
import EntityCatalog.Source.Resolution
import Mathlib.Logic.Function.Iterate
import Mathlib.Logic.Relation

/-!
# Where a chain of renames leads

A name that no source has leads to what it is renamed to, and so on.  The chain from a key is
followed by a walk that keeps the names it has come from; nothing below is about the walk alone.
`ChainVerdict` says what a chain itself is like: it reaches a declared name, it reaches a name
without a rename, or every name on it has a next one.  Each step is determined by the name, so a
chain has one verdict (`ChainVerdict.unique`), and the walk finds it (`chainVerdict_follow`).

The invariant that carries the walk is that each name kept leads to the present one in one step or
more.  When the present name is among them it leads back to itself, and then so does every name
after it: none of them is an end.
-/

namespace EntityCatalog

open Relation (ReflTransGen TransGen)

variable {sources : List DeclaredSource} {renames : OrderedMap String}

/-! ## Chains -/

/-- Whether a source has the name. -/
def IsDeclared (sources : List DeclaredSource) (name : String) : Prop :=
  ∃ s ∈ sources, s.name = name

/-- One step of a chain: from a name that no source has to what it is renamed to. -/
def RenamedTo (sources : List DeclaredSource) (renames : OrderedMap String)
    (name next : String) : Prop :=
  ¬ IsDeclared sources name ∧ renames.get? name = some next

/-- Any number of steps of a chain. -/
abbrev LeadsTo (sources : List DeclaredSource) (renames : OrderedMap String) :
    String → String → Prop :=
  ReflTransGen (RenamedTo sources renames)

/-- What a chain from a name is like. -/
inductive ChainVerdict (sources : List DeclaredSource) (renames : OrderedMap String)
    (start : String) : ChainEnd → Prop
  | declared {name : String} {s : DeclaredSource} : LeadsTo sources renames start name →
      declared? sources name = some s → ChainVerdict sources renames start (.declared s)
  | undeclared {name : String} : LeadsTo sources renames start name →
      ¬ IsDeclared sources name → renames.get? name = none →
        ChainVerdict sources renames start .undeclared
  | endless : (∀ name, LeadsTo sources renames start name →
        ∃ next, RenamedTo sources renames name next) →
      ChainVerdict sources renames start .endless

theorem declared?_eq_none_iff {name : String} :
    declared? sources name = none ↔ ¬ IsDeclared sources name := by
  simp [declared?, IsDeclared]

theorem isDeclared_iff {name : String} :
    IsDeclared sources name ↔ ∃ s, declared? sources name = some s := by
  rw [← Option.isSome_iff_exists, Option.isSome_iff_ne_none, ne_eq, declared?_eq_none_iff,
    not_not]

theorem name_of_declared? {name : String} {s : DeclaredSource}
    (h : declared? sources name = some s) : s.name = name :=
  eq_of_beq (List.find?_some h :)

/-! ## A chain has one verdict -/

theorem RenamedTo.unique {name next next' : String} (h : RenamedTo sources renames name next)
    (h' : RenamedTo sources renames name next') : next = next' :=
  Option.some.inj (h.2.symm.trans h'.2)

/-- A chain has one end at most. -/
theorem LeadsTo.end_unique {start a b : String} (ha : LeadsTo sources renames start a)
    (hb : LeadsTo sources renames start b) (hena : ∀ next, ¬ RenamedTo sources renames a next)
    (henb : ∀ next, ¬ RenamedTo sources renames b next) : a = b := by
  have hright : Relator.RightUnique (RenamedTo sources renames) := fun _ _ _ h h' => h.unique h'
  rcases ReflTransGen.total_of_right_unique hright ha hb with hab | hba
  · rcases hab.cases_head with rfl | ⟨next, hnext, -⟩
    · rfl
    · exact absurd hnext (hena next)
  · rcases hba.cases_head with rfl | ⟨next, hnext, -⟩
    · rfl
    · exact absurd hnext (henb next)

/-- What leads to an end leads nowhere else on. -/
theorem LeadsTo.not_endless {start name : String} (h : LeadsTo sources renames start name)
    (hend : ∀ next, ¬ RenamedTo sources renames name next) :
    ¬ ∀ other, LeadsTo sources renames start other →
      ∃ next, RenamedTo sources renames other next := by
  intro hnext
  obtain ⟨next, hstep⟩ := hnext name h
  exact hend next hstep

theorem not_renamedTo_of_declared? {name : String} {s : DeclaredSource}
    (h : declared? sources name = some s) (next : String) :
    ¬ RenamedTo sources renames name next := by
  intro hnext
  exact hnext.1 (isDeclared_iff.mpr ⟨s, h⟩)

theorem not_renamedTo_of_get? {name : String} (h : renames.get? name = none) (next : String) :
    ¬ RenamedTo sources renames name next := by
  intro hnext
  exact absurd (h.symm.trans hnext.2) (by simp)

theorem ChainVerdict.unique {start : String} {e e' : ChainEnd}
    (h : ChainVerdict sources renames start e) (h' : ChainVerdict sources renames start e') :
    e = e' := by
  cases h with
  | declared hlead hs =>
      have hend : ∀ next, ¬ RenamedTo sources renames _ next := not_renamedTo_of_declared? hs
      cases h' with
      | declared hlead' hs' =>
          obtain rfl := hlead.end_unique hlead' hend (not_renamedTo_of_declared? hs')
          rw [Option.some.inj (hs.symm.trans hs')]
      | undeclared hlead' hnot hnone =>
          obtain rfl := hlead.end_unique hlead' hend (not_renamedTo_of_get? hnone)
          exact absurd (isDeclared_iff.mpr ⟨_, hs⟩) hnot
      | endless hnext => exact absurd hnext (hlead.not_endless hend)
  | undeclared hlead hnot hnone =>
      have hend : ∀ next, ¬ RenamedTo sources renames _ next := not_renamedTo_of_get? hnone
      cases h' with
      | declared hlead' hs =>
          obtain rfl := hlead.end_unique hlead' hend (not_renamedTo_of_declared? hs)
          exact absurd (isDeclared_iff.mpr ⟨_, hs⟩) hnot
      | undeclared _ _ _ => rfl
      | endless hnext => exact absurd hnext (hlead.not_endless hend)
  | endless hnext =>
      cases h' with
      | declared hlead hs =>
          exact absurd hnext (hlead.not_endless (not_renamedTo_of_declared? hs))
      | undeclared hlead _ hnone =>
          exact absurd hnext (hlead.not_endless (not_renamedTo_of_get? hnone))
      | endless _ => rfl

/-! ## The walk finds it -/

/-- A name that leads back to itself hands that on to the next one. -/
theorem transGen_self_of_renamedTo {name next : String}
    (h : TransGen (RenamedTo sources renames) name name)
    (hnext : RenamedTo sources renames name next) :
    TransGen (RenamedTo sources renames) next next := by
  obtain ⟨next', hstep, hback⟩ := TransGen.head'_iff.mp h
  obtain rfl := hnext.unique hstep
  exact TransGen.tail' hback hnext

theorem exists_next_of_transGen_self {start name : String}
    (h : TransGen (RenamedTo sources renames) start start)
    (hlead : LeadsTo sources renames start name) :
    ∃ next, RenamedTo sources renames name next := by
  have hself : TransGen (RenamedTo sources renames) name name := by
    induction hlead with
    | refl => exact h
    | tail _ hstep ih => exact transGen_self_of_renamedTo ih hstep
  obtain ⟨next, hstep, -⟩ := TransGen.head'_iff.mp hself
  exact ⟨next, hstep⟩

theorem ChainVerdict.step {name next : String} {e : ChainEnd}
    (hstep : RenamedTo sources renames name next)
    (h : ChainVerdict sources renames next e) : ChainVerdict sources renames name e := by
  cases h with
  | declared hlead hs => exact .declared (hlead.head hstep) hs
  | undeclared hlead hnot hnone => exact .undeclared (hlead.head hstep) hnot hnone
  | endless hnext =>
      refine .endless fun other hlead => ?_
      rcases hlead.cases_head with rfl | ⟨next', hstep', hlead'⟩
      · exact ⟨next, hstep⟩
      · obtain rfl := hstep.unique hstep'
        exact hnext other hlead'

theorem follow_of_declared {visited : List String} {name : String} {s : DeclaredSource}
    (h : declared? sources name = some s) : follow sources renames visited name = .declared s := by
  rw [follow, h]

theorem follow_of_visited {visited : List String} {name : String}
    (h : declared? sources name = none) (hmem : name ∈ visited) :
    follow sources renames visited name = .endless := by
  rw [follow, h]
  exact dif_pos hmem

theorem follow_of_renamed {visited : List String} {name next : String}
    (h : declared? sources name = none) (hnew : name ∉ visited)
    (hnext : renames.get? name = some next) :
    follow sources renames visited name = follow sources renames (name :: visited) next := by
  rw [follow, h]
  dsimp only
  rw [dif_neg hnew]
  split
  · rename_i next' hnext'
    rw [Option.some.inj (hnext.symm.trans hnext')]
  · rename_i hnone
    exact absurd (hnext.symm.trans hnone) (by simp)

theorem follow_of_not_renamed {visited : List String} {name : String}
    (h : declared? sources name = none) (hnew : name ∉ visited)
    (hnone : renames.get? name = none) :
    follow sources renames visited name = .undeclared := by
  rw [follow, h]
  dsimp only
  rw [dif_neg hnew]
  split
  · rename_i next hnext
    exact absurd (hnext.symm.trans hnone) (by simp)
  · rfl

theorem chainVerdict_follow {visited : List String} {name : String}
    (h : ∀ before ∈ visited, TransGen (RenamedTo sources renames) before name) :
    ChainVerdict sources renames name (follow sources renames visited name) := by
  induction visited, name using follow.induct sources renames with
  | case1 visited name s hs =>
      rw [follow_of_declared hs]
      exact .declared .refl hs
  | case2 visited name hnone hmem =>
      rw [follow_of_visited hnone hmem]
      exact .endless fun other hlead => exists_next_of_transGen_self (h name hmem) hlead
  | case3 visited name hnone hnew next hnext ih =>
      have hstep : RenamedTo sources renames name next :=
        ⟨declared?_eq_none_iff.mp hnone, hnext⟩
      have hvisited : ∀ before ∈ name :: visited,
          TransGen (RenamedTo sources renames) before next := by
        intro before hbefore
        rcases List.mem_cons.mp hbefore with rfl | hbefore
        · exact .single hstep
        · exact (h before hbefore).tail hstep
      rw [follow_of_renamed hnone hnew hnext]
      exact (ih hvisited).step hstep
  | case4 visited name hnone hnew hnext =>
      rw [follow_of_not_renamed hnone hnew hnext]
      exact .undeclared .refl (declared?_eq_none_iff.mp hnone) hnext

theorem follow_eq_iff {start : String} {e : ChainEnd} :
    follow sources renames [] start = e ↔ ChainVerdict sources renames start e := by
  have hwalk : ChainVerdict sources renames start (follow sources renames [] start) :=
    chainVerdict_follow fun before hbefore => absurd hbefore List.not_mem_nil
  constructor
  · rintro rfl
    exact hwalk
  · exact hwalk.unique

/-! ## Chains without an end -/

/-- The names on a chain, where it goes on at least as far. -/
def chainFrom (renames : OrderedMap String) (start : String) (i : ℕ) : String :=
  (fun name => (renames.get? name).getD name)^[i] start

theorem chainFrom_succ {start : String} {i : ℕ} {next : String}
    (h : RenamedTo sources renames (chainFrom renames start i) next) :
    chainFrom renames start (i + 1) = next := by
  rw [chainFrom, Function.iterate_succ_apply']
  show (renames.get? (chainFrom renames start i)).getD _ = next
  rw [h.2, Option.getD_some]

/-- Every name of a chain has a next one iff the chain goes on for ever. -/
theorem endless_iff {start : String} :
    (∀ name, LeadsTo sources renames start name →
        ∃ next, RenamedTo sources renames name next) ↔
      ∃ chain : ℕ → String, chain 0 = start ∧
        ∀ i, RenamedTo sources renames (chain i) (chain (i + 1)) := by
  constructor
  · intro hnext
    have hlead : ∀ i, LeadsTo sources renames start (chainFrom renames start i) := by
      intro i
      induction i with
      | zero => exact .refl
      | succ i ih =>
          obtain ⟨next, hstep⟩ := hnext _ ih
          rw [chainFrom_succ hstep]
          exact ih.tail hstep
    refine ⟨chainFrom renames start, rfl, fun i => ?_⟩
    obtain ⟨next, hstep⟩ := hnext _ (hlead i)
    rw [chainFrom_succ hstep]
    exact hstep
  · rintro ⟨chain, rfl, hchain⟩ name hlead
    have hon : ∃ i, chain i = name := by
      induction hlead with
      | refl => exact ⟨0, rfl⟩
      | tail _ hstep ih =>
          obtain ⟨i, rfl⟩ := ih
          exact ⟨i + 1, (hchain i).unique hstep⟩
    obtain ⟨i, rfl⟩ := hon
    exact ⟨chain (i + 1), hchain i⟩

/-! ## Sources -/

variable {key : String}

/-- A key has a source iff its chain reaches a declared name, and that name tells the target. -/
theorem resolveSource_eq_ok_iff {source : EntitySource} :
    resolveSource key sources renames = .ok source ↔
      ∃ name s, LeadsTo sources renames key name ∧ declared? sources name = some s ∧
        source =
          { kind := .db
            sourceAlias := key
            target := some ((renames.get? name).getD (s.table?.getD name)) } := by
  rw [resolveSource]
  constructor
  · intro h
    cases hfollow : follow sources renames [] key with
    | declared s =>
        rw [hfollow] at h
        cases follow_eq_iff.mp hfollow with
        | @declared name _ hlead hs =>
            refine ⟨name, s, hlead, hs, ?_⟩
            rw [← Except.ok.inj h, name_of_declared? hs]
    | undeclared =>
        rw [hfollow] at h
        exact nomatch h
    | endless =>
        rw [hfollow] at h
        exact nomatch h
  · rintro ⟨name, s, hlead, hs, rfl⟩
    rw [follow_eq_iff.mpr (.declared hlead hs), ← name_of_declared? hs]

theorem resolveSource_eq_error_iff {e : SourceError} :
    resolveSource key sources renames = .error e ↔
      (ChainVerdict sources renames key .undeclared ∧ e = .notFound key) ∨
        (ChainVerdict sources renames key .endless ∧ e = .cycle key) := by
  rw [← follow_eq_iff, ← follow_eq_iff, resolveSource]
  cases follow sources renames [] key with
  | declared s => simp
  | undeclared => simp [eq_comm]
  | endless => simp [eq_comm]

/-- What a key resolves to, told from its chain. -/
structure ResolvedByChain (key : String) (sources : List DeclaredSource)
    (renames : OrderedMap String) : Prop where
  /-- There is a source iff the chain reaches a declared name. -/
  resolved : (∃ source, resolveSource key sources renames = .ok source) ↔
    ∃ name, LeadsTo sources renames key name ∧ IsDeclared sources name
  /-- The source is called by the key, and stands for the declared name that is reached. -/
  source : ∀ source, resolveSource key sources renames = .ok source →
    source.kind = .db ∧ source.sourceAlias = key ∧
      ∃ name s, LeadsTo sources renames key name ∧ sources.find? (·.name == name) = some s ∧
        source.target = some
          (match renames.get? name, s with
            | some view, _ => view
            | none, .table _ table => table
            | none, .query _ _ _ => name)
  /-- The key is not found iff the chain reaches a name that is neither declared nor renamed. -/
  notFound : resolveSource key sources renames = .error (.notFound key) ↔
    ∃ name, LeadsTo sources renames key name ∧ ¬ IsDeclared sources name ∧
      renames.get? name = none
  /-- The key is on a cycle or leads to one iff the chain reaches no such name. -/
  cycle : resolveSource key sources renames = .error (.cycle key) ↔
    ∀ name, LeadsTo sources renames key name →
      ¬ IsDeclared sources name ∧ renames.get? name ≠ none
  /-- That is, iff the chain goes on for ever. -/
  endless : resolveSource key sources renames = .error (.cycle key) ↔
    ∃ chain : ℕ → String, chain 0 = key ∧
      ∀ i, RenamedTo sources renames (chain i) (chain (i + 1))
  /-- There is no other failure. -/
  failed : ∀ e, resolveSource key sources renames = .error e →
    e = .notFound key ∨ e = .cycle key

theorem exists_renamedTo_iff {name : String} :
    (∃ next, RenamedTo sources renames name next) ↔
      ¬ IsDeclared sources name ∧ renames.get? name ≠ none := by
  rw [Option.ne_none_iff_exists']
  constructor
  · rintro ⟨next, hnot, hnext⟩
    exact ⟨hnot, next, hnext⟩
  · rintro ⟨hnot, next, hnext⟩
    exact ⟨next, hnot, hnext⟩

theorem resolveSource_eq_cycle_iff :
    resolveSource key sources renames = .error (.cycle key) ↔
      ∀ name, LeadsTo sources renames key name →
        ∃ next, RenamedTo sources renames name next := by
  rw [resolveSource_eq_error_iff]
  constructor
  · rintro (⟨-, hne⟩ | ⟨hverdict, -⟩)
    · exact nomatch hne
    · cases hverdict with
      | endless hnext => exact hnext
  · intro hnext
    exact Or.inr ⟨.endless hnext, rfl⟩

/-- **A key resolves to what its chain of renames reaches**, and the reason why it does not is what
the chain is like. -/
theorem resolveSource_byChain (key : String) (sources : List DeclaredSource)
    (renames : OrderedMap String) : ResolvedByChain key sources renames := by
  constructor
  case resolved =>
    constructor
    · rintro ⟨source, h⟩
      obtain ⟨name, s, hlead, hs, -⟩ := resolveSource_eq_ok_iff.mp h
      exact ⟨name, hlead, isDeclared_iff.mpr ⟨s, hs⟩⟩
    · rintro ⟨name, hlead, hdeclared⟩
      obtain ⟨s, hs⟩ := isDeclared_iff.mp hdeclared
      exact ⟨_, resolveSource_eq_ok_iff.mpr ⟨name, s, hlead, hs, rfl⟩⟩
  case source =>
    intro source h
    obtain ⟨name, s, hlead, hs, rfl⟩ := resolveSource_eq_ok_iff.mp h
    refine ⟨rfl, rfl, name, s, hlead, hs, ?_⟩
    cases renames.get? name with
    | some view => rfl
    | none => cases s <;> rfl
  case notFound =>
    rw [resolveSource_eq_error_iff]
    constructor
    · rintro (⟨hverdict, -⟩ | ⟨-, hne⟩)
      · cases hverdict with
        | undeclared hlead hnot hnone => exact ⟨_, hlead, hnot, hnone⟩
      · exact nomatch hne
    · rintro ⟨name, hlead, hnot, hnone⟩
      exact Or.inl ⟨.undeclared hlead hnot hnone, rfl⟩
  case cycle =>
    rw [resolveSource_eq_cycle_iff]
    exact forall₂_congr fun _ _ => exists_renamedTo_iff
  case endless => rw [resolveSource_eq_cycle_iff, endless_iff]
  case failed =>
    intro e h
    rcases resolveSource_eq_error_iff.mp h with ⟨-, rfl⟩ | ⟨-, rfl⟩
    · exact Or.inl rfl
    · exact Or.inr rfl

/-! A key that leads to a cycle without being on it has the reason given under its own name; and a
declared name ends a chain though it is renamed itself. -/

example :
    failure? (resolveSource "loans" [.table "users" "users"]
      (OrderedMap.ofList [("loans", "items"), ("items", "holdings"), ("holdings", "items")]))
      = some (.cycle "loans") := by
  decide +kernel

example :
    (resolveSource "patrons" [.table "users" "users"]
      (OrderedMap.ofList [("patrons", "users"), ("users", "users_view")])).toOption
      = some { kind := .db, sourceAlias := "patrons", target := some "users_view" } := by
  decide +kernel

end EntityCatalog
