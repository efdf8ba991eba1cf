import EntityCatalog.Proofs.Label.Rekeying
import EntityCatalog.Source.Basic

/-!
# What the name of a view tells

The name of a view is made of four parts with double underscores between them, and its dashes are
underscores: the word `src`, the domain, the module without its `mod-`, and the table or the name of
the source.  A domain holds no underscore, so it is always read back.  The other two are any texts,
and where the one ends is seen only if the module neither holds a double underscore nor ends in an
underscore (`ModuleMetadata.Separable`).  Then a view is that of a module and a table as far as
these are known without the `mod-` and with underscores for dashes (`viewName_eq_iff`).

Nothing else of a source is in the name.  A query stands there with its own name, as a table of that
name would, and what it selects does not show.
-/

namespace EntityCatalog

open Text Naming Label

/-! ## The parts of a name -/

/-- A module's name without its `mod-`. -/
def ModuleMetadata.stem (m : ModuleMetadata) : String :=
  (stripStart? "mod-" m.moduleName).getD m.moduleName

/-- What a source is called in the name of its view: a table as it is, a query by its name. -/
def DeclaredSource.label (s : DeclaredSource) : String := s.table?.getD s.name

theorem dashesToUnderscores_append (s t : String) :
    dashesToUnderscores (s ++ t) = dashesToUnderscores s ++ dashesToUnderscores t := by
  rw [dashesToUnderscores, String.toList_append, List.map_append, String.ofList_append]
  rfl

theorem dashesToUnderscores_domain (d : Domain) : dashesToUnderscores d.name = d.name := by
  cases d <;> rfl

theorem viewName_eq (s : DeclaredSource) (m : ModuleMetadata) :
    s.viewName m
      = "src__"
        ++ (m.domain.name ++ ("__" ++ dashesToUnderscores (m.stem ++ "__" ++ s.label))) := by
  have hparts : s.viewName m
      = dashesToUnderscores ("src__" ++ m.domain.name ++ "__" ++ m.stem ++ "__" ++ s.label) := rfl
  rw [hparts]
  simp only [dashesToUnderscores_append, dashesToUnderscores_domain, String.append_assoc]
  rfl

/-! ## The domain -/

theorem underscore_not_mem_domain (d : Domain) : '_' ∉ d.name.toList := by
  cases d <;> decide

theorem Domain.name_injective : Function.Injective Domain.name := by
  intro d d' h
  have hall : ∀ d ∈ Domain.all, ∀ d' ∈ Domain.all, d.name = d'.name → d = d' := by decide
  refine hall d ?_ d' ?_ h
  · cases d <;> decide
  · cases d' <;> decide

theorem domain_append_inj {d d' : Domain} {rest rest' : String} :
    d.name ++ ("__" ++ rest) = d'.name ++ ("__" ++ rest') ↔ d = d' ∧ rest = rest' := by
  constructor
  · intro h
    have hl := congrArg String.toList h
    simp only [String.toList_append] at hl
    have hr := congrArg afterFirstSeparator? hl
    rw [afterFirstSeparator?_append (underscore_not_mem_domain d),
      afterFirstSeparator?_append (underscore_not_mem_domain d')] at hr
    have hrest : rest = rest' := String.toList_inj.mp (Option.some.inj hr)
    rw [hrest] at hl
    exact ⟨Domain.name_injective (String.toList_inj.mp (List.append_cancel_right hl)), hrest⟩
  · rintro ⟨rfl, rfl⟩
    rfl

/-! ## The module -/

/-- Whether the end of a module is seen in front of a separator: with underscores for dashes, and
one more behind it, it holds no two underscores in a row. -/
def ModuleMetadata.Separable (m : ModuleMetadata) : Prop :=
  ¬ ['_', '_'] <:+: (dashesToUnderscores m.stem).toList ++ ['_']

instance (m : ModuleMetadata) : Decidable m.Separable := inferInstanceAs (Decidable (¬ _))

/-- A separator behind a text is the first one if none begins in the text. -/
theorem afterFirstSeparator?_of_separable {cs : List Char} (h : ¬ ['_', '_'] <:+: cs ++ ['_'])
    (rest : List Char) : afterFirstSeparator? (cs ++ '_' :: '_' :: rest) = some rest := by
  induction cs with
  | nil => rfl
  | cons c cs ih =>
      have hcs : ¬ ['_', '_'] <:+: cs ++ ['_'] :=
        fun hin => h (hin.trans (List.suffix_cons c _).isInfix)
      rw [List.cons_append]
      by_cases hc : c = '_'
      · -- an underscore begins no separator here, because another character follows it
        subst hc
        cases cs with
        | nil => exact absurd ⟨[], [], rfl⟩ h
        | cons d cs =>
            have hd : d ≠ '_' := by
              rintro rfl
              exact h ⟨[], cs ++ ['_'], rfl⟩
            rw [← ih hcs, List.cons_append, afterFirstSeparator?.eq_2]
            intro tail _ htail
            exact hd (List.cons.inj htail).1
      · rw [afterFirstSeparator?_cons_of_ne hc, ih hcs]

theorem append_underscores_inj {a a' b b' : String} (ha : ¬ ['_', '_'] <:+: a.toList ++ ['_'])
    (ha' : ¬ ['_', '_'] <:+: a'.toList ++ ['_']) :
    a ++ "__" ++ b = a' ++ "__" ++ b' ↔ a = a' ∧ b = b' := by
  constructor
  · intro h
    have hl := congrArg String.toList h
    simp only [String.toList_append, List.append_assoc] at hl
    have hr := congrArg afterFirstSeparator? hl
    have hb : b.toList = b'.toList := by
      have hsome := (afterFirstSeparator?_of_separable ha b.toList).symm.trans
        (hr.trans (afterFirstSeparator?_of_separable ha' b'.toList))
      exact Option.some.inj hsome
    rw [hb] at hl
    exact ⟨String.toList_inj.mp (List.append_cancel_right hl), String.toList_inj.mp hb⟩
  · rintro ⟨rfl, rfl⟩
    rfl

theorem viewName_eq_of_separable {s s' : DeclaredSource} {m m' : ModuleMetadata}
    (hm : m.Separable) (hm' : m'.Separable) :
    s.viewName m = s'.viewName m' ↔ m.domain = m'.domain ∧
      dashesToUnderscores m.stem = dashesToUnderscores m'.stem ∧
      dashesToUnderscores s.label = dashesToUnderscores s'.label := by
  rw [viewName_eq, viewName_eq, String.append_right_inj, domain_append_inj]
  refine and_congr_right fun _ => ?_
  simp only [dashesToUnderscores_append]
  exact append_underscores_inj hm hm'

/-! ## Modules that are named as usual -/

/-- Whether a module is called `mod-` and some words, with single dashes between them. -/
structure ModuleMetadata.Conventional (m : ModuleMetadata) : Prop where
  startsWith : startsWith "mod-" m.moduleName = true
  noUnderscore : '_' ∉ m.moduleName.toList
  singleDashes : ¬ ['-', '-'] <:+: m.moduleName.toList ++ ['-']

theorem ModuleMetadata.Conventional.moduleName_eq {m : ModuleMetadata} (h : m.Conventional) :
    m.moduleName = "mod-" ++ m.stem := by
  obtain ⟨rest, hrest⟩ := startsWith_iff.mp h.startsWith
  rw [ModuleMetadata.stem, stripStart?_eq_some_iff.mpr hrest, Option.getD_some]
  exact hrest

theorem ModuleMetadata.Conventional.stem_toList {m : ModuleMetadata} (h : m.Conventional) :
    '_' ∉ m.stem.toList ∧ ¬ ['-', '-'] <:+: m.stem.toList ++ ['-'] := by
  have hname : m.moduleName.toList = "mod-".toList ++ m.stem.toList := by
    rw [← String.toList_append, ← h.moduleName_eq]
  have hno := h.noUnderscore
  have hsingle := h.singleDashes
  rw [hname] at hno hsingle
  rw [List.append_assoc] at hsingle
  exact ⟨fun hmem => hno (List.mem_append_right _ hmem),
    fun hin => hsingle (hin.trans (List.suffix_append _ _).isInfix)⟩

/-- Two underscores in a row were two dashes, where no underscore was. -/
theorem dashes_isInfix {cs : List Char} (h : '_' ∉ cs)
    (hin : ['_', '_'] <:+: cs.map fun c => if c = '-' then '_' else c) : ['-', '-'] <:+: cs := by
  have hdash : ∀ c ∈ cs, '_' = (if c = '-' then '_' else c) → c = '-' := by
    intro c hc heq
    split at heq
    · assumption
    · exact absurd (heq ▸ hc) h
  obtain ⟨l, hl, heq⟩ := List.infix_map_iff.mp hin
  obtain ⟨a, l, rfl, ha, hrest⟩ := List.map_eq_cons_iff.mp heq.symm
  obtain ⟨b, l, rfl, hb, hnil⟩ := List.map_eq_cons_iff.mp hrest
  rw [List.map_eq_nil_iff] at hnil
  subst hnil
  have ha' := hdash a (hl.subset List.mem_cons_self) ha.symm
  have hb' := hdash b (hl.subset (List.mem_cons_of_mem _ List.mem_cons_self)) hb.symm
  rw [ha', hb'] at hl
  exact hl

theorem ModuleMetadata.Conventional.separable {m : ModuleMetadata} (h : m.Conventional) :
    m.Separable := by
  obtain ⟨hno, hsingle⟩ := h.stem_toList
  have hbehind : '_' ∉ m.stem.toList ++ ['-'] := by
    rw [List.mem_append, List.mem_singleton]
    rintro (hmem | heq)
    · exact hno hmem
    · exact absurd heq (by decide)
  intro hin
  refine hsingle (dashes_isInfix hbehind ?_)
  rw [dashesToUnderscores, String.toList_ofList] at hin
  rw [List.map_append]
  exact hin

theorem dashesToUnderscores_of_not_mem {s : String} (h : '-' ∉ s.toList) :
    dashesToUnderscores s = s := by
  have hid : ∀ c ∈ s.toList, (if c = '-' then '_' else c) = c := by
    intro c hc
    rw [if_neg]
    rintro rfl
    exact h hc
  rw [dashesToUnderscores, List.map_congr_left hid, List.map_id', String.ofList_toList]

/-- Texts without underscores are known from what their dashes become. -/
theorem dashesToUnderscores_inj {s t : String} (hs : '_' ∉ s.toList) (ht : '_' ∉ t.toList) :
    dashesToUnderscores s = dashesToUnderscores t ↔ s = t := by
  have hback : ∀ u : String, '_' ∉ u.toList →
      (dashesToUnderscores u).toList.map (fun c => if c = '_' then '-' else c) = u.toList := by
    intro u hu
    rw [dashesToUnderscores, String.toList_ofList, List.map_map]
    conv_rhs => rw [← List.map_id u.toList]
    refine List.map_congr_left fun c hc => ?_
    have hne : c ≠ '_' := fun heq => hu (heq ▸ hc)
    by_cases hdash : c = '-'
    · simp [hdash]
    · simp [hdash, hne]
  constructor
  · intro h
    rw [← String.toList_inj, ← hback s hs, h, hback t ht]
  · rintro rfl
    rfl

/-! ## Views -/

/-- **Which sources share the name of a view.**  Two do iff their domains are the same, and so is,
with underscores for dashes, what stands behind the domain.  Where the ends of the modules are seen,
that is the module without its `mod-` and the table or the query's name, each with underscores for
dashes; so among modules that are named as usual, two tables without dashes share a view iff the
domain, the module and the table are the same. -/
theorem viewName_eq_iff (s s' : DeclaredSource) (m m' : ModuleMetadata) :
    (s.viewName m = s'.viewName m' ↔ m.domain = m'.domain ∧
      dashesToUnderscores (m.stem ++ "__" ++ s.label)
        = dashesToUnderscores (m'.stem ++ "__" ++ s'.label)) ∧
    (m.Separable → m'.Separable →
      (s.viewName m = s'.viewName m' ↔ m.domain = m'.domain ∧
        dashesToUnderscores m.stem = dashesToUnderscores m'.stem ∧
        dashesToUnderscores s.label = dashesToUnderscores s'.label)) ∧
    (m.Conventional → m'.Conventional → ∀ name name' table table' : String,
      '-' ∉ table.toList → '-' ∉ table'.toList →
        ((DeclaredSource.table name table).viewName m
            = (DeclaredSource.table name' table').viewName m' ↔
          m.domain = m'.domain ∧ m.moduleName = m'.moduleName ∧ table = table')) := by
  refine ⟨?_, viewName_eq_of_separable, ?_⟩
  · rw [viewName_eq, viewName_eq, String.append_right_inj, domain_append_inj]
  · intro hm hm' name name' table table' htable htable'
    have hlabel : dashesToUnderscores (DeclaredSource.table name table).label = table :=
      dashesToUnderscores_of_not_mem htable
    have hlabel' : dashesToUnderscores (DeclaredSource.table name' table').label = table' :=
      dashesToUnderscores_of_not_mem htable'
    rw [viewName_eq_of_separable hm.separable hm'.separable, hlabel, hlabel',
      dashesToUnderscores_inj hm.stem_toList.1 hm'.stem_toList.1, hm.moduleName_eq,
      hm'.moduleName_eq, String.append_right_inj]

/-- A module of the circulation domain. -/
def circulation (moduleName : String) : ModuleMetadata :=
  { team := "vega", domain := .circulation, moduleName }

/-- The loans and the requests of a module have views of their own, and so have the loans of two. -/
theorem viewName_ne_of_circulation :
    (circulation "mod-circulation-storage").Conventional ∧
      (circulation "mod-circulation-bff").Conventional ∧
      (DeclaredSource.table "loan" "loan").viewName (circulation "mod-circulation-storage")
        ≠ (DeclaredSource.table "request" "request").viewName
            (circulation "mod-circulation-storage") ∧
      (DeclaredSource.table "loan" "loan").viewName (circulation "mod-circulation-storage")
        ≠ (DeclaredSource.table "loan" "loan").viewName (circulation "mod-circulation-bff") := by
  have hstorage : (circulation "mod-circulation-storage").Conventional :=
    ⟨by decide +kernel, by decide +kernel, by decide +kernel⟩
  have hbff : (circulation "mod-circulation-bff").Conventional :=
    ⟨by decide +kernel, by decide +kernel, by decide +kernel⟩
  have hiff := fun m' hm' table' htable' =>
    (viewName_eq_iff (.table "loan" "loan") (.table "loan" "loan")
      (circulation "mod-circulation-storage") m').2.2 hstorage hm' "loan" table' "loan" table'
        (by decide +kernel) htable'
  refine ⟨hstorage, hbff, fun h => ?_, fun h => ?_⟩
  · exact absurd ((hiff _ hstorage "request" (by decide +kernel)).mp h).2.2 (by decide)
  · exact absurd ((hiff _ hbff "loan" (by decide +kernel)).mp h).2.1 (by decide)

/-- Whether two sources read the same: one table, or one query. -/
def DeclaredSource.ReadsAs : (s s' : DeclaredSource) → Prop
  | .table _ t, .table _ t' => t = t'
  | .query _ sql _, .query _ sql' _ => sql = sql'
  | _, _ => False

/-- The table of loans. -/
def loanTable : DeclaredSource := .table "loan" "loans"

/-- A query that is called like the table of loans. -/
def loanQuery : DeclaredSource := .query "loans" "SELECT * FROM open_loans" []

/-- A query has the view of the table that it is called like.  So have two tables of one name in
modules whose names differ by a `mod-`, and two of other names where a module ends at a double
underscore of the other one. -/
theorem viewName_confuses_loans :
    loanTable.viewName (circulation "mod-loans") = "src__circulation__loans__loans" ∧
      loanQuery.viewName (circulation "mod-loans") = "src__circulation__loans__loans" ∧
      ¬ loanTable.ReadsAs loanQuery ∧
      loanTable.viewName (circulation "loans") = "src__circulation__loans__loans" ∧
      (DeclaredSource.table "loan" "open__loans").viewName (circulation "mod-circulation")
        = loanTable.viewName (circulation "mod-circulation__open") := by
  refine ⟨?_, ?_, id, ?_, ?_⟩
  · decide +kernel
  · decide +kernel
  · decide +kernel
  · decide +kernel

end EntityCatalog
