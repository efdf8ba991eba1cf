import EntityCatalog.CommandLine.Run
import EntityCatalog.Proofs.Catalog.Isolation
import EntityCatalog.Proofs.Catalog.Locales
import EntityCatalog.Proofs.Label.Rekeying

/-!
# Label files that are written back

A module that takes its part of a locale and writes it back as its file for that locale has a file
that says what the catalog says: the next catalog has the same texts, and finds nothing to report
about the file.

The part of a module is told by the beginning of its keys, not by what the module is expected to
label; that it is the expected keys exactly, in their order, needs that the modules can be told apart
in snake case.  That the file says the same afterwards needs that the two spellings of a key are
inverse.
-/

namespace EntityCatalog

open Label

/-! ## Files with the texts of a batch -/

namespace CommandLine

variable {moduleName : String} {texts : Labels}

theorem entries_underModuleKeys (h : ∀ key ∈ texts.keys, Own moduleName key) :
    (underModuleKeys texts).entries = texts.entries.map fun e => (toModule e.1, e.2) := by
  refine OrderedMap.entries_ofList_of_nodup ?_
  rw [List.map_map]
  refine List.Nodup.of_map (fun e : String × String => e.1) ?_ |>.map_on ?_
  · exact texts.distinct
  · intro e he e' he' heq
    have hkey : e.1 = e'.1 :=
      ((h _ (List.mem_map_of_mem he)).toModule_inj (h _ (List.mem_map_of_mem he'))).mp heq
    exact List.inj_on_of_nodup_map texts.distinct he he' hkey

theorem get?_underModuleKeys (h : ∀ key ∈ texts.keys, Own moduleName key) {key : String}
    (hk : Own moduleName key) : (underModuleKeys texts).get? (toModule key) = texts.get? key := by
  rw [OrderedMap.get?, entries_underModuleKeys h]
  refine OrderedMap.lookup_map_key fun e he heq => ?_
  exact ((h e.1 (List.mem_map_of_mem he)).toModule_inj hk).mp heq

variable {inferred : Labels}

theorem get?_provided_underModuleKeys (h : ∀ key ∈ texts.keys, Own moduleName key)
    (hkeys : texts.keys = inferred.keys) {key : String} (hk : key ∈ inferred.keys) :
    (provided (underModuleKeys texts) moduleName inferred.keys).get? key = texts.get? key := by
  have hown : Own moduleName key := h key (hkeys ▸ hk)
  rw [get?_provided hown hk, get?_underModuleKeys h hown]

/-- A file with texts for all keys that are expected is taken over as it is. -/
theorem merge_underModuleKeys (h : ∀ key ∈ texts.keys, Own moduleName key)
    (hkeys : texts.keys = inferred.keys) :
    merge inferred (provided (underModuleKeys texts) moduleName inferred.keys) = texts := by
  have hown : ∀ key ∈ inferred.keys, Own moduleName key := fun key hk => h key (hkeys ▸ hk)
  refine OrderedMap.ext ?_
  rw [entries_merge hown]
  refine OrderedMap.eq_of_lookup ?_ ?_ fun key => ?_
  · rw [List.map_map]
    exact inferred.distinct
  · rw [List.map_map]
    exact hkeys.symm
  · rw [OrderedMap.lookup_map_value (fun key v =>
      ((underModuleKeys texts).get? (toModule key)).getD v)]
    show (inferred.get? key).map _ = texts.get? key
    cases hget : inferred.get? key with
    | none =>
        have hnot : key ∉ texts.keys := hkeys ▸ OrderedMap.lookup_eq_none_iff.mp hget
        exact (OrderedMap.lookup_eq_none_iff.mpr hnot).symm
    | some v =>
        have hmem : key ∈ texts.keys := hkeys ▸ OrderedMap.mem_keys_of_get? hget
        obtain ⟨w, hw⟩ := OrderedMap.exists_get?_of_mem_keys hmem
        rw [get?_underModuleKeys h (h key hmem), hw]
        rfl

theorem extra_underModuleKeys (h : ∀ key ∈ texts.keys, Own moduleName key)
    (hkeys : texts.keys = inferred.keys) :
    extra (underModuleKeys texts) moduleName inferred.keys = [] := by
  refine List.filter_eq_nil_iff.mpr fun key hkey => ?_
  obtain ⟨e, he, rfl⟩ := List.mem_map.mp hkey
  have he : e ∈ (underModuleKeys texts).entries := (List.mem_filter.mp he).1
  rw [entries_underModuleKeys h] at he
  obtain ⟨e', he', rfl⟩ := List.mem_map.mp he
  have hmem : e'.1 ∈ texts.keys := List.mem_map_of_mem he'
  rw [(expectedKey?_eq_some_iff (h _ hmem) (hkeys ▸ hmem)).mpr rfl]
  exact Bool.false_ne_true

theorem missing_underModuleKeys (h : ∀ key ∈ texts.keys, Own moduleName key)
    (hkeys : texts.keys = inferred.keys) :
    missing inferred (provided (underModuleKeys texts) moduleName inferred.keys) = [] := by
  refine List.filter_eq_nil_iff.mpr fun key hkey => ?_
  obtain ⟨v, hv⟩ := OrderedMap.exists_get?_of_mem_keys (hkeys ▸ hkey)
  rw [OrderedMap.contains, get?_provided_underModuleKeys h hkeys hkey, hv]
  exact Bool.false_ne_true

end CommandLine

/-! ## The part of a module -/

namespace CatalogModule

/-- The texts that stand under keys of a module. -/
def part (m : CatalogModule) (texts : Labels) : Labels where
  entries := texts.entries.filter fun e =>
    Text.startsWith (ownKey m.metadata.moduleName "") e.1
  distinct := (List.filter_sublist.map _).nodup texts.distinct

/-- The module with its part of some texts as its file for a locale. -/
def writeBack (m : CatalogModule) (locale : String) (texts : Labels) : CatalogModule :=
  { m with labels := m.labels.insert locale (CommandLine.underModuleKeys (m.part texts)) }

theorem OwnsKey.own {m : CatalogModule} {key : String} (h : m.OwnsKey key) :
    Own m.metadata.moduleName key := by
  obtain ⟨r, s, rfl⟩ := h
  exact ⟨r.name ++ s, by rw [nameOf, qualifiedName_append]; rfl⟩

theorem Apart.not_own {m m' : CatalogModule} (h : m.Apart m') {key : String}
    (hk : m.OwnsKey key) : ¬ Own m'.metadata.moduleName key := by
  rintro ⟨rest, hrest⟩
  obtain ⟨rest', hrest'⟩ := hk.own
  exact h (ownKey_inj.mp (hrest'.symm.trans hrest)).1

end CatalogModule

namespace Catalog

open CatalogModule

variable {modules : List CatalogModule}

/-- Where all modules write under their own keys, what one of them writes is its part. -/
theorem entries_part (hd : Distinct modules) {f : CatalogModule → List (String × String)}
    (hown : ∀ m ∈ modules, ∀ e ∈ f m, m.OwnsKey e.1)
    (hf : ∀ m ∈ modules, ((f m).map (·.1)).Nodup) {m : CatalogModule} (hm : m ∈ modules) :
    (m.part (OrderedMap.ofList (modules.flatMap f))).entries = f m := by
  have hnodup : ((modules.flatMap f).map (·.1)).Nodup := by
    rw [List.map_flatMap, List.nodup_flatMap]
    refine ⟨hf, hd.pairwise.imp_of_mem fun {m m'} hm hm' hap => ?_⟩
    intro key hkey hkey'
    obtain ⟨e, he, rfl⟩ := List.mem_map.mp hkey
    obtain ⟨e', he', heq⟩ := List.mem_map.mp hkey'
    exact hap.not_ownsKey (hown m hm e he) (heq ▸ hown m' hm' e' he')
  show (OrderedMap.ofList (modules.flatMap f)).entries.filter _ = f m
  rw [OrderedMap.entries_ofList_of_nodup hnodup, List.filter_flatMap]
  have hother : ∀ m' ∈ modules, m'.Apart m → (f m').filter (fun e =>
      Text.startsWith (ownKey m.metadata.moduleName "") e.1) = [] := by
    intro m' hm' hap
    refine List.filter_eq_nil_iff.mpr fun e he hstart => ?_
    exact hap.not_own (hown m' hm' e he) (startsWith_ownKey_iff.mp hstart)
  refine (flatMap_eq_of_unique hd.pairwise hm hother).trans ?_
  exact List.filter_eq_self.mpr fun e he => startsWith_ownKey_iff.mpr (hown m hm e he).own

theorem part_labels (hd : Distinct modules) (force : Bool) {m : CatalogModule} (hm : m ∈ modules) :
    m.part (compile modules force).labels = m.ownLabels (resolver modules force) := by
  refine OrderedMap.ext ?_
  rw [labels_eq hd]
  exact entries_part hd (f := fun m => (m.ownLabels (resolver modules force)).entries)
    (fun _ _ _ he => ownsKey_of_mem_ownLabels (List.mem_map_of_mem he))
    (fun m _ => (m.ownLabels (resolver modules force)).distinct) hm

/-- Where a module has a file for a locale, there is the locale, and the module's part of it is what
comes of the file. -/
theorem part_locale (hd : Distinct modules) (force : Bool) {m : CatalogModule} (hm : m ∈ modules)
    {locale : String} {file : Labels} (hfile : m.labels.get? locale = some file) :
    ∃ texts, (compile modules force).locales.get? locale = some texts ∧
      m.part texts
        = merge (m.ownLabels (resolver modules force))
            (provided file m.metadata.moduleName (m.ownLabels (resolver modules force)).keys) := by
  have hone : m.localeTexts (m.ownLabels (resolver modules force)) locale
      = [merge (m.ownLabels (resolver modules force))
          (provided file m.metadata.moduleName (m.ownLabels (resolver modules force)).keys)] := by
    rw [CatalogModule.localeTexts, hfile]
    rfl
  have hne : localeTexts modules (·.ownLabels (resolver modules force)) locale ≠ [] := by
    intro hnil
    have hm' := List.flatMap_eq_nil_iff.mp hnil m hm
    rw [hone] at hm'
    exact absurd hm' (List.cons_ne_nil _ _)
  refine ⟨_, (get?_locales hd force locale).trans (if_neg hne), OrderedMap.ext ?_⟩
  rw [localeTexts, List.flatMap_assoc]
  refine (entries_part hd ?_ ?_ hm).trans ?_
  · intro m' _ e he
    obtain ⟨texts, ht, he⟩ := List.mem_flatMap.mp he
    exact ownsKey_of_mem_localeTexts ht (List.mem_map_of_mem he)
  · intro m' _
    rw [CatalogModule.localeTexts]
    cases m'.labels.get? locale with
    | none => exact List.nodup_nil
    | some file' =>
        rw [Option.map_some, Option.toList_some, List.flatMap_singleton]
        exact OrderedMap.distinct _
  · rw [hone, List.flatMap_singleton]

end Catalog

/-! ## What is reported about label files -/

/-- Whether an issue is about labels. -/
def IssueKind.isLabel : IssueKind → Bool
  | .labelsExtra _ => true
  | .labelsMissing _ => true
  | _ => false

theorem CatalogModule.not_isLabel_of_mem_diagnostics {m : CatalogModule} {d : Diagnostic}
    (h : d ∈ m.diagnostics) : d.issue.kind.isLabel = false := by
  obtain ⟨r, -, h⟩ := List.mem_flatMap.mp h
  cases ha : m.assemble r with
  | error issue =>
      rw [resourceDiagnostics_of_error ha, List.mem_singleton] at h
      subst h
      rcases kind_of_assemble_error ha with hk | hk
      · exact congrArg IssueKind.isLabel hk
      · exact congrArg IssueKind.isLabel hk
  | ok a =>
      obtain ⟨schema, -, hs⟩ := assemble_eq_ok_iff.mp ha
      rw [resourceDiagnostics, ha] at h
      obtain ⟨issue, hi, rfl⟩ := List.mem_map.mp h
      rcases ResourceConfig.kind_of_mem_issues hs hi with hk | hk
      · exact congrArg IssueKind.isLabel hk
      · exact congrArg IssueKind.isLabel hk

namespace Catalog

open CatalogModule

/-- What a catalog reports about the label files of a module. -/
def labelIssues (c : Catalog) (m : CatalogModule) : List Issue :=
  (c.diagnostics.filter fun d => d.issue.kind.isLabel && d.metadata == some m.metadata).map (·.issue)

theorem not_isLabel_of_mem_joinDiagnostics {modules : List CatalogModule} {force : Bool}
    {d : Diagnostic} (h : d ∈ joinDiagnostics modules force) : d.issue.kind.isLabel = false := by
  obtain ⟨join, hjoin, rfl⟩ := List.mem_map.mp h
  obtain ⟨e, -, hjoin⟩ := List.mem_flatMap.mp hjoin
  rw [inOwner_issue]
  have hkind := isJoin_of_mem_diagnostics hjoin
  cases hk : join.issue.kind with
  | join => rfl
  | schema => rfl
  | config => rfl
  | labelsExtra keys =>
      rw [hk] at hkind
      exact absurd hkind Bool.false_ne_true
  | labelsMissing keys =>
      rw [hk] at hkind
      exact absurd hkind Bool.false_ne_true

theorem isLabel_of_mem_fileIssues {m : CatalogModule} {expected : Labels} {file : String × Labels}
    {issue : Issue} (h : issue ∈ fileIssues m expected file) : issue.kind.isLabel = true := by
  rcases List.mem_append.mp h with h | h
  · unfold extraIssue? at h
    split at h
    · exact absurd h (by simp)
    · rw [List.mem_singleton.mp h]
      rfl
  · split at h
    · unfold missingIssue? at h
      split at h
      · exact absurd h (by simp)
      · rw [List.mem_singleton.mp h]
        rfl
    · exact absurd h List.not_mem_nil

theorem labelIssues_eq {modules : List CatalogModule} (hd : Distinct modules) (force : Bool)
    {m : CatalogModule} (hm : m ∈ modules) :
    (compile modules force).labelIssues m
      = m.labels.entries.flatMap (fileIssues m (m.ownLabels (resolver modules force))) := by
  have hresources : ∀ d ∈ modules.flatMap CatalogModule.diagnostics,
      ¬ (d.issue.kind.isLabel && d.metadata == some m.metadata) = true := by
    intro d hd
    obtain ⟨m', -, hd⟩ := List.mem_flatMap.mp hd
    rw [not_isLabel_of_mem_diagnostics hd]
    exact Bool.false_ne_true
  have hjoins : ∀ d ∈ joinDiagnostics modules force,
      ¬ (d.issue.kind.isLabel && d.metadata == some m.metadata) = true := by
    intro d hd
    rw [not_isLabel_of_mem_joinDiagnostics hd]
    exact Bool.false_ne_true
  have hother : ∀ m' ∈ modules, m'.Apart m →
      (labelDiagnostics m' (m'.ownLabels (resolver modules force))).filter
        (fun d => d.issue.kind.isLabel && d.metadata == some m.metadata) = [] := by
    intro m' _ hap
    refine List.filter_eq_nil_iff.mpr fun d hd hd' => hap ?_
    obtain ⟨issue, -, rfl⟩ := List.mem_map.mp hd
    have hmeta : m'.metadata = m.metadata :=
      Option.some.inj (eq_of_beq (Bool.and_eq_true_iff.mp hd').2)
    rw [hmeta]
  have hself : (labelDiagnostics m (m.ownLabels (resolver modules force))).filter
        (fun d => d.issue.kind.isLabel && d.metadata == some m.metadata)
      = labelDiagnostics m (m.ownLabels (resolver modules force)) := by
    refine List.filter_eq_self.mpr fun d hd => ?_
    rw [labelDiagnostics_eq] at hd
    obtain ⟨issue, hi, rfl⟩ := List.mem_map.mp hd
    obtain ⟨file, -, hi⟩ := List.mem_flatMap.mp hi
    rw [isLabel_of_mem_fileIssues hi, Bool.true_and]
    exact beq_self_eq_true _
  rw [labelIssues, compile_diagnostics, List.filter_append, List.filter_append,
    List.filter_eq_nil_iff.mpr hresources, List.filter_eq_nil_iff.mpr hjoins, List.nil_append,
    List.nil_append, expectedLabels_eq hd, List.flatMap_map, List.filter_flatMap]
  rw [flatMap_eq_of_unique hd.pairwise hm hother, hself, labelDiagnostics_eq, List.map_map]
  exact List.map_id _

/-! ## The catalog with the file written back -/

section WriteBack

variable {before after : List CatalogModule} {m : CatalogModule}

theorem Distinct.writeBack (hd : Distinct (before ++ m :: after)) (locale : String)
    (texts : Labels) : Distinct (before ++ m.writeBack locale texts :: after) := by
  rw [Distinct, List.map_append, List.map_cons] at hd ⊢
  exact hd

/-- Joins see no label files. -/
theorem resolver_writeBack (force : Bool) (locale : String) (texts : Labels) :
    resolver (before ++ m.writeBack locale texts :: after) force
      = resolver (before ++ m :: after) force := by
  have hasm : assembled (before ++ m.writeBack locale texts :: after)
      = assembled (before ++ m :: after) := by
    rw [assembled, assembled, List.flatMap_append, List.flatMap_append, List.flatMap_cons,
      List.flatMap_cons]
    rfl
  have hforce : isForced (before ++ m.writeBack locale texts :: after) force
      = isForced (before ++ m :: after) force := by
    rw [isForced, isForced, List.any_append, List.any_append, List.any_cons, List.any_cons]
    rfl
  rw [resolver, resolver, hasm, hforce]

theorem localeTexts_writeBack {inferred : Labels} {locale : String} {file texts : Labels}
    (hfile : m.labels.get? locale = some file)
    (hpart : m.part texts = merge inferred (provided file m.metadata.moduleName inferred.keys))
    (hown : ∀ key ∈ inferred.keys, Own m.metadata.moduleName key) :
    (m.writeBack locale texts).localeTexts inferred locale = m.localeTexts inferred locale := by
  have hkeys : (m.part texts).keys = inferred.keys := by
    rw [hpart, OrderedMap.keys, entries_merge hown, List.map_map]
    rfl
  have hget : (m.writeBack locale texts).labels.get? locale
      = some (CommandLine.underModuleKeys (m.part texts)) := by
    rw [CatalogModule.writeBack, OrderedMap.get?_insert, if_pos rfl]
  have hsame := CommandLine.merge_underModuleKeys (fun key hk => hown key (hkeys ▸ hk)) hkeys
  rw [CatalogModule.localeTexts, CatalogModule.localeTexts, hget, hfile, Option.map_some,
    Option.map_some, ← hpart]
  exact congrArg (fun texts => [texts]) hsame

theorem get?_locales_writeBack (hd : Distinct (before ++ m :: after)) (force : Bool)
    {locale : String} {file texts : Labels} (hfile : m.labels.get? locale = some file)
    (hpart : m.part texts
      = merge (m.ownLabels (resolver (before ++ m :: after) force))
          (provided file m.metadata.moduleName
            (m.ownLabels (resolver (before ++ m :: after) force)).keys)) :
    (compile (before ++ m.writeBack locale texts :: after) force).locales.get? locale
      = (compile (before ++ m :: after) force).locales.get? locale := by
  have hown : ∀ key ∈ (m.ownLabels (resolver (before ++ m :: after) force)).keys,
      Own m.metadata.moduleName key := fun key hk => (ownsKey_of_mem_ownLabels hk).own
  have htexts : localeTexts (before ++ m.writeBack locale texts :: after)
        (·.ownLabels (resolver (before ++ m :: after) force)) locale
      = localeTexts (before ++ m :: after)
        (·.ownLabels (resolver (before ++ m :: after) force)) locale := by
    rw [localeTexts, localeTexts, List.flatMap_append, List.flatMap_append, List.flatMap_cons,
      List.flatMap_cons]
    congr 2
    exact localeTexts_writeBack hfile hpart hown
  rw [get?_locales hd, get?_locales (hd.writeBack locale texts), resolver_writeBack, htexts]

/-- A file that is written back is not reported, and all else about the module is. -/
theorem labelIssues_writeBack (hd : Distinct (before ++ m :: after)) (force : Bool)
    (locale : String) {texts : Labels}
    (hkeys : (m.part texts).keys = (m.ownLabels (resolver (before ++ m :: after) force)).keys) :
    (compile (before ++ m.writeBack locale texts :: after) force).labelIssues m
      = (m.labels.entries.filter (·.1 ≠ locale)).flatMap
          (fileIssues m (m.ownLabels (resolver (before ++ m :: after) force))) := by
  have hmem : m.writeBack locale texts ∈ before ++ m.writeBack locale texts :: after :=
    List.mem_append_right _ List.mem_cons_self
  have hown : ∀ key ∈ (m.part texts).keys, Own m.metadata.moduleName key := by
    intro key hk
    rw [hkeys] at hk
    exact (ownsKey_of_mem_ownLabels hk).own
  have hsilent : fileIssues m (m.ownLabels (resolver (before ++ m :: after) force))
      (locale, CommandLine.underModuleKeys (m.part texts)) = [] := by
    rw [fileIssues, CommandLine.extra_underModuleKeys hown hkeys,
      CommandLine.missing_underModuleKeys hown hkeys]
    split
    · rfl
    · rfl
  refine (labelIssues_eq (hd.writeBack locale texts) force hmem).trans ?_
  rw [resolver_writeBack]
  exact OrderedMap.flatMap_put hsilent m.labels.distinct

end WriteBack

/-- What is meant by a label file being a fixpoint, where `c` is a catalog with the file of a module
for a locale, and `c'` the one with the file written back.  Only what is reported about the other
files of the module is reported again. -/
structure Fixpoint (c c' : Catalog) (m : CatalogModule) (inferred : Labels) (locale : String)
    (file texts : Labels) : Prop where
  written : c.locales.get? locale = some texts
  labels : m.part c.labels = inferred
  part : (m.part texts).entries
    = inferred.entries.map fun e => (e.1, (file.get? (toModule e.1)).getD e.2)
  again : c'.locales.get? locale = some texts
  issues : c'.labelIssues m
    = (m.labels.entries.filter (·.1 ≠ locale)).flatMap (fileIssues m inferred)
  complete : locale = referenceLocale → ∀ issue ∈ c'.labelIssues m, ∀ keys,
    issue.kind ≠ .labelsMissing keys

theorem missing_of_mem_fileIssues {m : CatalogModule} {expected : Labels}
    {file : String × Labels} {issue : Issue} (h : issue ∈ fileIssues m expected file)
    {keys : List String} (hk : issue.kind = .labelsMissing keys) : file.1 = referenceLocale := by
  rcases List.mem_append.mp h with h | h
  · unfold extraIssue? at h
    split at h
    · exact absurd h (by simp)
    · rw [List.mem_singleton.mp h] at hk
      exact absurd hk (by simp)
  · split at h
    · assumption
    · exact absurd h List.not_mem_nil

/-- **Label files that are written back are a fixpoint.**  Where no two modules have one name in
snake case, a module's part of a locale for which it has a file holds the keys of its labels, in
order, with the texts of the file where it has them; and the catalog with that part as the file has
the same locale, and reports nothing about the file. -/
theorem compile_writeBack {before after : List CatalogModule} {m : CatalogModule}
    (hd : Distinct (before ++ m :: after)) (force : Bool) {locale : String} {file : Labels}
    (hfile : m.labels.get? locale = some file) :
    ∃ texts,
      Fixpoint (compile (before ++ m :: after) force)
        (compile (before ++ m.writeBack locale texts :: after) force) m
        (m.ownLabels (resolver (before ++ m :: after) force)) locale file texts := by
  have hm : m ∈ before ++ m :: after := List.mem_append_right _ List.mem_cons_self
  obtain ⟨texts, htexts, hpart⟩ := part_locale hd force hm hfile
  have hown : ∀ key ∈ (m.ownLabels (resolver (before ++ m :: after) force)).keys,
      Own m.metadata.moduleName key := fun key hk => (ownsKey_of_mem_ownLabels hk).own
  have hentries := entries_merge hown file
  rw [← hpart] at hentries
  have hkeys : (m.part texts).keys
      = (m.ownLabels (resolver (before ++ m :: after) force)).keys := by
    rw [OrderedMap.keys, hentries, List.map_map]
    rfl
  have hissues := labelIssues_writeBack hd force locale hkeys
  refine ⟨texts, htexts, part_labels hd force hm, hentries, ?_, hissues, ?_⟩
  · rw [get?_locales_writeBack hd force hfile hpart, htexts]
  · intro hlocale issue hi keys hk
    rw [hissues] at hi
    obtain ⟨other, hother, hi⟩ := List.mem_flatMap.mp hi
    have hne := of_decide_eq_true (List.mem_filter.mp hother).2
    exact hne ((missing_of_mem_fileIssues hi hk).trans hlocale.symm)

/-- A module with items, which have tags.  Its file in English has a text for one of the keys of the
batch, and two texts that no key of the batch asks for. -/
def itemModule : CatalogModule :=
  { config :=
      { metadata := { team := "spanners", domain := .catalog, moduleName := "mod-inventory" }
        sources := [.table "items" "item"]
        entityTypes := [{ name := "item", source := "items", schema := "item.json" }] }
    schemas := OrderedMap.ofList
      [("item.json", .object
        [("type", .string "object"),
         ("properties", .object
           [("tags", .object
             [("type", .string "array"),
              ("items", .object
                [("type", .string "object"),
                 ("properties", .object [("tagName", .object [("type", .string "string")])])])])])])]
    labels := OrderedMap.ofList
      [("en", OrderedMap.ofList
        [("fqm.entityType.item.tags.tag_name._qualified", "Tag"),
         ("fqm.entityType.item.gone", "Gone"),
         ("meta.title", "Inventory")])] }

/-- A module with stores and no label files. -/
def storeModule : CatalogModule :=
  { config :=
      { metadata := { team := "spanners", domain := .catalog, moduleName := "mod-store" }
        sources := [.table "stores" "store"]
        entityTypes := [{ name := "store", source := "stores", schema := "store.json" }] }
    schemas := OrderedMap.ofList
      [("store.json", .object
        [("type", .string "object"),
         ("properties", .object [("code", .object [("type", .string "string")])])])] }

theorem compile_writeBack_itemModule :
    Distinct ([storeModule] ++ itemModule :: []) ∧
      ∃ file, itemModule.labels.get? "en" = some file ∧
        (itemModule.part
            (compile ([storeModule] ++ itemModule :: []) false).labels).entries.map
          (fun e => (e.1, (file.get? (toModule e.1)).getD e.2))
          = [("entityType.mod_inventory__item", "Item"),
             ("entityType.mod_inventory__item.tags", "Tags"),
             ("entityType.mod_inventory__item.tags.tag_name._qualified", "Tag"),
             ("entityType.mod_inventory__item.tags.tag_name", "Tag name"),
             ("entityType.mod_inventory__item.jsonb", "JSONB")] ∧
        ∃ texts,
          Fixpoint (compile ([storeModule] ++ itemModule :: []) false)
            (compile ([storeModule] ++ itemModule.writeBack "en" texts :: []) false) itemModule
            (itemModule.ownLabels (resolver ([storeModule] ++ itemModule :: []) false)) "en" file
            texts := by
  have hd : Distinct ([storeModule] ++ itemModule :: []) := by
    show (List.map _ _).Nodup
    decide +kernel
  exact ⟨hd, _, rfl, by decide +kernel, compile_writeBack hd false rfl⟩

end Catalog

end EntityCatalog
