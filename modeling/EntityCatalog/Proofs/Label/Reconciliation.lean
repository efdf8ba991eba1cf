import EntityCatalog.Proofs.Label.Rekeying

/-!
# Where the labels of a module go

A label that a module writes goes one of two ways: into the batch, under the key that the batch has
for it, or into the report of labels that nothing expects.  Which way is a matter of its key alone.
What stands behind the beginning of a key is the same in both spellings, so no two keys of a module
become one key of the batch (`toBatch?_inj`), and the labels that are taken over are written side by
side, none over another (`entries_provided`).
-/

namespace EntityCatalog

namespace Label

open Naming

/-! ## One key at a time -/

theorem ownKey_eq (moduleName s : String) :
    ownKey moduleName s = "entityType." ++ snakeCase moduleName ++ "__" ++ s := by
  simp only [ownKey, entityKey, qualifiedName, String.append_assoc]

/-- No two keys of a module become one key of a batch. -/
theorem toBatch?_inj {moduleName key key' new : String} (h : toBatch? moduleName key = some new)
    (h' : toBatch? moduleName key' = some new) : key = key' := by
  obtain ⟨s, rfl, rfl⟩ := toBatch?_eq_some_iff.mp h
  obtain ⟨s', rfl, hnew⟩ := toBatch?_eq_some_iff.mp h'
  rw [(ownKey_inj.mp hnew).2]

/-- Whether a batch takes a module's key over under a key of its own, which it expects. -/
def TakenOver (moduleName : String) (expected : List String) (key new : String) : Prop :=
  ∃ s, key = "fqm.entityType." ++ s ∧ new = "entityType." ++ snakeCase moduleName ++ "__" ++ s ∧
    new ∈ expected

theorem expectedKey?_eq_some_iff_takenOver {moduleName : String} {expected : List String}
    {key new : String} :
    expectedKey? moduleName expected key = some new ↔ TakenOver moduleName expected key new := by
  rw [expectedKey?, Option.filter_eq_some_iff, toBatch?_eq_some_iff, List.contains_iff_mem]
  simp only [ownKey_eq]
  constructor
  · rintro ⟨⟨s, hkey, hnew⟩, hmem⟩
    exact ⟨s, hkey, hnew, hmem⟩
  · rintro ⟨s, hkey, hnew, hmem⟩
    exact ⟨⟨s, hkey, hnew⟩, hmem⟩

theorem expectedKey?_eq_none_iff {moduleName : String} {expected : List String} {key : String} :
    expectedKey? moduleName expected key = none ↔
      ∀ new, ¬ TakenOver moduleName expected key new := by
  rw [Option.eq_none_iff_forall_ne_some]
  simp only [ne_eq, expectedKey?_eq_some_iff_takenOver]

theorem TakenOver.toBatch? {moduleName : String} {expected : List String} {key new : String}
    (h : TakenOver moduleName expected key new) : toBatch? moduleName key = some new := by
  obtain ⟨s, hkey, hnew, -⟩ := h
  exact toBatch?_eq_some_iff.mpr ⟨s, hkey, hnew.trans (ownKey_eq moduleName s).symm⟩

theorem TakenOver.startsWith {moduleName : String} {expected : List String} {key new : String}
    (h : TakenOver moduleName expected key new) : Text.startsWith externalPrefix key = true := by
  obtain ⟨s, rfl, -, -⟩ := h
  rw [Text.startsWith_iff]
  exact ⟨"entityType." ++ s, by rw [← String.append_assoc]; rfl⟩

/-! ## One file -/

theorem mem_external {file : Labels} {key text : String} :
    (key, text) ∈ external file ↔
      file.get? key = some text ∧ Text.startsWith externalPrefix key = true := by
  rw [external, List.mem_filter, OrderedMap.mem_entries_iff]

theorem pairwise_external (file : Labels) : (external file).Pairwise fun e e' => e.1 ≠ e'.1 :=
  (List.pairwise_map.mp file.distinct).filter _

/-- The labels that are taken over stand in the order of the file, each with its own text. -/
theorem entries_provided (moduleName : String) (file : Labels) (expected : List String) :
    (provided file moduleName expected).entries
      = (external file).filterMap fun e =>
          (expectedKey? moduleName expected e.1).map fun key => (key, e.2) := by
  refine OrderedMap.entries_ofList_of_nodup ?_
  rw [List.Nodup, List.pairwise_map, List.pairwise_filterMap]
  refine (pairwise_external file).imp ?_
  intro e e' hne x hx x' hx' heq
  obtain ⟨new, hnew, rfl⟩ := Option.map_eq_some_iff.mp hx
  obtain ⟨new', hnew', rfl⟩ := Option.map_eq_some_iff.mp hx'
  obtain rfl : new = new' := heq
  exact hne (toBatch?_inj (expectedKey?_eq_some_iff_takenOver.mp hnew).toBatch?
    (expectedKey?_eq_some_iff_takenOver.mp hnew').toBatch?)

theorem get?_provided_eq_some_iff {moduleName : String} {file : Labels} {expected : List String}
    {new text : String} :
    (provided file moduleName expected).get? new = some text ↔
      ∃ key, file.get? key = some text ∧ TakenOver moduleName expected key new := by
  rw [← OrderedMap.mem_entries_iff, entries_provided, List.mem_filterMap]
  constructor
  · rintro ⟨⟨key, text⟩, he, hmap⟩
    obtain ⟨new, hnew, heq⟩ := Option.map_eq_some_iff.mp hmap
    obtain ⟨rfl, rfl⟩ := Prod.mk.inj heq
    exact ⟨key, (mem_external.mp he).1, expectedKey?_eq_some_iff_takenOver.mp hnew⟩
  · rintro ⟨key, hget, htaken⟩
    refine ⟨(key, text), mem_external.mpr ⟨hget, htaken.startsWith⟩, ?_⟩
    rw [expectedKey?_eq_some_iff_takenOver.mpr htaken]
    rfl

theorem mem_extra_iff {moduleName : String} {file : Labels} {expected : List String}
    {key : String} :
    key ∈ extra file moduleName expected ↔
      (∃ text, file.get? key = some text) ∧ Text.startsWith externalPrefix key = true ∧
        ∀ new, ¬ TakenOver moduleName expected key new := by
  rw [extra, List.mem_filter, Option.isNone_iff_eq_none, expectedKey?_eq_none_iff, List.mem_map]
  constructor
  · rintro ⟨⟨e, he, rfl⟩, hnone⟩
    obtain ⟨hget, hstart⟩ := mem_external.mp he
    exact ⟨⟨e.2, hget⟩, hstart, hnone⟩
  · rintro ⟨⟨text, hget⟩, hstart, hnone⟩
    exact ⟨⟨(key, text), mem_external.mpr ⟨hget, hstart⟩, rfl⟩, hnone⟩

theorem extra_sublist (moduleName : String) (file : Labels) (expected : List String) :
    (extra file moduleName expected).Sublist file.keys :=
  List.filter_sublist.trans (List.filter_sublist.map _)

/-- No label of a file is lost, and none goes both ways. -/
theorem length_provided_add_length_extra (moduleName : String) (file : Labels)
    (expected : List String) :
    (provided file moduleName expected).entries.length + (extra file moduleName expected).length
      = (external file).length := by
  rw [entries_provided, extra, List.length_filterMap_eq_countP, ← List.countP_eq_length_filter,
    List.countP_map,
    List.length_eq_countP_add_countP fun e => (expectedKey? moduleName expected e.1).isSome]
  refine congrArg₂ (· + ·) (List.countP_congr fun e _ => ?_) (List.countP_congr fun e _ => ?_)
  · rw [Option.isSome_map]
  · show (expectedKey? moduleName expected e.1).isNone = true ↔ _
    rw [← Option.not_isSome]
    simp

theorem extraIssue?_of_ne_nil {keys : List String} (h : keys ≠ []) :
    extraIssue? keys = some
      ⟨.warning, .labelsExtra keys,
        "Translations with no matching entity type or field: " ++ ", ".intercalate keys⟩ := by
  rw [extraIssue?, if_neg (by rwa [List.isEmpty_iff])]

/-! ## Reconciliation -/

/-- What becomes of the labels of a file in a batch that expects some keys: those that are taken over,
the keys of the others in the order of the file, and the one issue that reports these if there are
any. -/
structure Reconciled (moduleName : String) (file : Labels) (expected : List String)
    (result : Labels) (reported : List String) (issue? : Option Issue) : Prop where
  /-- A label whose key begins as a module's keys do goes one way or the other. -/
  oneWay : ∀ key text, file.get? key = some text → Text.startsWith externalPrefix key = true →
    (∃ new, TakenOver moduleName expected key new ∧ result.get? new = some text) ∧
        key ∉ reported ∨
      (∀ new, ¬ TakenOver moduleName expected key new) ∧ key ∈ reported
  /-- A label with another key goes neither way. -/
  neither : ∀ key, Text.startsWith externalPrefix key = false →
    (∀ new, ¬ TakenOver moduleName expected key new) ∧ key ∉ reported
  /-- There is nothing in the result but labels of the file. -/
  origin : ∀ new text, result.get? new = some text →
    ∃ key, file.get? key = some text ∧ TakenOver moduleName expected key new
  /-- No two labels of the file meet. -/
  apart : ∀ key key' new, TakenOver moduleName expected key new →
    TakenOver moduleName expected key' new → key = key'
  inOrder : reported.Sublist file.keys
  balance : result.entries.length + reported.length = (external file).length
  silent : reported = [] → issue? = none
  warning : reported ≠ [] → issue? = some
    ⟨.warning, .labelsExtra reported,
      "Translations with no matching entity type or field: " ++ ", ".intercalate reported⟩

/-- **Re-keying is exact and loses no label.**  A key of a batch that belongs to a module is given back
without the module, and a module's key is taken over with the module in front, whatever text follows.
So each label that a module writes for entity types is found in the batch under its own key and with
its own text, or is reported, in the order of the file. -/
theorem provided_reconciled (moduleName : String) (file : Labels) (expected : List String) :
    (∀ s, toModule ("entityType." ++ snakeCase moduleName ++ "__" ++ s) = "fqm.entityType." ++ s) ∧
      (∀ s, toBatch? moduleName ("fqm.entityType." ++ s)
        = some ("entityType." ++ snakeCase moduleName ++ "__" ++ s)) ∧
      Reconciled moduleName file expected (provided file moduleName expected)
        (extra file moduleName expected) (extraIssue? (extra file moduleName expected)) := by
  refine ⟨fun s => ?_, fun s => ?_, ?_⟩
  · rw [← ownKey_eq, toModule_ownKey]
  · rw [← ownKey_eq]
    exact toBatch?_eq_some_iff.mpr ⟨s, rfl, rfl⟩
  refine
    { oneWay := fun key text hget hstart => ?_
      neither := fun key hstart => ⟨fun new htaken => ?_, fun hmem => ?_⟩
      origin := fun new text h => get?_provided_eq_some_iff.mp h
      apart := fun key key' new h h' => toBatch?_inj h.toBatch? h'.toBatch?
      inOrder := extra_sublist moduleName file expected
      balance := length_provided_add_length_extra moduleName file expected
      silent := fun h => by rw [h]; rfl
      warning := extraIssue?_of_ne_nil }
  · by_cases htaken : ∃ new, TakenOver moduleName expected key new
    · obtain ⟨new, hnew⟩ := htaken
      refine Or.inl ⟨⟨new, hnew, get?_provided_eq_some_iff.mpr ⟨key, hget, hnew⟩⟩, fun hmem => ?_⟩
      exact (mem_extra_iff.mp hmem).2.2 new hnew
    · have hnone := not_exists.mp htaken
      exact Or.inr ⟨hnone, mem_extra_iff.mpr ⟨⟨text, hget⟩, hstart, hnone⟩⟩
  · rw [htaken.startsWith] at hstart
    exact absurd hstart (by simp)
  · rw [(mem_extra_iff.mp hmem).2.1] at hstart
    exact absurd hstart (by simp)

end Label

end EntityCatalog
