import EntityCatalog.Label.Default
import EntityCatalog.Label.Locale
import EntityCatalog.Proofs.Label.Inference
import EntityCatalog.Proofs.OrderedMap

/-!
# Whose keys are whose

Every label that an entity type has by itself stands under a key that begins with the key of the
entity type, whatever the names of its columns: `exists_of_mem_keys_labels`.  A module adds no key to
these; what it provides for other keys is left out (`mem_of_mem_keys_provided`).  So the keys of a
module's labels, in the batch and in each locale, are known from the names of its entity types.
-/

namespace EntityCatalog

namespace Label

/-! ## Keys below a key -/

/-- The keys of a column's labels begin with that of the entity type and a dot. -/
theorem exists_of_mem_keys_fieldLabels {f : Field} {entity key : String}
    (h : key ∈ (f.labels entity).keys) : ∃ s, key = entityKey entity ++ ("." ++ s) := by
  obtain ⟨suffix, -, rfl⟩ := mem_keys_fieldLabels_iff.mp h
  exact ⟨f.name ++ suffix, by simp only [String.append_assoc]⟩

/-- The keys of an entity type's labels begin with its own. -/
theorem exists_of_mem_keys_labels {e : EntityType} {key : String} (h : key ∈ e.labels.keys) :
    ∃ s, key = entityKey e.name ++ s := by
  rw [EntityType.labels, OrderedMap.foldl_extend, OrderedMap.mem_keys_insertAll] at h
  rcases h with h | h
  · rw [List.mem_singleton.mp h]
    exact ⟨"", String.append_empty.symm⟩
  · rw [List.map_flatMap] at h
    obtain ⟨f, -, hf⟩ := List.mem_flatMap.mp h
    obtain ⟨s, hs⟩ := exists_of_mem_keys_fieldLabels hf
    exact ⟨"." ++ s, hs⟩

/-- No label of a column is written over that of its entity type. -/
theorem get?_labels_entityKey (e : EntityType) :
    e.labels.get? (entityKey e.name) = some (Naming.sentenceCase e.resourceName) := by
  rw [EntityType.labels, OrderedMap.foldl_extend, OrderedMap.get?_insertAll, OrderedMap.get?_insert,
    if_pos rfl]
  cases hlast : OrderedMap.lastValue? (e.columns.flatMap fun f => (f.labels e.name).entries)
      (entityKey e.name) with
  | none => rfl
  | some v =>
      obtain ⟨f, -, hf⟩ := List.mem_flatMap.mp (OrderedMap.mem_of_lastValue? hlast)
      have hkey : entityKey e.name ∈ (f.labels e.name).keys := List.mem_map_of_mem hf
      obtain ⟨s, hs⟩ := exists_of_mem_keys_fieldLabels hkey
      have hlength := congrArg String.length hs
      rw [String.length_append, String.length_append] at hlength
      have hdot : ".".length = 1 := rfl
      omega

/-! ## Keys that are provided -/

theorem mem_of_mem_keys_provided {labels : OrderedMap String} {moduleName key : String}
    {expected : List String} (h : key ∈ (provided labels moduleName expected).keys) :
    key ∈ expected := by
  rw [provided, OrderedMap.ofList, OrderedMap.mem_keys_insertAll] at h
  rcases h with h | h
  · exact absurd h List.not_mem_nil
  · obtain ⟨entry, hentry, rfl⟩ := List.mem_map.mp h
    obtain ⟨e, -, he⟩ := List.mem_filterMap.mp hentry
    obtain ⟨k, hk, rfl⟩ := Option.map_eq_some_iff.mp he
    unfold expectedKey? at hk
    exact List.contains_iff_mem.mp (Option.filter_eq_some_iff.mp hk).2

/-- The texts of a locale stand under expected keys. -/
theorem mem_keys_merge {inferred labels : OrderedMap String} {moduleName key : String}
    (h : key ∈ (merge inferred (provided labels moduleName inferred.keys)).keys) :
    key ∈ inferred.keys := by
  rw [merge, OrderedMap.extend, OrderedMap.mem_keys_insertAll] at h
  rcases h with h | h
  · exact h
  · exact mem_of_mem_keys_provided h

end Label

end EntityCatalog
