import EntityCatalog.Proofs.Catalog.Ownership

/-!
# The texts of a catalog

The labels of a catalog and those of each locale are maps that are written module by module.  Here
they are said as what is written: `labels_eq` for the first, and for a locale `get?_locales`, which
also tells when there is no such locale, namely where no module has a file for it.

A module has one file for a locale at most, because its files are a map themselves.
-/

namespace EntityCatalog

namespace CatalogModule

/-- The texts that a module gives to a locale: one map, or none if it has no file for it. -/
def localeTexts (m : CatalogModule) (expected : Labels) (locale : String) : List Labels :=
  ((m.labels.get? locale).map fun file =>
    Label.merge expected (Label.provided file m.metadata.moduleName expected.keys)).toList

/-! ## Whose keys -/

/-- Whether a key is one of an entity type of the module, or of something below it. -/
def OwnsKey (m : CatalogModule) (key : String) : Prop :=
  ∃ r s, key = "entityType." ++ (m.nameOf r ++ s)

theorem Apart.not_ownsKey {m m' : CatalogModule} (h : m.Apart m') {key : String}
    (hk : m.OwnsKey key) : ¬ m'.OwnsKey key := by
  rintro ⟨r', s', hr'⟩
  obtain ⟨r, s, hr⟩ := hk
  exact h.nameOf_append_ne r r' s s' ((String.append_right_inj _).mp (hr.symm.trans hr'))

theorem ownsKey_of_mem_ownLabels {m : CatalogModule} {resolver : JoinResolver} {key : String}
    (h : key ∈ (m.ownLabels resolver).keys) : m.OwnsKey key := by
  rw [ownLabels, Catalog.labelsOf, OrderedMap.foldl_extend, OrderedMap.mem_keys_insertAll,
    List.map_flatMap] at h
  rcases h with h | h
  · exact absurd h List.not_mem_nil
  · obtain ⟨e, he, hkey⟩ := List.mem_flatMap.mp h
    obtain ⟨e, hem, rfl⟩ := List.mem_map.mp he
    obtain ⟨r, -, hr⟩ := exists_resource_of_mem hem
    obtain ⟨s, hs⟩ := Label.exists_of_mem_keys_labels hkey
    refine ⟨r, s, ?_⟩
    have hname : (resolver.entityType e).name = m.nameOf r := hr
    rw [hs, hname, Label.entityKey, String.append_assoc]

/-- What a module gives to a locale stands under its own keys. -/
theorem ownsKey_of_mem_localeTexts {m : CatalogModule} {resolver : JoinResolver}
    {locale : String} {texts : Labels}
    (h : texts ∈ m.localeTexts (m.ownLabels resolver) locale) {key : String}
    (hk : key ∈ texts.keys) : m.OwnsKey key := by
  obtain ⟨file, -, rfl⟩ := Option.map_eq_some_iff.mp (Option.mem_toList.mp h)
  exact ownsKey_of_mem_ownLabels (Label.mem_keys_merge hk)

end CatalogModule

namespace Catalog

variable {modules : List CatalogModule}

/-! ## One module -/

/-- The texts of a locale with others written over them. -/
def written (texts : Option Labels) (new : Labels) : Option Labels :=
  some ((texts.getD OrderedMap.empty).extend new)

/-- A module changes a locale by the texts that it gives to it. -/
theorem get?_addLocales (m : CatalogModule) (expected : Labels) (locales : OrderedMap Labels)
    (locale : String) :
    (addLocales m expected locales).get? locale
      = (m.localeTexts expected locale).foldl written (locales.get? locale) := by
  have hfold := OrderedMap.get?_foldl_insert
    (fun (texts : Option Labels) (file : Labels) =>
      (texts.getD OrderedMap.empty).extend
        (Label.merge expected (Label.provided file m.metadata.moduleName expected.keys)))
    m.labels.distinct locales locale
  refine hfold.trans ?_
  rw [CatalogModule.localeTexts]
  show ((m.labels.get? locale).map _).or _ = _
  cases m.labels.get? locale with
  | none => rfl
  | some file => rfl

theorem foldl_written (texts : List Labels) (before : Option Labels) :
    texts.foldl written before
      = if texts = [] then before
        else some ((before.getD OrderedMap.empty).insertAll (texts.flatMap (·.entries))) := by
  induction texts generalizing before with
  | nil => rfl
  | cons new texts ih =>
      rw [List.foldl_cons, ih, if_neg (List.cons_ne_nil new texts), List.flatMap_cons, written,
        Option.getD_some, OrderedMap.extend]
      split
      · rename_i hnil
        rw [hnil, List.flatMap_nil, List.append_nil]
      · rw [OrderedMap.insertAll, OrderedMap.insertAll, OrderedMap.insertAll, List.foldl_append]

/-! ## All modules -/

/-- The labels of a catalog are those of each module in turn. -/
theorem labels_eq (hd : Distinct modules) (force : Bool) :
    (compile modules force).labels
      = OrderedMap.ofList
          (modules.flatMap fun m => (m.ownLabels (resolver modules force)).entries) := by
  rw [compile_labels, expectedLabels_eq hd, List.foldl_map, OrderedMap.foldl_extend]
  rfl

/-- The texts that all modules give to a locale, where `labels` tells the labels of a module. -/
def localeTexts (modules : List CatalogModule) (labels : CatalogModule → Labels)
    (locale : String) : List Labels :=
  modules.flatMap fun m => m.localeTexts (labels m) locale

/-- A locale holds the texts that the modules give to it, and there is one if any module has a file
for it. -/
theorem get?_locales (hd : Distinct modules) (force : Bool) (locale : String) :
    (compile modules force).locales.get? locale
      = if localeTexts modules (·.ownLabels (resolver modules force)) locale = [] then none
        else some (OrderedMap.ofList
          ((localeTexts modules (·.ownLabels (resolver modules force)) locale).flatMap
            (·.entries))) := by
  have hfold : ∀ (ms : List CatalogModule) (locales : OrderedMap Labels),
      (ms.foldl (fun locales m => addLocales m (m.ownLabels (resolver modules force)) locales)
          locales).get? locale
        = (localeTexts ms (·.ownLabels (resolver modules force)) locale).foldl written
            (locales.get? locale) := by
    intro ms
    induction ms with
    | nil => exact fun _ => rfl
    | cons m ms ih =>
        intro locales
        rw [List.foldl_cons, ih, get?_addLocales, localeTexts, localeTexts, List.flatMap_cons,
          List.foldl_append]
  rw [compile_locales, expectedLabels_eq hd, List.foldl_map]
  refine (hfold modules OrderedMap.empty).trans ?_
  rw [foldl_written]
  rfl

end Catalog

end EntityCatalog
