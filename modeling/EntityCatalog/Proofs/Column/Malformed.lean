import EntityCatalog.Proofs.Column.LeafPath

/-!
# Extensions that have not their shape

An extension that has not its shape is found, and then is as good as absent.  Here several of them
are taken away at once, and the two inferences are held against each other: what is made does not
change, nor how it fails, and as many findings go as extensions do.

The twelve extensions are read by three routines into one record, and most of what is made looks at
several of them.  That does not matter here, because each is read from its own key, and a key that
is taken away did not say anything (`Extensions.Spared`).
-/

namespace EntityCatalog

/-! ## Keys that stay and keys that go -/

/-- Keys fall into those that stay and those that go. -/
theorem perm_filter_append {all keys : List String} (hall : all.Nodup) (hkeys : keys.Nodup)
    (hsub : keys ⊆ all) : all.Perm (all.filter (fun key => !keys.contains key) ++ keys) := by
  have hgone : (all.filter fun key => !(!keys.contains key)).Perm keys := by
    refine (List.perm_ext_iff_of_nodup (hall.filter _) hkeys).mpr fun key => ?_
    constructor
    · intro hmem
      simpa using (List.mem_filter.mp hmem).2
    · intro hmem
      exact List.mem_filter.mpr ⟨hsub hmem, by simpa using hmem⟩
  exact (List.filter_append_perm _ _).symm.trans (hgone.append_left _)

theorem forall₂_filterMap_of_isSome {α β : Type} {f : α → Option β} :
    ∀ {l : List α}, (∀ a ∈ l, (f a).isSome = true) →
      List.Forall₂ (fun a b => f a = some b) l (l.filterMap f)
  | [], _ => .nil
  | a :: l, h => by
      obtain ⟨ha, hl⟩ := List.forall_mem_cons.mp h
      obtain ⟨b, hb⟩ := Option.isSome_iff_exists.mp ha
      rw [List.filterMap_cons_some hb]
      exact .cons hb (forall₂_filterMap_of_isSome hl)

/-! ## What is found no more -/

namespace Extensions

theorem flaw?_without (property : String) (s : Schema) (keys : List String) (key : String) :
    flaw? property (s.without keys) key = if key ∈ keys then none else flaw? property s key := by
  rw [flaw?, Schema.keyword?_without]
  by_cases hmem : key ∈ keys
  · rw [if_pos hmem, if_pos hmem]
    cases shapes.lookup key <;> rfl
  · rw [if_neg hmem, if_neg hmem, flaw?]

section Malformed

variable {property : String} {s : Schema} {keys : List String}

/-- Malformed extensions are among those that have a shape. -/
theorem subset_shapedKeys (hflaw : ∀ k ∈ keys, (flaw? property s k).isSome = true) :
    keys ⊆ shapedKeys := by
  intro key hkey
  obtain ⟨f, hf⟩ := Option.isSome_iff_exists.mp (hflaw key hkey)
  exact mem_shapedKeys_of_flaw? hf

/-- Without malformed extensions, all that goes from what is found is what was found at them. -/
theorem findings_without (hnodup : keys.Nodup)
    (hflaw : ∀ k ∈ keys, (flaw? property s k).isSome = true) :
    (findings property s).Perm
      (findings property (s.without keys) ++ keys.filterMap (flaw? property s)) := by
  have hsubset : keys ⊆ shapedKeys := subset_shapedKeys hflaw
  have hunknown : unknown ("property " ++ property) (s.without keys)
      = unknown ("property " ++ property) s := by
    have hallowed : ∀ key ∈ shapedKeys, key ∈ Schema.allowedExtensions := by decide
    rw [unknown, unknown,
      Schema.unknownExtensions_without fun key hkey => hallowed key (hsubset hkey)]
  have hignore : ignoreFindings property (s.without keys) = ignoreFindings property s := by
    have hmark : "x-fqm-ignore" ∉ keys := by
      intro hmem
      exact absurd (hsubset hmem) (by decide)
    rw [ignoreFindings, ignoreFindings, Schema.ignoreMark_congr]
    rw [Schema.keyword?_without, if_neg hmark]
  have hstay : (shapedKeys.filter fun key => !keys.contains key).filterMap (flaw? property s)
      = shapedKeys.filterMap (flaw? property (s.without keys)) := by
    rw [List.filterMap_filter]
    refine List.filterMap_congr fun key _ => ?_
    rw [flaw?_without]
    by_cases hmem : key ∈ keys <;> simp [hmem]
  rw [findings, findings, hunknown, hignore, List.append_assoc _ _ (keys.filterMap _), ← hstay,
    ← List.filterMap_append]
  exact ((perm_filter_append (by decide) hnodup hsubset).filterMap _).append_left _

end Malformed

end Extensions

/-! ## One property -/

/-- One inference of a property makes the same as another, and besides what the other finds it finds
one thing for each of some keys: what is wrong with it. -/
def FindsBesides (p : Property) (keys : List String) (n m : Noted (Option Field)) : Prop :=
  n.value = m.value ∧
    ∃ flaws, List.Forall₂ (fun key f => Extensions.flaw? p.1 p.2 key = some f) keys flaws ∧
      n.findings.Perm (m.findings ++ flaws.map .here)

/-- **A malformed extension costs one finding and nothing else.**  A kept property has some
extensions that have not their shape.  With them and without them it fails for the same reason or
has the same column; and with them, what is found besides is one thing for each of them. -/
theorem fieldAt_without {p : Property} {keys : List String} (hkept : p.2.standing = .kept)
    (hnodup : keys.Nodup)
    (hflaw : ∀ key ∈ keys, (Extensions.flaw? p.1 p.2 key).isSome = true) (site : Site) :
    Together Eq (FindsBesides p keys) (fieldAt site p.1 p.2)
      (fieldAt site p.1 (p.2.without keys)) := by
  have hsubset : keys ⊆ Extensions.shapedKeys := Extensions.subset_shapedKeys hflaw
  -- no other keyword is malformed, so each keeps its value
  have hsame : ∀ others : List String, (∀ key ∈ others, key ∉ Extensions.shapedKeys) →
      Schema.AgreeOn others p.2 (p.2.without keys) := by
    intro others hothers
    exact Schema.agreeOn_without (fun key hkey hmem => hothers key hkey (hsubset hmem)) p.2
  have hvisibility : Extensions.visibility? p.1 (p.2.without keys)
      = Extensions.visibility? p.1 p.2 := by
    rw [Extensions.visibility?, Extensions.visibility?,
      hsame ["x-fqm-visibility"] (by decide) _ List.mem_cons_self]
  have htype : ∀ site, typeAt site (p.2.without keys) = typeAt site p.2 := by
    intro site
    exact (inferType_congr (hsame _ (by decide)) (hsame _ (by decide)) site.levels site).symm
  have hspared : ∀ key ∈ Extensions.shapedKeys,
      Extensions.Spared p.1 p.2 (p.2.without keys) key := by
    intro key _
    rw [Extensions.Spared, Schema.keyword?_without]
    by_cases hmem : key ∈ keys
    · exact Or.inr ⟨if_pos hmem, hflaw key hmem⟩
    · exact Or.inl (if_neg hmem)
  have hkept' : (p.2.without keys).standing = .kept := by
    rw [← Schema.standing_congr (hsame _ (by decide)), hkept]
  have hfield : ∀ v t, makeField site p.1 (p.2.without keys)
      (Extensions.given p.1 (p.2.without keys) v) t
        = makeField site p.1 p.2 (Extensions.given p.1 p.2 v) t := by
    intro v t
    rw [Extensions.given_of_spared hspared,
      Schema.makeField_congr (hsame ["enum"] (by decide) _ List.mem_cons_self)]
  have htypes : Together Eq Eq (typeAt (site.property p.1) p.2)
      (typeAt (site.property p.1) (p.2.without keys)) := by
    rw [htype]
    exact .refl (fun _ => rfl) (fun _ => rfl) _
  refine inferFieldWith_together hkept hkept' hvisibility.symm htypes ?_
  rintro v t _ rfl
  refine ⟨congrArg some (hfield v t.value).symm, _,
    forall₂_filterMap_of_isSome hflaw, ?_⟩
  have hfindings := (Extensions.findings_without hnodup hflaw).map Located.here
  rw [List.map_append] at hfindings
  -- what is found at the extensions is found before what is found at the type
  refine (hfindings.append_right t.findings).trans ?_
  rw [List.append_assoc, List.append_assoc]
  exact List.perm_append_comm.append_left _

/-- The place of items in their table. -/
def itemSite : Site := { sourceAlias := "items", schemaPrefix := "$\x7btenant_id\x7d_mod_inventory" }

/-- The status of an item, of whose extensions only one has its shape. -/
def itemStatus : Property :=
  ("itemStatus", .ofJson (.object
    [("type", .string "string"),
     ("x-fqm-name", .bool true),
     ("x-fqm-essential", .bool true),
     ("x-fqm-value-getter", .array [.string ":items.status"]),
     ("x-fqm-values", .array [.object [("value", .string "lost")]]),
     ("x-fqm-joins-to", .string "status")]))

/-- The keys of those that have not. -/
def itemStatusMalformed : List String :=
  ["x-fqm-name", "x-fqm-value-getter", "x-fqm-values", "x-fqm-joins-to"]

theorem fieldAt_without_itemStatus :
    itemStatus.2.standing = .kept ∧ itemStatusMalformed.Nodup ∧
      (∀ key ∈ itemStatusMalformed,
        (Extensions.flaw? itemStatus.1 itemStatus.2 key).isSome = true) ∧
      (∃ n, fieldAt itemSite itemStatus.1 itemStatus.2 = .ok n ∧
        (n.value.map fun f => (f.name, f.essential, f.valueGetter), n.findings.length)
          = (some ("item_status", some true, some ":items.jsonb->>'itemStatus'"), 4)) ∧
      Together Eq (FindsBesides itemStatus itemStatusMalformed)
        (fieldAt itemSite itemStatus.1 itemStatus.2)
        (fieldAt itemSite itemStatus.1 (itemStatus.2.without itemStatusMalformed)) := by
  have hkept : itemStatus.2.standing = .kept := by decide
  have hnodup : itemStatusMalformed.Nodup := by decide
  have hflaw : ∀ key ∈ itemStatusMalformed,
      (Extensions.flaw? itemStatus.1 itemStatus.2 key).isSome = true := by
    decide +kernel
  have hmade : (fieldAt itemSite itemStatus.1 itemStatus.2).toOption.map
      (fun n => (n.value.map fun f => (f.name, f.essential, f.valueGetter), n.findings.length))
        = some (some ("item_status", some true, some ":items.jsonb->>'itemStatus'"), 4) := by
    decide +kernel
  exact ⟨hkept, hnodup, hflaw, exists_ok_of_toOption hmade,
    fieldAt_without hkept hnodup hflaw itemSite⟩

end EntityCatalog
