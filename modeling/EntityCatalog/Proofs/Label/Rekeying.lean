import EntityCatalog.Proofs.Label.Keys
import EntityCatalog.Proofs.Naming.Separator

/-!
# The two spellings of a key are inverse

A batch takes a module's key over by putting the module in front of the resource, and a key is given
back by taking what stands there away.  Neither sees the resource as such: the one looks for a dot,
the other for a dot and a double underscore, in texts that may hold several of each.  What makes them
inverse is that a module's name in snake case holds neither, so that the first dot of a key of the
batch is the first dot of what follows the module, and the first double underscore is the one that was
put there.

`toBatch?_eq_some_iff` and `toModule_ownKey` say what the two do; that they are inverse is
`toBatch?_eq_some_ownKey_iff`, for every text behind the module's name, whatever it is.  So a file
provides for a key what it has under the key that this is given back as (`get?_provided`).
-/

namespace EntityCatalog

namespace Text

/-! ## Beginnings -/

theorem dropStart?_eq_some_iff {start cs rest : List Char} :
    dropStart? start cs = some rest ↔ cs = start ++ rest := by
  induction start generalizing cs with
  | nil => simp [dropStart?]
  | cons p ps ih =>
      cases cs with
      | nil => simp [dropStart?]
      | cons c cs =>
          unfold dropStart?
          split
          · rename_i hpc
            rw [ih, hpc, List.cons_append, List.cons.injEq, and_iff_right rfl]
          · rename_i hpc
            rw [List.cons_append, List.cons.injEq]
            simp [Ne.symm hpc]

theorem stripStart?_eq_some_iff {start text rest : String} :
    stripStart? start text = some rest ↔ text = start ++ rest := by
  rw [stripStart?, Option.map_eq_some_iff]
  constructor
  · rintro ⟨cs, hcs, rfl⟩
    apply String.toList_inj.mp
    rw [String.toList_append, String.toList_ofList]
    exact dropStart?_eq_some_iff.mp hcs
  · rintro rfl
    refine ⟨rest.toList, ?_, String.ofList_toList⟩
    rw [dropStart?_eq_some_iff, String.toList_append]

theorem startsWith_iff {start text : String} :
    startsWith start text = true ↔ ∃ rest, text = start ++ rest := by
  rw [startsWith, Option.isSome_iff_exists]
  simp only [stripStart?_eq_some_iff]

end Text

namespace Label

open Naming

/-! ## The first dot -/

theorem atDot_append (s : String) : (atDot s).1 ++ (atDot s).2 = s := by
  apply String.toList_inj.mp
  rw [atDot, String.toList_append, String.toList_ofList, String.toList_ofList,
    List.takeWhile_append_dropWhile]

/-- A text without dots stays in front of the first dot. -/
theorem atDot_append_of_not_mem {s : String} (hs : '.' ∉ s.toList) (t : String) :
    atDot (s ++ t) = (s ++ (atDot t).1, (atDot t).2) := by
  have hall : ∀ c ∈ s.toList, (c != '.') = true := by
    intro c hc
    rw [bne_iff_ne]
    rintro rfl
    exact hs hc
  rw [atDot, atDot, String.toList_append, List.takeWhile_append_of_pos hall,
    List.dropWhile_append_of_pos hall, String.ofList_append, String.ofList_toList]

/-! ## Keys of a module -/

/-- The key of a batch for what a module writes behind the beginning of its keys. -/
def ownKey (moduleName rest : String) : String := entityKey (qualifiedName moduleName rest)

theorem ownKey_inj {moduleName moduleName' rest rest' : String} :
    ownKey moduleName rest = ownKey moduleName' rest' ↔
      snakeCase moduleName = snakeCase moduleName' ∧ rest = rest' := by
  rw [ownKey, ownKey, entityKey, entityKey, String.append_right_inj, qualifiedName_inj]

theorem qualifiedName_append (moduleName resource s : String) :
    qualifiedName moduleName resource ++ s = qualifiedName moduleName (resource ++ s) := by
  rw [qualifiedName, qualifiedName, String.append_assoc]

theorem toBatch?_eq_some_iff {moduleName key key' : String} :
    toBatch? moduleName key = some key' ↔
      ∃ rest, key = "fqm.entityType." ++ rest ∧ key' = ownKey moduleName rest := by
  have hkey : ∀ rest, "entityType." ++ qualifiedName moduleName (atDot rest).1 ++ (atDot rest).2
      = ownKey moduleName rest := by
    intro rest
    rw [String.append_assoc, qualifiedName_append, atDot_append]
    rfl
  rw [toBatch?, Option.map_eq_some_iff]
  simp only [Text.stripStart?_eq_some_iff, hkey]
  simp only [eq_comm (a := key')]

theorem resourceOf_qualifiedName (moduleName resource : String) :
    resourceOf (qualifiedName moduleName resource) = resource := by
  rw [resourceOf, toList_qualifiedName, afterFirstSeparator?_snakeChars, Option.map_some,
    Option.getD_some, String.ofList_toList]

theorem dot_not_mem_qualifiedName (moduleName : String) :
    '.' ∉ (qualifiedName moduleName "").toList := by
  rw [toList_qualifiedName, List.mem_append]
  rintro (h | h)
  · exact dot_not_mem_snakeChars _ h
  · exact absurd h (by decide)

/-- A key of a batch is given back without the module in front. -/
theorem toModule_ownKey (moduleName rest : String) :
    toModule (ownKey moduleName rest) = "fqm.entityType." ++ rest := by
  have hstrip : Text.stripStart? "entityType." (ownKey moduleName rest)
      = some (qualifiedName moduleName rest) := Text.stripStart?_eq_some_iff.mpr rfl
  have hdot : atDot (qualifiedName moduleName rest)
      = (qualifiedName moduleName (atDot rest).1, (atDot rest).2) := by
    have hsplit := atDot_append_of_not_mem (dot_not_mem_qualifiedName moduleName) rest
    rw [qualifiedName_append, qualifiedName_append, String.empty_append, String.empty_append]
      at hsplit
    exact hsplit
  rw [toModule, hstrip]
  dsimp only
  rw [hdot, resourceOf_qualifiedName, String.append_assoc, atDot_append]

/-- A module's key is taken over under a key of the batch iff it is the one that this is given back
as. -/
theorem toBatch?_eq_some_ownKey_iff {moduleName rest key : String} :
    toBatch? moduleName key = some (ownKey moduleName rest) ↔
      key = toModule (ownKey moduleName rest) := by
  rw [toBatch?_eq_some_iff, toModule_ownKey]
  constructor
  · rintro ⟨rest', rfl, heq⟩
    rw [(ownKey_inj.mp heq).2]
  · rintro rfl
    exact ⟨rest, rfl, rfl⟩

/-- Whether a key of a batch is one of a module. -/
def Own (moduleName key : String) : Prop := ∃ rest, key = ownKey moduleName rest

theorem startsWith_ownKey_iff {moduleName key : String} :
    Text.startsWith (ownKey moduleName "") key = true ↔ Own moduleName key := by
  have happ : ∀ rest, ownKey moduleName "" ++ rest = ownKey moduleName rest := by
    intro rest
    rw [ownKey, entityKey, String.append_assoc, qualifiedName_append, String.empty_append]
    rfl
  rw [Text.startsWith_iff, Own]
  simp only [happ]

theorem Own.toModule_inj {moduleName key key' : String} (h : Own moduleName key)
    (h' : Own moduleName key') : toModule key = toModule key' ↔ key = key' := by
  obtain ⟨rest, rfl⟩ := h
  obtain ⟨rest', rfl⟩ := h'
  rw [toModule_ownKey, toModule_ownKey, String.append_right_inj, ownKey_inj]
  exact ⟨fun h => ⟨rfl, h⟩, And.right⟩

theorem startsWith_externalPrefix {moduleName key : String} (h : Own moduleName key) :
    Text.startsWith externalPrefix (toModule key) = true := by
  obtain ⟨rest, rfl⟩ := h
  rw [toModule_ownKey, Text.startsWith_iff]
  exact ⟨"entityType." ++ rest, by rw [← String.append_assoc]; rfl⟩

/-! ## What a file provides -/

theorem expectedKey?_eq_some_iff {moduleName key : String} (h : Own moduleName key)
    {expected : List String} (hk : key ∈ expected) {original : String} :
    expectedKey? moduleName expected original = some key ↔ original = toModule key := by
  obtain ⟨rest, rfl⟩ := h
  rw [expectedKey?, Option.filter_eq_some_iff, toBatch?_eq_some_ownKey_iff, List.contains_iff_mem]
  exact and_iff_left hk

theorem get?_provided {moduleName key : String} (h : Own moduleName key) {expected : List String}
    (hk : key ∈ expected) (file : Labels) :
    (provided file moduleName expected).get? key = file.get? (toModule key) := by
  rw [provided, OrderedMap.get?_ofList, external,
    OrderedMap.lastValue?_rekeyed (fun _ => expectedKey?_eq_some_iff h hk),
    OrderedMap.lastValue?_filter (startsWith_externalPrefix h),
    OrderedMap.lastValue?_of_nodup file.distinct]
  rfl

/-- The texts that a file makes of the labels of a module: the same keys in the same order, each with
the file's text where it has one. -/
theorem entries_merge {moduleName : String} {inferred : Labels}
    (h : ∀ key ∈ inferred.keys, Own moduleName key) (file : Labels) :
    (merge inferred (provided file moduleName inferred.keys)).entries
      = inferred.entries.map fun e => (e.1, (file.get? (toModule e.1)).getD e.2) := by
  have hmem : ∀ e ∈ (provided file moduleName inferred.keys).entries, e.1 ∈ inferred.keys :=
    fun e he => mem_of_mem_keys_provided (List.mem_map_of_mem he)
  rw [merge, OrderedMap.extend, OrderedMap.entries_insertAll_of_mem hmem]
  refine List.map_congr_left fun e he => ?_
  have hkey : e.1 ∈ inferred.keys := List.mem_map_of_mem he
  rw [OrderedMap.lastValue?_of_nodup (provided file moduleName inferred.keys).distinct,
    ← get?_provided (h e.1 hkey) hkey file]
  rfl

end Label

end EntityCatalog
