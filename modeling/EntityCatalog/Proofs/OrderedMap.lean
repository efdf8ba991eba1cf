import EntityCatalog.OrderedMap
import Mathlib.Data.List.Nodup

/-!
# What a map holds after several writes

A map that is made of entries holds, under each key, the value of the last entry with that key:
`get?_ofList`.  `lastValue?` is that value, read off the entries alone, so that what a map holds can
be said without the map.

Entries often come in blocks, one from each module, and no key is in two of them.  Then a value is
held iff one of the blocks gives it (`lastValue?_flatMap_eq_some_iff`), and the blocks may come in
any order (`lastValue?_flatMap_perm`).
-/

namespace EntityCatalog.OrderedMap

variable {α β ι : Type}

/-- The value that entries give to a key: that of the last entry with the key. -/
def lastValue? (es : List (String × α)) (key : String) : Option α := es.reverse.lookup key

@[simp] theorem lastValue?_nil (key : String) : lastValue? ([] : List (String × α)) key = none :=
  rfl

theorem lastValue?_append (es fs : List (String × α)) (key : String) :
    lastValue? (es ++ fs) key = (lastValue? fs key).or (lastValue? es key) := by
  rw [lastValue?, List.reverse_append, List.lookup_append]
  rfl

theorem lastValue?_cons (e : String × α) (es : List (String × α)) (key : String) :
    lastValue? (e :: es) key
      = (lastValue? es key).or (if key = e.1 then some e.2 else none) := by
  have hone : lastValue? [e] key = if key = e.1 then some e.2 else none := by
    by_cases hk : key = e.1
    · rw [if_pos hk, hk]
      exact List.lookup_cons_self
    · rw [if_neg hk]
      exact List.lookup_eq_none_iff.mpr (by simpa using hk)
  rw [← hone]
  exact lastValue?_append [e] es key

theorem mem_of_lookup {es : List (String × α)} {key : String} {v : α}
    (h : es.lookup key = some v) : (key, v) ∈ es := by
  obtain ⟨l₁, l₂, heq, -⟩ := List.lookup_eq_some_iff.mp h
  rw [heq]
  exact List.mem_append_right _ List.mem_cons_self

theorem mem_of_lastValue? {es : List (String × α)} {key : String} {v : α}
    (h : lastValue? es key = some v) : (key, v) ∈ es :=
  List.mem_reverse.mp (mem_of_lookup h)

theorem lookup_eq_none_iff {es : List (String × α)} {key : String} :
    es.lookup key = none ↔ key ∉ es.map (·.1) := by
  rw [List.lookup_eq_none_iff, List.mem_map, not_exists]
  refine forall_congr' fun e => ?_
  rw [not_and, bne_iff_ne, ne_comm]

theorem lastValue?_eq_none_iff {es : List (String × α)} {key : String} :
    lastValue? es key = none ↔ key ∉ es.map (·.1) := by
  rw [lastValue?, lookup_eq_none_iff, List.map_reverse, List.mem_reverse]

theorem mem_keys_of_get? {m : OrderedMap α} {key : String} {v : α} (h : m.get? key = some v) :
    key ∈ m.keys := by
  refine Classical.not_not.mp fun hnot => ?_
  rw [get?, lookup_eq_none_iff.mpr hnot] at h
  exact absurd h (by simp)

theorem exists_get?_of_mem_keys {m : OrderedMap α} {key : String} (h : key ∈ m.keys) :
    ∃ v, m.get? key = some v := by
  cases hget : m.get? key with
  | some v => exact ⟨v, rfl⟩
  | none => exact absurd h (lookup_eq_none_iff.mp hget)

/-- A key that some entry has is given a value. -/
theorem lastValue?_isSome {es : List (String × α)} {e : String × α} (h : e ∈ es) :
    ∃ v, lastValue? es e.1 = some v := by
  cases hv : lastValue? es e.1 with
  | some v => exact ⟨v, rfl⟩
  | none =>
      have hne := List.lookup_eq_none_iff.mp hv e (List.mem_reverse.mpr h)
      exact absurd hne (by simp)

theorem lastValue?_filter {p : String → Bool} {key : String} (hp : p key = true)
    (es : List (String × α)) :
    lastValue? (es.filter fun e => p e.1) key = lastValue? es key := by
  induction es with
  | nil => rfl
  | cons e es ih =>
      rw [lastValue?_cons, ← ih]
      rw [List.filter_cons]
      split
      · rw [lastValue?_cons]
      · rename_i he
        have hne : key ≠ e.1 := fun hk => he (hk ▸ hp)
        rw [if_neg hne, Option.or_none]

/-- Entries under other keys give a key the value of the one key that becomes it. -/
theorem lastValue?_rekeyed {f : String → Option String} {key original : String}
    (hf : ∀ k, f k = some key ↔ k = original) (es : List (String × α)) :
    lastValue? (es.filterMap fun e => (f e.1).map fun k => (k, e.2)) key
      = lastValue? es original := by
  induction es with
  | nil => rfl
  | cons e es ih =>
      rw [lastValue?_cons, ← ih]
      cases he : f e.1 with
      | none =>
          have hne : original ≠ e.1 := by
            rintro rfl
            rw [(hf _).mpr rfl] at he
            exact absurd he (by simp)
          rw [List.filterMap_cons_none (by rw [he]; rfl), if_neg hne, Option.or_none]
      | some k =>
          have hiff : key = k ↔ original = e.1 := by
            rw [eq_comm, eq_comm (a := original), ← hf e.1, he, Option.some.injEq]
          rw [List.filterMap_cons_some (by rw [he]; rfl), lastValue?_cons]
          simp only [hiff]

/-! ## Maps made of entries -/

theorem get?_insertAll (m : OrderedMap α) (es : List (String × α)) (key : String) :
    (m.insertAll es).get? key = (lastValue? es key).or (m.get? key) := by
  induction es generalizing m with
  | nil => rfl
  | cons e es ih =>
      rw [insertAll_cons, ih, get?_insert, lastValue?_cons, Option.or_assoc]
      by_cases hk : key = e.1
      · rw [if_pos hk, if_pos hk, Option.some_or]
      · rw [if_neg hk, if_neg hk, Option.none_or]

theorem get?_ofList (es : List (String × α)) (key : String) :
    (ofList es).get? key = lastValue? es key := by
  rw [ofList, get?_insertAll, get?_empty, Option.or_none]

theorem mem_keys_insertAll (m : OrderedMap α) (es : List (String × α)) (key : String) :
    key ∈ (m.insertAll es).keys ↔ key ∈ m.keys ∨ key ∈ es.map (·.1) := by
  induction es generalizing m with
  | nil => simp
  | cons e es ih =>
      have hput : key ∈ (m.insert e.1 e.2).keys ↔ key = e.1 ∨ key ∈ m.keys :=
        mem_keys_put e.1 key e.2 m.entries
      rw [insertAll_cons, ih, hput, List.map_cons, List.mem_cons]
      constructor
      · rintro ((h | h) | h)
        · exact Or.inr (Or.inl h)
        · exact Or.inl h
        · exact Or.inr (Or.inr h)
      · rintro (h | h | h)
        · exact Or.inl (Or.inr h)
        · exact Or.inl (Or.inl h)
        · exact Or.inr h

/-- What is written twice under a key is what is written last, at the place of the first. -/
theorem put_put (key : String) (v w : α) (es : List (String × α)) :
    put key w (put key v es) = put key w es := by
  induction es with
  | nil => simp [put]
  | cons e es ih =>
      rw [put]
      split
      · rename_i hk
        rw [put, if_pos rfl, put, if_pos hk]
      · rename_i hk
        rw [put, if_neg hk, ih, put, if_neg hk]

theorem insert_insert (m : OrderedMap α) (key : String) (v w : α) :
    (m.insert key v).insert key w = m.insert key w :=
  OrderedMap.ext (put_put key v w m.entries)

theorem insertAll_append (m : OrderedMap α) (es fs : List (String × α)) :
    m.insertAll (es ++ fs) = (m.insertAll es).insertAll fs := by
  rw [insertAll, List.foldl_append]
  rfl

/-- Writing the entries of maps one after the other is writing them all. -/
theorem foldl_extend (m : OrderedMap α) (f : ι → OrderedMap α) (l : List ι) :
    l.foldl (fun m a => m.extend (f a)) m = m.insertAll (l.flatMap fun a => (f a).entries) := by
  induction l generalizing m with
  | nil => rfl
  | cons a l ih => rw [List.foldl_cons, ih, List.flatMap_cons, insertAll_append, extend]

/-- Where each entry changes the value under its own key, and no two have the same, a value is
changed at most once. -/
theorem get?_foldl_insert (change : Option β → α → β) {es : List (String × α)}
    (hd : (es.map (·.1)).Nodup) (m : OrderedMap β) (key : String) :
    (es.foldl (fun m e => m.insert e.1 (change (m.get? e.1) e.2)) m).get? key
      = ((es.lookup key).map (change (m.get? key))).or (m.get? key) := by
  induction es generalizing m with
  | nil => rfl
  | cons e es ih =>
      obtain ⟨hne, hd⟩ := List.nodup_cons.mp hd
      rw [List.foldl_cons, ih hd, get?_insert]
      by_cases hk : key = e.1
      · have hnone : es.lookup key = none := lookup_eq_none_iff.mpr (hk ▸ hne)
        have hself : (e :: es).lookup key = some e.2 := by
          rw [hk, List.lookup_cons, beq_self_eq_true]
        rw [if_pos hk, hnone, hself, hk]
        rfl
      · have hother : (e :: es).lookup key = es.lookup key := by
          rw [List.lookup_cons, beq_eq_false_iff_ne.mpr hk]
        rw [if_neg hk, hother]

/-! ## Entries by their keys -/

theorem entries_insertAll_of_nodup {m : OrderedMap α} {es : List (String × α)}
    (h : ((m.entries ++ es).map (·.1)).Nodup) : (m.insertAll es).entries = m.entries ++ es := by
  induction es generalizing m with
  | nil => exact (List.append_nil _).symm
  | cons e es ih =>
      have hnot : e.1 ∉ m.entries.map (·.1) := by
        rw [List.map_append, List.map_cons] at h
        exact fun hm => (List.nodup_append.mp h).2.2 _ hm _ List.mem_cons_self rfl
      have hput : (m.insert e.1 e.2).entries = m.entries ++ [e] := put_of_not_mem _ _ _ hnot
      rw [insertAll_cons, ih, hput, List.append_assoc, List.singleton_append]
      rw [hput, List.append_assoc, List.singleton_append]
      exact h

/-- Entries without a key twice are the entries of the map that they make. -/
theorem entries_ofList_of_nodup {es : List (String × α)} (h : (es.map (·.1)).Nodup) :
    (ofList es).entries = es :=
  entries_insertAll_of_nodup h

theorem lastValue?_of_nodup {es : List (String × α)} (h : (es.map (·.1)).Nodup) (key : String) :
    lastValue? es key = es.lookup key := by
  rw [← get?_ofList, get?, entries_ofList_of_nodup h]

theorem keys_insertAll_of_mem {m : OrderedMap α} {es : List (String × α)}
    (h : ∀ e ∈ es, e.1 ∈ m.keys) : (m.insertAll es).keys = m.keys := by
  induction es generalizing m with
  | nil => rfl
  | cons e es ih =>
      obtain ⟨he, hes⟩ := List.forall_mem_cons.mp h
      have hkeys := keys_insert_of_mem m e.1 e.2 he
      rw [insertAll_cons, ih (by rw [hkeys]; exact hes), hkeys]

theorem lookup_map_value (f : String → α → β) (es : List (String × α)) (key : String) :
    (es.map fun e => (e.1, f e.1 e.2)).lookup key = (es.lookup key).map (f key) := by
  induction es with
  | nil => rfl
  | cons e es ih =>
      rw [List.map_cons, List.lookup_cons, List.lookup_cons, ih]
      by_cases hk : key = e.1
      · rw [hk, beq_self_eq_true]
        rfl
      · rw [beq_eq_false_iff_ne.mpr hk]

theorem lookup_map_key {f : String → String} {es : List (String × α)} {key : String}
    (h : ∀ e ∈ es, f e.1 = f key → e.1 = key) :
    (es.map fun e => (f e.1, e.2)).lookup (f key) = es.lookup key := by
  induction es with
  | nil => rfl
  | cons e es ih =>
      obtain ⟨he, hes⟩ := List.forall_mem_cons.mp h
      rw [List.map_cons, List.lookup_cons, List.lookup_cons, ih hes]
      by_cases hk : key = e.1
      · rw [hk, beq_self_eq_true, beq_self_eq_true]
      · have hf : f key ≠ f e.1 := fun heq => hk (he heq.symm).symm
        rw [beq_eq_false_iff_ne.mpr hk, beq_eq_false_iff_ne.mpr hf]

/-- Entries are known from their keys, in order, and what is found under each. -/
theorem eq_of_lookup {es fs : List (String × α)} (hd : (es.map (·.1)).Nodup)
    (hk : es.map (·.1) = fs.map (·.1)) (hl : ∀ key, es.lookup key = fs.lookup key) : es = fs := by
  induction es generalizing fs with
  | nil => exact (List.map_eq_nil_iff.mp hk.symm).symm
  | cons e es ih =>
      cases fs with
      | nil => exact absurd hk (List.cons_ne_nil _ _)
      | cons f fs =>
          obtain ⟨hkey, hrest⟩ : e.1 = f.1 ∧ es.map (·.1) = fs.map (·.1) := List.cons.inj hk
          obtain ⟨hne, hd⟩ := List.nodup_cons.mp hd
          have hhead := hl e.1
          rw [List.lookup_cons, List.lookup_cons, ← hkey, beq_self_eq_true] at hhead
          have hef : e = f := Prod.ext hkey (Option.some.inj hhead)
          subst hef
          refine congrArg (e :: ·) (ih hd hrest fun key => ?_)
          by_cases hk : key = e.1
          · rw [hk, lookup_eq_none_iff.mpr hne, lookup_eq_none_iff.mpr (hrest ▸ hne)]
          · have hother := hl key
            rw [List.lookup_cons, List.lookup_cons, beq_eq_false_iff_ne.mpr hk] at hother
            exact hother

/-- A map keeps its keys where only these are written, and each has the last text written or else
its own. -/
theorem entries_insertAll_of_mem {m : OrderedMap α} {es : List (String × α)}
    (h : ∀ e ∈ es, e.1 ∈ m.keys) :
    (m.insertAll es).entries
      = m.entries.map fun e => (e.1, (lastValue? es e.1).getD e.2) := by
  refine eq_of_lookup (m.insertAll es).distinct ?_ fun key => ?_
  · rw [List.map_map]
    exact keys_insertAll_of_mem h
  · rw [lookup_map_value (fun key v => (lastValue? es key).getD v)]
    show (m.insertAll es).get? key = _
    rw [get?_insertAll]
    show _ = (m.get? key).map _
    cases hlast : lastValue? es key with
    | none => simp
    | some v =>
        cases hget : m.get? key with
        | none => exact absurd (h _ (mem_of_lastValue? hlast)) (lookup_eq_none_iff.mp hget)
        | some w => rfl

/-- An entry that comes to nothing is written in the place of another with its key. -/
theorem flatMap_put {f : String × α → List β} {key : String} {v : α} (hnil : f (key, v) = [])
    {es : List (String × α)} (hd : (es.map (·.1)).Nodup) :
    (put key v es).flatMap f = (es.filter fun e => e.1 ≠ key).flatMap f := by
  induction es with
  | nil => rw [put, List.flatMap_singleton, hnil, List.filter_nil, List.flatMap_nil]
  | cons e es ih =>
      obtain ⟨hne, hd⟩ := List.nodup_cons.mp hd
      unfold put
      split
      · rename_i hk
        have hself : es.filter (fun e => e.1 ≠ key) = es := by
          refine List.filter_eq_self.mpr fun e' he' => decide_eq_true fun heq => hne ?_
          exact List.mem_map.mpr ⟨e', he', heq.trans hk.symm⟩
        rw [List.flatMap_cons, hnil, List.nil_append, List.filter_cons, hk, hself,
          if_neg (by simp)]
      · rename_i hk
        rw [List.flatMap_cons, ih hd, List.filter_cons, if_pos (decide_eq_true hk),
          List.flatMap_cons]

/-! ## Some of the keys -/

theorem filter_put (p : String → Bool) (key : String) (v : α) (es : List (String × α)) :
    (put key v es).filter (fun e => p e.1)
      = if p key then put key v (es.filter fun e => p e.1) else es.filter fun e => p e.1 := by
  induction es with
  | nil =>
      rw [put, List.filter_cons, List.filter_nil]
      rfl
  | cons e es ih =>
      rw [put]
      split
      · rename_i hk
        rw [List.filter_cons, List.filter_cons, hk]
        split
        · rw [put, if_pos hk]
        · rfl
      · rename_i hk
        rw [List.filter_cons, List.filter_cons, ih]
        split
        · split
          · rw [put, if_neg hk]
          · rfl
        · rfl

/-- What is written under some keys is a matter of these keys alone. -/
theorem filter_foldl_put (p : String → Bool) (es base : List (String × α)) :
    (es.foldl (fun ms e => put e.1 e.2 ms) base).filter (fun e => p e.1)
      = (es.filter fun e => p e.1).foldl (fun ms e => put e.1 e.2 ms)
          (base.filter fun e => p e.1) := by
  induction es generalizing base with
  | nil => rfl
  | cons e es ih =>
      rw [List.foldl_cons, ih, filter_put, List.filter_cons]
      split
      · rfl
      · rfl

theorem entries_insertAll (m : OrderedMap α) (es : List (String × α)) :
    (m.insertAll es).entries = es.foldl (fun ms e => put e.1 e.2 ms) m.entries := by
  induction es generalizing m with
  | nil => rfl
  | cons e es ih => exact ih (m.insert e.1 e.2)

theorem mem_entries_of_get? {m : OrderedMap α} {key : String} {v : α} (h : m.get? key = some v) :
    (key, v) ∈ m.entries := mem_of_lookup h

/-- No key has two entries, so each entry is found. -/
theorem mem_entries_iff {m : OrderedMap α} {key : String} {v : α} :
    (key, v) ∈ m.entries ↔ m.get? key = some v := by
  refine ⟨fun h => ?_, mem_entries_of_get?⟩
  obtain ⟨w, hw⟩ := exists_get?_of_mem_keys (List.mem_map_of_mem h : key ∈ m.keys)
  have heq := List.inj_on_of_nodup_map m.distinct h (mem_entries_of_get? hw) rfl
  rw [hw, (Prod.mk.inj heq).2]

/-- The order of the entries is no matter for what is found. -/
theorem get?_eq_of_perm {m m' : OrderedMap α} (h : m.entries.Perm m'.entries) (key : String) :
    m.get? key = m'.get? key :=
  Option.ext fun v => by rw [← mem_entries_iff, ← mem_entries_iff, h.mem_iff]

/-! ## Blocks of entries -/

/-- Two blocks that share no key. -/
def Apart (es fs : List (String × α)) : Prop := ∀ e ∈ es, ∀ f ∈ fs, e.1 ≠ f.1

theorem Apart.symm {es fs : List (String × α)} (h : Apart es fs) : Apart fs es :=
  fun f hf e he => (h e he f hf).symm

/-- A block that shares no key with each of several shares none with them all. -/
theorem Apart.flatMap {es : List (String × α)} {f : ι → List (String × α)} {l : List ι}
    (h : ∀ a ∈ l, Apart es (f a)) : Apart es (l.flatMap f) := by
  intro e he x hx
  obtain ⟨a, ha, hxa⟩ := List.mem_flatMap.mp hx
  exact h a ha e he x hxa

theorem lastValue?_flatMap_eq_some_iff {f : ι → List (String × α)} {l : List ι} {key : String}
    {v : α} (h : l.Pairwise fun a b => Apart (f a) (f b)) :
    lastValue? (l.flatMap f) key = some v ↔ ∃ a ∈ l, lastValue? (f a) key = some v := by
  induction l generalizing v with
  | nil => simp
  | cons a l ih =>
      obtain ⟨ha, hl⟩ := List.pairwise_cons.mp h
      rw [List.flatMap_cons, lastValue?_append, List.exists_mem_cons_iff, Option.or_eq_some_iff,
        ih hl]
      constructor
      · rintro (hr | ⟨-, hv⟩)
        · exact Or.inr hr
        · exact Or.inl hv
      · rintro (hv | hr)
        · refine Or.inr ⟨?_, hv⟩
          cases hw : lastValue? (l.flatMap f) key with
          | none => rfl
          | some w =>
              -- the head's block and a later one would share the key
              have hne : key ≠ key :=
                Apart.flatMap ha _ (mem_of_lastValue? hv) _ (mem_of_lastValue? hw)
              exact absurd rfl hne
        · exact Or.inl hr

/-- Blocks that share no key may come in any order. -/
theorem lastValue?_flatMap_perm {f : ι → List (String × α)} {l l' : List ι} (hp : l.Perm l')
    (h : l.Pairwise fun a b => Apart (f a) (f b)) (key : String) :
    lastValue? (l.flatMap f) key = lastValue? (l'.flatMap f) key := by
  have h' : l'.Pairwise fun a b => Apart (f a) (f b) := h.perm hp Apart.symm
  refine Option.ext fun v => ?_
  rw [lastValue?_flatMap_eq_some_iff h, lastValue?_flatMap_eq_some_iff h']
  simp only [hp.mem_iff]

end EntityCatalog.OrderedMap
