/-!
Maps from text keys that remember the order in which keys arrived.

`put` is the one writing operation: it replaces the value of a key that is present, where the key
stands, and adds an absent key at the end.  `OrderedMap` packs the entries with the fact that no
key occurs twice; `keys_insert_of_mem` and `put_of_not_mem` say what an insertion does to the
order, `get?_insert` what it does to the content.
-/

namespace EntityCatalog

variable {α β : Type}

/-! ## Lists of entries -/

/-- Writes a value under a key: in place where the key is present, at the end otherwise. -/
def put (key : String) (value : α) : List (String × α) → List (String × α)
  | [] => [(key, value)]
  | (k, v) :: rest => if k = key then (key, value) :: rest else (k, v) :: put key value rest

theorem mem_keys_put (key k : String) (value : α) (es : List (String × α)) :
    k ∈ (put key value es).map (·.1) ↔ k = key ∨ k ∈ es.map (·.1) := by
  induction es with
  | nil => simp [put]
  | cons e rest ih =>
    simp only [put]
    split
    · simp_all
    · simp only [List.map_cons, List.mem_cons, ih]
      constructor
      · rintro (h | h | h) <;> simp [h]
      · rintro (h | h | h) <;> simp [h]

theorem nodup_keys_put (key : String) (value : α) (es : List (String × α))
    (h : (es.map (·.1)).Nodup) : ((put key value es).map (·.1)).Nodup := by
  induction es with
  | nil => simp [put]
  | cons e rest ih =>
    simp only [List.map_cons, List.nodup_cons] at h
    simp only [put]
    split
    · rename_i hk
      simpa [← hk] using h
    · rename_i hk
      simp only [List.map_cons, List.nodup_cons]
      refine ⟨fun hm => ?_, ih h.2⟩
      rcases (mem_keys_put key e.1 value rest).1 hm with h' | h'
      · exact hk h'
      · exact h.1 h'

theorem keys_put_of_mem (key : String) (value : α) (es : List (String × α))
    (h : key ∈ es.map (·.1)) : (put key value es).map (·.1) = es.map (·.1) := by
  induction es with
  | nil => simp at h
  | cons e rest ih =>
    simp only [put]
    split
    · rename_i hk
      simp [hk]
    · rename_i hk
      simp only [List.map_cons, List.mem_cons] at h ⊢
      rw [ih (h.resolve_left (fun h' => hk h'.symm))]

theorem put_of_not_mem (key : String) (value : α) (es : List (String × α))
    (h : key ∉ es.map (·.1)) : put key value es = es ++ [(key, value)] := by
  induction es with
  | nil => rfl
  | cons e rest ih =>
    simp only [List.map_cons, List.mem_cons, not_or] at h
    simp [put, Ne.symm h.1, ih h.2]

theorem lookup_put (key k : String) (value : α) (es : List (String × α)) :
    (put key value es).lookup k = if k = key then some value else es.lookup k := by
  induction es with
  | nil =>
    by_cases hk : k = key
    · simp [put, hk]
    · have hb : (k == key) = false := by simpa using hk
      simp [put, List.lookup_cons, hk, hb]
  | cons e rest ih =>
    obtain ⟨k', v'⟩ := e
    by_cases hk' : k' = key
    · subst hk'
      by_cases hk : k = k'
      · simp [put, hk]
      · have hb : (k == k') = false := by simpa using hk
        simp [put, List.lookup_cons, hk, hb]
    · by_cases hk : k = k'
      · subst hk
        simp [put, hk']
      · have hb : (k == k') = false := by simpa using hk
        simp [put, List.lookup_cons, hk', hb, ih]

/-! ## Maps -/

/-- Entries in the order in which their keys first arrived, no key twice. -/
structure OrderedMap (α : Type) where
  entries : List (String × α)
  distinct : (entries.map (·.1)).Nodup
deriving DecidableEq, Repr

namespace OrderedMap

/-- The map without entries. -/
def empty : OrderedMap α := ⟨[], by simp⟩

instance : Inhabited (OrderedMap α) := ⟨empty⟩

/-- Writes a value under a key. -/
def insert (m : OrderedMap α) (key : String) (value : α) : OrderedMap α :=
  ⟨put key value m.entries, nodup_keys_put key value m.entries m.distinct⟩

/-- The keys in order. -/
def keys (m : OrderedMap α) : List String := m.entries.map (·.1)

/-- The value under a key. -/
def get? (m : OrderedMap α) (key : String) : Option α := m.entries.lookup key

/-- Whether a key is present. -/
def contains (m : OrderedMap α) (key : String) : Bool := (m.get? key).isSome

/-- Writes entries one after the other. -/
def insertAll (m : OrderedMap α) (es : List (String × α)) : OrderedMap α :=
  es.foldl (fun m e => m.insert e.1 e.2) m

/-- The map that entries make when they are written one after the other. -/
def ofList (es : List (String × α)) : OrderedMap α := empty.insertAll es

/-- The map with another map's entries written over it. -/
def extend (m other : OrderedMap α) : OrderedMap α := m.insertAll other.entries

@[ext] theorem ext {m n : OrderedMap α} (h : m.entries = n.entries) : m = n := by
  cases m; cases n; simp_all

@[simp] theorem entries_empty : (empty : OrderedMap α).entries = [] := rfl

@[simp] theorem get?_empty (key : String) : (empty : OrderedMap α).get? key = none := rfl

theorem get?_insert (m : OrderedMap α) (key k : String) (value : α) :
    (m.insert key value).get? k = if k = key then some value else m.get? k :=
  lookup_put key k value m.entries

theorem keys_insert_of_mem (m : OrderedMap α) (key : String) (value : α) (h : key ∈ m.keys) :
    (m.insert key value).keys = m.keys :=
  keys_put_of_mem key value m.entries h

@[simp] theorem insertAll_nil (m : OrderedMap α) : m.insertAll [] = m := rfl

@[simp] theorem insertAll_cons (m : OrderedMap α) (e : String × α) (es : List (String × α)) :
    m.insertAll (e :: es) = (m.insert e.1 e.2).insertAll es := rfl

end OrderedMap

end EntityCatalog
