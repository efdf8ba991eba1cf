import EntityCatalog.Proofs.Outcome
import EntityCatalog.Shape.Reader
import Mathlib.Data.List.Basic

/-!
# Records read member by member

A record is made by putting one member after the other, and a slot either takes a value or refuses
it for the value's own sake.  So what an object is refused for is its first member that is refused,
whatever has been put before it: `failure?_readMembers`.

What an object is read as can be said for some members by themselves.  An erasure that forgets what
the other members put, and keeps out of the way of these, turns a reading of all members into one of
these alone: `readMembers_erase`.
-/

namespace EntityCatalog.Shape

variable {α β : Type}

/-! ## Values -/

theorem depth_pos (j : Json) : 0 < j.depth := by
  cases j <;> simp [Json.depth]

theorem eq_string_of_text {d : Dialect} {j : Json} {s : String} (h : text d j = .ok s) :
    j = .string s := by
  unfold text at h
  split at h
  · exact congrArg Json.string (Except.ok.inj h)
  · exact absurd h (by simp)

theorem failure?_optional_text {j : Json} :
    failure? (optional text .json j) = none ↔ j = .null ∨ ∃ s, j = .string s := by
  cases j with
  | null => exact ⟨fun _ => Or.inl rfl, fun _ => rfl⟩
  | string s => exact ⟨fun _ => Or.inr ⟨s, rfl⟩, fun _ => rfl⟩
  | bool _ => exact ⟨nofun, nofun⟩
  | number _ => exact ⟨nofun, nofun⟩
  | array _ => exact ⟨nofun, nofun⟩
  | object _ => exact ⟨nofun, nofun⟩

/-! ## Slots that judge a value by itself -/

/-- Whether what a slot refuses is a matter of the value, and not of the record it is put into. -/
def Slot.Steady (slot : Slot α) : Prop :=
  ∀ d j a b, failure? (slot.put d j a) = failure? (slot.put d j b)

theorem Slot.steady_needed (name : String) (read : Reader β) (set : α → β → α) :
    (Slot.needed name read set).Steady := by
  intro d j a b
  show failure? ((read d j).map _) = failure? ((read d j).map _)
  rw [failure?_map, failure?_map]

theorem Slot.steady_free (name : String) (read : Reader β) (set : α → β → α) :
    (Slot.free name read set).Steady :=
  Slot.steady_needed name read set

/-! ## Members by themselves -/

/-- An erasure that forgets what the slots of some names put, and commutes with the others. -/
structure Slot.Erased (hidden : String → Bool) (erase : α → α) (slot : Slot α) : Prop where
  undone : hidden slot.name = true → ∀ d j a b, slot.put d j a = .ok b → erase b = erase a
  apart : hidden slot.name = false → ∀ d j a, slot.put d j (erase a) = (slot.put d j a).map erase

section

variable {hidden : String → Bool} {erase : α → α} {name : String} {required : Bool}
  {read : Reader β} {set : α → β → α}

theorem Slot.erased_hidden (hname : hidden name = true) (h : ∀ a v, erase (set a v) = erase a) :
    Slot.Erased hidden erase ⟨name, required, fun d j a => (read d j).map (set a)⟩ := by
  refine ⟨fun _ d j a b hput => ?_, fun hfalse => absurd (hname.symm.trans hfalse) nofun⟩
  dsimp only at hput
  cases hread : read d j with
  | error e =>
      rw [hread] at hput
      exact nomatch hput
  | ok v =>
      rw [hread] at hput
      rw [← Except.ok.inj hput, h]

theorem Slot.erased_apart (hname : hidden name = false)
    (h : ∀ a v, set (erase a) v = erase (set a v)) :
    Slot.Erased hidden erase ⟨name, required, fun d j a => (read d j).map (set a)⟩ := by
  refine ⟨fun htrue => absurd (hname.symm.trans htrue) nofun, fun _ d j a => ?_⟩
  dsimp only
  cases read d j with
  | error e => rfl
  | ok v => exact congrArg Except.ok (h a v)

end

namespace Record

variable {r : Record α} {d : Dialect} {members : List (String × Json)} {a b : α}

/-! ## One member -/

/-- Takes one member. -/
def take (r : Record α) (d : Dialect) (m : String × Json) (a : α) : Except Mismatch α :=
  match r.slots.find? (·.name == m.1) with
  | some slot => slot.put d m.2 a
  | none =>
      if r.closed then .error (.unknownMember m.1 r.names) else (ignored d m.2).map fun _ => a

theorem readMembers_cons (m : String × Json) (members : List (String × Json)) (a : α) :
    r.readMembers d (m :: members) a = (r.take d m a).bind (r.readMembers d members) := by
  rw [readMembers, take]
  cases r.slots.find? (·.name == m.1) with
  | some slot => rfl
  | none =>
      dsimp only
      cases r.closed with
      | true => rfl
      | false => cases ignored d m.2 <;> rfl

theorem failure?_take (hs : ∀ slot ∈ r.slots, slot.Steady) (m : String × Json) (a b : α) :
    failure? (r.take d m a) = failure? (r.take d m b) := by
  unfold take
  split
  · rename_i slot hfind
    exact hs slot (List.mem_of_find?_eq_some hfind) d m.2 a b
  · cases r.closed with
    | true => rfl
    | false =>
        rw [if_neg Bool.false_ne_true, if_neg Bool.false_ne_true, failure?_map, failure?_map]

theorem take_of_hidden {hidden : String → Bool} {erase : α → α}
    (hs : ∀ slot ∈ r.slots, slot.Erased hidden erase) {m : String × Json}
    (hm : hidden m.1 = true) (h : r.take d m a = .ok b) : erase b = erase a := by
  unfold take at h
  split at h
  · rename_i slot hfind
    have hname : slot.name = m.1 := eq_of_beq (List.find?_some hfind :)
    exact (hs slot (List.mem_of_find?_eq_some hfind)).undone (hname ▸ hm) d m.2 a b h
  · split at h
    · exact nomatch h
    · cases hi : ignored d m.2 with
      | error e =>
          rw [hi] at h
          exact nomatch h
      | ok _ =>
          rw [hi] at h
          exact congrArg erase (Except.ok.inj h).symm

theorem take_erase {hidden : String → Bool} {erase : α → α}
    (hs : ∀ slot ∈ r.slots, slot.Erased hidden erase) {m : String × Json}
    (hm : hidden m.1 = false) (a : α) :
    r.take d m (erase a) = (r.take d m a).map erase := by
  unfold take
  split
  · rename_i slot hfind
    have hname : slot.name = m.1 := eq_of_beq (List.find?_some hfind :)
    exact (hs slot (List.mem_of_find?_eq_some hfind)).apart (hname ▸ hm) d m.2 a
  · cases r.closed with
    | true => rfl
    | false => cases ignored d m.2 <;> rfl

/-! ## All members -/

/-- What members are refused for is what the first refused member is refused for. -/
theorem failure?_readMembers (hs : ∀ slot ∈ r.slots, slot.Steady)
    (members : List (String × Json)) (a : α) :
    failure? (r.readMembers d members a)
      = members.findSome? fun m => failure? (r.take d m r.blank) := by
  induction members generalizing a with
  | nil => rfl
  | cons m members ih =>
      rw [readMembers_cons, failure?_bind, List.findSome?_cons, failure?_take hs m r.blank a]
      cases r.take d m a with
      | error e => rfl
      | ok b => exact ih b

/-- An erasure of what some members put gives the reading of the other members. -/
theorem readMembers_erase {hidden : String → Bool} {erase : α → α}
    (hs : ∀ slot ∈ r.slots, slot.Erased hidden erase) (h : r.readMembers d members a = .ok b) :
    r.readMembers d (members.filter fun m => !hidden m.1) (erase a) = .ok (erase b) := by
  induction members generalizing a with
  | nil => exact congrArg (Except.ok ∘ erase) (Except.ok.inj h)
  | cons m members ih =>
      rw [readMembers_cons] at h
      cases hm : r.take d m a with
      | error e =>
          rw [hm] at h
          exact nomatch h
      | ok c =>
          rw [hm] at h
          have hrest := ih h
          rw [List.filter_cons]
          cases hh : hidden m.1 with
          | true =>
              rw [← take_of_hidden hs hh hm]
              exact hrest
          | false =>
              rw [Bool.not_false, if_pos rfl, readMembers_cons, take_erase hs hh, hm]
              exact hrest

theorem absent?_eq_none (h : ∀ slot ∈ r.slots, slot.required = true →
    slot.name ∈ members.map (·.1)) : r.absent? members = none := by
  rw [absent?, Option.map_eq_none_iff, List.find?_eq_none]
  intro slot hslot
  rw [Bool.and_eq_true, not_and, Bool.not_eq_true', Bool.not_eq_false]
  intro hreq
  obtain ⟨m, hm, hname⟩ := List.mem_map.mp (h slot hslot hreq)
  exact List.any_eq_true.mpr ⟨m, hm, beq_iff_eq.mpr hname⟩

/-- Where no member is missing, an object is read as its members are. -/
theorem readObject_of_absent? (h : r.absent? members = none) :
    r.readObject d members = r.readMembers d members r.blank := by
  rw [readObject]
  cases r.readMembers d members r.blank with
  | error e => rfl
  | ok a =>
      rw [Except.bind, h]

end Record

end EntityCatalog.Shape
