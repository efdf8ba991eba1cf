import EntityCatalog.Proofs.Shape.Reading
import EntityCatalog.Proofs.Shape.Writing
import Mathlib.Data.List.Pairwise

/-!
# Records that are made of members

A slot says how a value is put into a record, but not where it goes.  A `Member` says both: it gets
back what it sets, and two members of different names leave one another alone.  If the slots of a
record are those of members (`Record.MadeOf`), then what an object is read as can be said member by
member: each has the value that is written for it last, and stays as it was if none is
(`MadeOf.written`); and the object is read iff each of its members is (`MadeOf.exists_read_iff`).
-/

namespace EntityCatalog.Shape

open OrderedMap (lastValue?)

variable {α : Type}

/-- A member of a record: its name, how its value is read, and where the value stands. -/
structure Member (α : Type) where
  name : String
  required : Bool
  Value : Type
  read : Reader Value
  get : α → Value
  set : α → Value → α
  get_set : ∀ a v, get (set a v) = v

namespace Member

section

variable {β : Type} (name : String) (read : Reader β) (get : α → β) (set : α → β → α)
  (get_set : ∀ a v, get (set a v) = v)

/-- A member that must be present. -/
def needed : Member α := ⟨name, true, β, read, get, set, get_set⟩

/-- A member that may be absent. -/
def free : Member α := ⟨name, false, β, read, get, set, get_set⟩

end

/-- The slot that puts the member. -/
def slot (m : Member α) : Slot α := ⟨m.name, m.required, fun d j a => (m.read d j).map (m.set a)⟩

theorem steady_slot (m : Member α) : m.slot.Steady := Slot.steady_needed m.name m.read m.set

/-- Whether neither of two members is changed where the other is set. -/
def Apart (m n : Member α) : Prop :=
  (∀ a v, n.get (m.set a v) = n.get a) ∧ ∀ a v, m.get (n.set a v) = m.get a

instance : Std.Symm (@Apart α) := ⟨fun _ _ h => h.symm⟩

/-- What becomes of a member where others are given: it takes the value that is given for it last, or
stays as it is if none is. -/
structure Written (m : Member α) (d : Dialect) (given : List (String × Json)) (a b : α) : Prop where
  taken : ∀ j, lastValue? given m.name = some j → m.read d j = .ok (m.get b)
  kept : lastValue? given m.name = none → m.get b = m.get a

/-- What is given later is written over what is given before. -/
theorem Written.append {m : Member α} {d : Dialect} {es fs : List (String × Json)} {a b c : α}
    (hes : m.Written d es a b) (hfs : m.Written d fs b c) : m.Written d (es ++ fs) a c := by
  have hlast := OrderedMap.lastValue?_append es fs m.name
  cases hlater : lastValue? fs m.name with
  | some j =>
      rw [hlater, Option.some_or] at hlast
      refine ⟨fun j' hj' => ?_, fun hnone => absurd (hlast.symm.trans hnone) (by simp)⟩
      exact hfs.taken j' (hlater.trans (hlast.symm.trans hj'))
  | none =>
      rw [hlater, Option.none_or] at hlast
      have hkept := hfs.kept hlater
      refine ⟨fun j hj => ?_, fun hnone => ?_⟩
      · rw [hkept]
        exact hes.taken j (hlast.symm.trans hj)
      · rw [hkept]
        exact hes.kept (hlast.symm.trans hnone)

/-- Whether a value is given to one of some members, and it is a value of that member. -/
def Taken (members : List (Member α)) (d : Dialect) (given : String × Json) : Prop :=
  ∃ m ∈ members, m.name = given.1 ∧ ∃ v, m.read d given.2 = .ok v

end Member

/-- Whether a record is made of members. -/
structure Record.MadeOf (r : Record α) (members : List (Member α)) : Prop where
  slots : r.slots = members.map Member.slot
  nodup : (members.map Member.name).Nodup
  apart : members.Pairwise Member.Apart

namespace Record.MadeOf

variable {r : Record α} {members : List (Member α)} {d : Dialect} {a b : α}
  {given : List (String × Json)} {g : String × Json}

theorem steady (h : r.MadeOf members) : ∀ slot ∈ r.slots, slot.Steady := by
  rw [h.slots]
  exact List.forall_mem_map.mpr fun m _ => m.steady_slot

theorem names_nodup (h : r.MadeOf members) : r.names.Nodup := by
  rw [names, h.slots, List.map_map]
  exact h.nodup

theorem eq_of_name (h : r.MadeOf members) {m n : Member α} (hm : m ∈ members) (hn : n ∈ members)
    (hname : m.name = n.name) : m = n :=
  List.inj_on_of_nodup_map h.nodup hm hn hname

/-- Setting one member leaves another as it is. -/
theorem get_set_of_ne (h : r.MadeOf members) {m n : Member α} (hm : m ∈ members)
    (hn : n ∈ members) (hne : m.name ≠ n.name) (a : α) (v : m.Value) :
    n.get (m.set a v) = n.get a :=
  (h.apart.forall hm hn fun heq => hne (congrArg _ heq)).1 a v

/-! ## One member -/

/-- What is taken is the value of one of the members. -/
theorem take_eq_ok (h : r.MadeOf members) (hclosed : r.closed = true) (ht : r.take d g a = .ok b) :
    ∃ m ∈ members, m.name = g.1 ∧ ∃ v, m.read d g.2 = .ok v ∧ b = m.set a v := by
  unfold take at ht
  split at ht
  · rename_i slot hfind
    have hslot := List.mem_of_find?_eq_some hfind
    rw [h.slots] at hslot
    obtain ⟨m, hm, rfl⟩ := List.mem_map.mp hslot
    refine ⟨m, hm, eq_of_beq (List.find?_some hfind :), ?_⟩
    have hput : (m.read d g.2).map (m.set a) = .ok b := ht
    cases hread : m.read d g.2 with
    | error e =>
        rw [hread] at hput
        exact absurd hput (by simp [Except.map])
    | ok v =>
        rw [hread] at hput
        exact ⟨v, rfl, (Except.ok.inj hput).symm⟩
  · rw [hclosed, if_pos rfl] at ht
    exact absurd ht (by simp)

theorem exists_take_iff (h : r.MadeOf members) (hclosed : r.closed = true) :
    (∃ b, r.take d g a = .ok b) ↔ Member.Taken members d g := by
  constructor
  · rintro ⟨b, ht⟩
    obtain ⟨m, hm, hname, v, hv, -⟩ := h.take_eq_ok hclosed ht
    exact ⟨m, hm, hname, v, hv⟩
  · rintro ⟨m, hm, hname, v, hv⟩
    have hslot : m.slot ∈ r.slots := by
      rw [h.slots]
      exact List.mem_map_of_mem hm
    have hfind : r.slots.find? (·.name == m.name) = some m.slot := find?_slot h.names_nodup hslot
    refine ⟨m.set a v, ?_⟩
    rw [take, ← hname, hfind]
    show (m.read d g.2).map (m.set a) = _
    rw [hv]
    rfl

theorem written_of_take (h : r.MadeOf members) (hclosed : r.closed = true)
    (ht : r.take d g a = .ok b) {m : Member α} (hm : m ∈ members) : m.Written d [g] a b := by
  obtain ⟨n, hn, hname, v, hv, rfl⟩ := h.take_eq_ok hclosed ht
  have hlast := OrderedMap.lastValue?_cons g [] m.name
  rw [OrderedMap.lastValue?_nil, Option.none_or] at hlast
  by_cases hself : m.name = g.1
  · obtain rfl : n = m := h.eq_of_name hn hm (hname.trans hself.symm)
    rw [if_pos hself] at hlast
    refine ⟨fun j hj => ?_, fun hnone => absurd (hlast.symm.trans hnone) (by simp)⟩
    obtain rfl : g.2 = j := Option.some.inj (hlast.symm.trans hj)
    rw [hv, n.get_set]
  · rw [if_neg hself] at hlast
    refine ⟨fun j hj => absurd (hlast.symm.trans hj) (by simp), fun _ => ?_⟩
    exact h.get_set_of_ne hn hm (fun heq => hself (heq.symm.trans hname)) a v

/-! ## All members -/

/-- **Member by member**, an object writes over a record what it gives. -/
theorem written (h : r.MadeOf members) (hclosed : r.closed = true)
    (hread : r.readMembers d given a = .ok b) : ∀ m ∈ members, m.Written d given a b := by
  induction given generalizing a with
  | nil =>
      refine fun m _ => ⟨fun j hj => absurd hj (by simp), fun _ => ?_⟩
      exact congrArg m.get (Except.ok.inj hread).symm
  | cons g given ih =>
      intro m hm
      rw [readMembers_cons] at hread
      cases ht : r.take d g a with
      | error e =>
          rw [ht] at hread
          exact absurd hread (by simp [Except.bind])
      | ok c =>
          rw [ht] at hread
          exact (h.written_of_take hclosed ht hm).append (ih hread m hm)

/-- An object is read iff all that it gives is taken. -/
theorem exists_read_iff (h : r.MadeOf members) (hclosed : r.closed = true) :
    (∃ b, r.readMembers d given a = .ok b) ↔ ∀ g ∈ given, Member.Taken members d g := by
  rw [← failure?_eq_none_iff, failure?_readMembers h.steady, List.findSome?_eq_none_iff]
  refine forall₂_congr fun g _ => ?_
  rw [failure?_eq_none_iff]
  exact h.exists_take_iff hclosed

end Record.MadeOf

end EntityCatalog.Shape
