import EntityCatalog.EntityType.Encoding
import EntityCatalog.Proofs.OrderedMap
import EntityCatalog.Shape.Reader
import Mathlib.Data.List.Nodup

/-!
# Records read back from what is written

A record is written as an object whose members stand in the order in which the shape declares them,
some of them left out.  `Fills` follows both lists at once, and with them the record that is filled
from the blank one on; `readObject_of_fills` says that such an object is read, whatever members the
shape does not declare stand behind.  So a shape is proved to be read back as it is written by going
through its slots: one step for each, `needed`, `free` or `optional`.

All of this is about JSON.  The rules for TOML differ, and nothing is written in it.
-/

namespace EntityCatalog.Shape

variable {α β : Type}

/-! ## Plain values -/

/-- Whether a reader takes back what a writer makes of a value. -/
def Inverts (read : Reader α) (write : α → Json) : Prop := ∀ a, read .json (write a) = .ok a

theorem inverts_text : Inverts text .string := fun _ => rfl

theorem inverts_truth : Inverts truth .bool := fun _ => rfl

theorem inverts_anything : Inverts anything id := fun _ => rfl

/-- What is chosen by its name is read back, if no two names are the same. -/
theorem inverts_choice {all : List α} {name : α → String} (hall : ∀ a, a ∈ all)
    (hnames : (all.map name).Nodup) :
    Inverts (choice (all.map fun a => (name a, a))) fun a => .string (name a) := by
  intro a
  have hdistinct : ((all.map fun a => (name a, a)).map (·.1)).Nodup := by
    rw [List.map_map]
    exact hnames
  have hfound : (all.map fun a => (name a, a)).lookup (name a) = some a :=
    OrderedMap.mem_entries_iff (m := ⟨_, hdistinct⟩).mp (List.mem_map_of_mem (hall a))
  rw [choice, choice.byName, hfound]

theorem mapM_map_ok {γ ε : Type} {f : β → Except ε γ} {g : α → β} {k : α → γ} {as : List α}
    (h : ∀ a ∈ as, f (g a) = .ok (k a)) : (as.map g).mapM f = .ok (as.map k) := by
  induction as with
  | nil => rfl
  | cons a as ih =>
      obtain ⟨ha, has⟩ := List.forall_mem_cons.mp h
      rw [List.map_cons, List.mapM_cons, ha, ih has]
      rfl

theorem list_array {read : Reader α} {write : α → Json} {as : List α}
    (h : ∀ a ∈ as, read .json (write a) = .ok a) :
    list read .json (.array (as.map write)) = .ok as := by
  rw [list, mapM_map_ok (k := id) h, List.map_id]

theorem Inverts.list {read : Reader α} {write : α → Json} (h : Inverts read write) :
    Inverts (list read) fun as => .array (as.map write) :=
  fun _ => list_array fun a _ => h a

theorem Inverts.map {read : Reader α} {write : α → Json} (h : Inverts read write) :
    Inverts (map read) fun m => .object (m.entries.map fun e => (e.1, write e.2)) := by
  intro m
  have hentries : (m.entries.map fun e => (e.1, write e.2)).mapM
        (fun m : String × Json => (read .json m.2).map fun a => (m.1, a))
      = .ok (m.entries.map id) := by
    refine mapM_map_ok fun e _ => ?_
    rw [h]
    rfl
  rw [Shape.map, hentries, List.map_id]
  exact congrArg Except.ok (OrderedMap.ext (OrderedMap.entries_ofList_of_nodup m.distinct))

theorem optional_of_ne_null {read : Reader α} {j : Json} {a : α} (hj : j ≠ .null)
    (h : read .json j = .ok a) : optional read .json j = .ok (some a) := by
  unfold optional
  split
  · exact absurd rfl hj
  · rw [h]
    rfl

/-! ## Records -/

/-- How members, written in the order of some slots, fill a record: each slot has its member next, or
may be absent and is left out. -/
inductive Fills : List (Slot α) → List (String × Json) → α → α → Prop
  | nil {a : α} : Fills [] [] a a
  | written {slot : Slot α} {slots : List (Slot α)} {j : Json} {members : List (String × Json)}
      {a b c : α} :
      slot.put .json j a = .ok b → Fills slots members b c →
        Fills (slot :: slots) ((slot.name, j) :: members) a c
  | omitted {slot : Slot α} {slots : List (Slot α)} {members : List (String × Json)} {a c : α} :
      slot.required = false → Fills slots members a c → Fills (slot :: slots) members a c

namespace Fills

variable {slots : List (Slot α)} {members : List (String × Json)} {a c : α} {name : String}
  {read : Reader β}

theorem needed {set : α → β → α} {j : Json} {b : β} (h : read .json j = .ok b)
    (rest : Fills slots members (set a b) c) :
    Fills (.needed name read set :: slots) (member name j ++ members) a c := by
  have hput : (Slot.needed name read set).put .json j a = .ok (set a b) := by
    show (read .json j).map (set a) = .ok (set a b)
    rw [h]
    rfl
  exact written hput rest

theorem free {set : α → β → α} {j : Json} {b : β} (h : read .json j = .ok b)
    (rest : Fills slots members (set a b) c) :
    Fills (.free name read set :: slots) (member name j ++ members) a c := by
  have hput : (Slot.free name read set).put .json j a = .ok (set a b) := by
    show (read .json j).map (set a) = .ok (set a b)
    rw [h]
    rfl
  exact written hput rest

theorem optional {set : α → Option β → α} {write : β → Json} {v : Option β}
    (h : ∀ b ∈ v, read .json (write b) = .ok b) (hnull : ∀ b, write b ≠ .null)
    (hnone : set a none = a) (rest : Fills slots members (set a v) c) :
    Fills (.free name (Shape.optional read) set :: slots) (member? name (v.map write) ++ members)
      a c := by
  cases v with
  | none =>
      rw [hnone] at rest
      exact omitted rfl rest
  | some b => exact free (optional_of_ne_null (hnull b) (h b rfl)) rest

/-- A list that is written only if it is not empty. -/
theorem nonempty {set : α → List β → α} {write : β → Json} {vs : List β}
    (h : Inverts read write) (hnil : set a [] = a) (rest : Fills slots members (set a vs) c) :
    Fills (.free name (list read) set :: slots)
      ((if vs.isEmpty then [] else member name (.array (vs.map write))) ++ members) a c := by
  cases vs with
  | nil =>
      rw [hnil] at rest
      exact omitted rfl rest
  | cons v vs => exact free (h.list (v :: vs)) rest

/-- The members stand in the order of the slots, none twice. -/
theorem names_sublist (h : Fills slots members a c) :
    (members.map (·.1)).Sublist (slots.map (·.name)) := by
  induction h with
  | nil => exact List.Sublist.slnil
  | written _ _ ih => exact ih.cons_cons _
  | omitted _ _ ih => exact ih.cons _

end Fills

namespace Record

variable {r : Record α} {slots : List (Slot α)} {members extra : List (String × Json)} {a b : α}

theorem find?_slot (hn : r.names.Nodup) {slot : Slot α} (h : slot ∈ r.slots) :
    r.slots.find? (·.name == slot.name) = some slot := by
  obtain ⟨found, hfound⟩ : ∃ found, r.slots.find? (·.name == slot.name) = some found :=
    Option.isSome_iff_exists.mp (List.find?_isSome.mpr ⟨slot, h, beq_self_eq_true _⟩)
  have hname : found.name = slot.name := eq_of_beq (List.find?_some hfound :)
  rw [hfound, List.inj_on_of_nodup_map hn (List.mem_of_find?_eq_some hfound) h hname]

theorem readMembers_of_fills (hs : ∀ slot ∈ slots, r.slots.find? (·.name == slot.name) = some slot)
    (h : Fills slots members a b) :
    r.readMembers .json (members ++ extra) a = r.readMembers .json extra b := by
  induction h with
  | nil => rfl
  | written hput _ ih =>
      obtain ⟨hslot, hslots⟩ := List.forall_mem_cons.mp hs
      rw [List.cons_append, readMembers, hslot]
      dsimp only
      rw [hput, ← ih hslots]
      rfl
  | omitted _ _ ih => exact ih (List.forall_mem_cons.mp hs).2

/-- Members that an open shape does not declare are passed over. -/
theorem readMembers_extra (hopen : r.closed = false) (h : ∀ m ∈ extra, m.1 ∉ r.names) :
    r.readMembers .json extra a = .ok a := by
  induction extra with
  | nil => rfl
  | cons m extra ih =>
      obtain ⟨hm, hextra⟩ := List.forall_mem_cons.mp h
      have hnone : r.slots.find? (·.name == m.1) = none := by
        refine List.find?_eq_none.mpr fun slot hslot heq => hm ?_
        exact List.mem_map.mpr ⟨slot, hslot, eq_of_beq heq⟩
      rw [readMembers, hnone]
      dsimp only
      rw [hopen, if_neg Bool.false_ne_true]
      exact ih hextra

theorem any_of_fills (h : Fills slots members a b) {slot : Slot α} (hs : slot ∈ slots)
    (hreq : slot.required = true) : members.any (·.1 == slot.name) = true := by
  induction h with
  | nil => exact absurd hs List.not_mem_nil
  | written _ _ ih =>
      rw [List.any_cons, Bool.or_eq_true]
      rcases List.mem_cons.mp hs with rfl | hs
      · exact Or.inl (beq_self_eq_true _)
      · exact Or.inr (ih hs)
  | omitted hfree _ ih =>
      rcases List.mem_cons.mp hs with rfl | hs
      · rw [hfree] at hreq
        exact absurd hreq Bool.false_ne_true
      · exact ih hs

theorem absent?_of_fills (h : Fills r.slots members a b) : r.absent? (members ++ extra) = none := by
  rw [absent?, Option.map_eq_none_iff, List.find?_eq_none]
  intro slot hslot
  rw [Bool.and_eq_true, not_and, List.any_append]
  intro hreq
  rw [any_of_fills h hslot hreq, Bool.true_or]
  exact Bool.false_ne_true

/-- An object is read whose members fill the record, with any others behind if these are passed
over. -/
theorem readObject_append_of_fills (hn : r.names.Nodup) (h : Fills r.slots members r.blank a)
    (hextra : r.readMembers .json extra a = .ok a) :
    r.readObject .json (members ++ extra) = .ok a := by
  rw [readObject, readMembers_of_fills (fun _ => find?_slot hn) h, hextra, absent?_of_fills h]
  rfl

theorem readObject_of_fills (hn : r.names.Nodup) (h : Fills r.slots (members ++ []) r.blank a) :
    r.readObject .json members = .ok a := by
  have hread : r.readObject .json (members ++ [] ++ []) = .ok a :=
    readObject_append_of_fills hn h rfl
  rw [List.append_nil, List.append_nil] at hread
  exact hread

end Record

end EntityCatalog.Shape
