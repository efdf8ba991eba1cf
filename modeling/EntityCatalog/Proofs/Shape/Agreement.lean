import EntityCatalog.Proofs.Shape.Reading
import Mathlib.Data.List.Forall2
import Mathlib.Data.Option.Basic

/-!
# Records that read the same values alike

The reader of a nested value is bounded by the levels that it may have, and is built from the reader
of one level less.  Two readers with different bounds are different functions, and agree only on the
values that both bounds allow; a record that is made with one agrees with a record that is made with
the other on objects of one level more (`RecordsAgree.read`).  So the bound does not matter, as long
as it is met.
-/

namespace EntityCatalog.Shape

variable {α β : Type} {levels : Nat}

/-! ## Values -/

/-- Whether two readers agree on the values of so many levels at most. -/
def ReadersAgree (levels : Nat) (read read' : Reader α) : Prop :=
  ∀ d j, j.depth ≤ levels → read d j = read' d j

theorem ReadersAgree.optional {read read' : Reader α} (h : ReadersAgree levels read read') :
    ReadersAgree levels (optional read) (optional read') := by
  intro d j hj
  unfold Shape.optional
  split
  · rfl
  · rw [h _ _ hj]

theorem mapM_congr_of_mem {γ ε : Type} {f g : α → Except ε γ} {as : List α}
    (h : ∀ a ∈ as, f a = g a) : as.mapM f = as.mapM g := by
  induction as with
  | nil => rfl
  | cons a as ih =>
      obtain ⟨ha, has⟩ := List.forall_mem_cons.mp h
      rw [List.mapM_cons, List.mapM_cons, ha, ih has]

theorem ReadersAgree.list {read read' : Reader α} (h : ReadersAgree levels read read') :
    ReadersAgree levels (list read) (list read') := by
  intro d j hj
  cases j with
  | array items =>
      refine mapM_congr_of_mem fun item hitem => h d item ?_
      rw [Json.depth] at hj
      exact Nat.le_trans (Json.depth_le_itemsDepth hitem) (Nat.le_of_succ_le hj)
  | null => rfl
  | bool _ => rfl
  | number _ => rfl
  | string _ => rfl
  | object _ => rfl

/-! ## Slots -/

/-- Whether two slots take the values of so many levels at most alike. -/
structure SlotsAgree (levels : Nat) (slot slot' : Slot α) : Prop where
  name : slot.name = slot'.name
  required : slot.required = slot'.required
  put : ∀ d j a, j.depth ≤ levels → slot.put d j a = slot'.put d j a

theorem SlotsAgree.refl (slot : Slot α) : SlotsAgree levels slot slot :=
  ⟨rfl, rfl, fun _ _ _ _ => rfl⟩

section

variable {read read' : Reader β} {name : String} {set : α → β → α}

theorem ReadersAgree.needed (h : ReadersAgree levels read read') :
    SlotsAgree levels (.needed name read set) (.needed name read' set) :=
  ⟨rfl, rfl, fun d j a hj => congrArg (Except.map (set a)) (h d j hj)⟩

theorem ReadersAgree.free (h : ReadersAgree levels read read') :
    SlotsAgree levels (.free name read set) (.free name read' set) :=
  ⟨rfl, rfl, fun d j a hj => congrArg (Except.map (set a)) (h d j hj)⟩

end

theorem rel_find? {R : α → β → Prop} {p : α → Bool} {q : β → Bool} {as : List α} {bs : List β}
    (h : List.Forall₂ R as bs) (hp : ∀ a b, R a b → p a = q b) :
    Option.Rel R (as.find? p) (bs.find? q) := by
  induction h with
  | nil => exact .none
  | cons hab _ ih =>
      rw [List.find?_cons, List.find?_cons, hp _ _ hab]
      split
      · exact .some hab
      · exact ih

/-! ## Records -/

/-- Whether two records take objects with members of so many levels at most alike. -/
structure RecordsAgree (levels : Nat) (r r' : Record α) : Prop where
  title : r.title = r'.title
  blank : r.blank = r'.blank
  closed : r.closed = r'.closed
  slots : List.Forall₂ (SlotsAgree levels) r.slots r'.slots

namespace RecordsAgree

variable {r r' : Record α} {d : Dialect}

theorem names (h : RecordsAgree levels r r') : r.names = r'.names := by
  have hnames : List.Forall₂ Eq r.names r'.names :=
    List.rel_map (fun _ _ hslot => hslot.name) h.slots
  rwa [List.forall₂_eq_eq_eq] at hnames

theorem wanted (h : RecordsAgree levels r r') : r.wanted = r'.wanted := by
  rw [Record.wanted, Record.wanted, h.title, h.slots.length_eq]

theorem take (h : RecordsAgree levels r r') {m : String × Json} (hm : m.2.depth ≤ levels) (a : α) :
    r.take d m a = r'.take d m a := by
  have hfind := rel_find? (p := (·.name == m.1)) (q := (·.name == m.1)) h.slots
    fun slot slot' hslot => by rw [hslot.name]
  rw [Record.take, Record.take, h.closed, h.names]
  generalize r.slots.find? (·.name == m.1) = found at hfind ⊢
  generalize r'.slots.find? (·.name == m.1) = found' at hfind ⊢
  cases hfind with
  | none => rfl
  | some hslot => exact hslot.put d m.2 a hm

theorem readMembers (h : RecordsAgree levels r r') {members : List (String × Json)}
    (hm : Json.membersDepth members ≤ levels) (a : α) :
    r.readMembers d members a = r'.readMembers d members a := by
  induction members generalizing a with
  | nil => rfl
  | cons m members ih =>
      obtain ⟨key, j⟩ := m
      rw [Json.membersDepth, Nat.max_le] at hm
      rw [Record.readMembers_cons, Record.readMembers_cons, h.take hm.1 a]
      exact congrArg _ (funext fun b => ih hm.2 b)

theorem absent? (h : RecordsAgree levels r r') (members : List (String × Json)) :
    r.absent? members = r'.absent? members := by
  have hfind := rel_find?
    (p := fun slot => slot.required && !members.any (·.1 == slot.name))
    (q := fun slot => slot.required && !members.any (·.1 == slot.name)) h.slots
    fun slot slot' hslot => by rw [hslot.name, hslot.required]
  rw [Record.absent?, Record.absent?]
  generalize List.find? _ r.slots = found at hfind ⊢
  generalize List.find? _ r'.slots = found' at hfind ⊢
  cases hfind with
  | none => rfl
  | some hslot => exact congrArg some hslot.name

theorem readObject (h : RecordsAgree levels r r') {members : List (String × Json)}
    (hm : Json.membersDepth members ≤ levels) :
    r.readObject d members = r'.readObject d members := by
  rw [Record.readObject, Record.readObject, h.blank, h.readMembers hm, h.absent?]

theorem readItems (h : RecordsAgree levels r r') (total : Nat) {slots slots' : List (Slot α)}
    (hslots : List.Forall₂ (SlotsAgree levels) slots slots') {items : List Json}
    (hitems : ∀ j ∈ items, j.depth ≤ levels) (place : Nat) (a : α) :
    r.readItems d total place slots items a = r'.readItems d total place slots' items a := by
  induction hslots generalizing items place a with
  | nil => cases items <;> rfl
  | cons hslot _ ih =>
      cases items with
      | nil =>
          rw [Record.readItems, Record.readItems, hslot.required, h.wanted]
          split
          · rfl
          · exact ih hitems _ _
      | cons j items =>
          obtain ⟨hj, hitems⟩ := List.forall_mem_cons.mp hitems
          rw [Record.readItems, Record.readItems, hslot.put d j a hj]
          exact congrArg _ (funext fun b => ih hitems _ b)

/-- Objects and arrays have one level more than their members and items. -/
theorem read (h : RecordsAgree levels r r') : ReadersAgree (levels + 1) r.read r'.read := by
  intro d j hj
  have hother : ∀ j, (Except.error (.kind j ("struct " ++ r.title)) : Except Mismatch α)
      = .error (.kind j ("struct " ++ r'.title)) := fun j => by rw [h.title]
  cases j with
  | object members =>
      rw [Json.depth] at hj
      exact h.readObject (Nat.le_of_succ_le_succ hj)
  | array items =>
      rw [Json.depth] at hj
      rw [Record.read, Record.read, h.blank]
      refine h.readItems _ h.slots (fun item hitem => ?_) _ _
      exact Nat.le_trans (Json.depth_le_itemsDepth hitem) (Nat.le_of_succ_le_succ hj)
  | null => exact hother _
  | bool _ => exact hother _
  | number _ => exact hother _
  | string _ => exact hother _

end RecordsAgree

end EntityCatalog.Shape
