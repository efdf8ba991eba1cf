/-!
JSON values.

The members of an object keep the order in which they were written, and integers are told apart
from doubles, because both are visible in what the compiler reports and emits.  A double is held
by its bits, so that equality of values is decidable; it is always finite.  What is read from a
JSON text has integers of at most 64 bits, but in a TOML document longer ones may stand.
-/

namespace EntityCatalog

/-- A number: an integer or a finite double. -/
inductive Number where
  | integer (value : Int)
  | double (bits : UInt64)
deriving DecidableEq, Repr

/-- A JSON value. -/
inductive Json where
  | null
  | bool (value : Bool)
  | number (value : Number)
  | string (value : String)
  | array (items : List Json)
  | object (members : List (String × Json))
deriving Repr, BEq

namespace Json

instance : Inhabited Json := ⟨.null⟩

/-- The member of an object under a key. -/
def get? (j : Json) (key : String) : Option Json :=
  match j with
  | .object members => members.lookup key
  | _ => none

/-- The text, if the value is one. -/
def text? : Json → Option String
  | .string s => some s
  | _ => none

/-- Whether an integer fits `bits` bits, with a sign or without. -/
def fits (bits : Nat) (i : Int) : Bool :=
  -(Nat.pow 2 (bits - 1) : Int) ≤ i && i < (Nat.pow 2 bits : Int)

mutual
/-- Whether all integers in a value fit `bits` bits. -/
def integersFit (bits : Nat) : Json → Bool
  | .number (.integer i) => fits bits i
  | .array items => itemsFit bits items
  | .object members => membersFit bits members
  | _ => true

/-- Whether all integers in several values fit `bits` bits. -/
def itemsFit (bits : Nat) : List Json → Bool
  | [] => true
  | j :: rest => j.integersFit bits && itemsFit bits rest

/-- Whether all integers in several members' values fit `bits` bits. -/
def membersFit (bits : Nat) : List (String × Json) → Bool
  | [] => true
  | (_, j) :: rest => j.integersFit bits && membersFit bits rest
end

mutual
/-- The number of levels of a value, at least one. -/
def depth : Json → Nat
  | .array items => itemsDepth items + 1
  | .object members => membersDepth members + 1
  | _ => 1

/-- The levels of the deepest of several values. -/
def itemsDepth : List Json → Nat
  | [] => 0
  | j :: rest => max j.depth (itemsDepth rest)

/-- The levels of the deepest of several members' values. -/
def membersDepth : List (String × Json) → Nat
  | [] => 0
  | (_, j) :: rest => max j.depth (membersDepth rest)
end

theorem depth_le_itemsDepth {j : Json} {items : List Json} (h : j ∈ items) :
    j.depth ≤ itemsDepth items := by
  induction items with
  | nil => simp at h
  | cons i rest ih =>
    simp only [itemsDepth]
    rcases List.mem_cons.1 h with rfl | h
    · omega
    · have := ih h
      omega

theorem depth_le_membersDepth {key : String} {j : Json} {members : List (String × Json)}
    (h : (key, j) ∈ members) : j.depth ≤ membersDepth members := by
  induction members with
  | nil => simp at h
  | cons m rest ih =>
    obtain ⟨k, v⟩ := m
    simp only [membersDepth]
    rcases List.mem_cons.1 h with h | h
    · cases h
      omega
    · have := ih h
      omega

end Json

end EntityCatalog
