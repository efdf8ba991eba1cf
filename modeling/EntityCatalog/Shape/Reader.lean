import EntityCatalog.Shape.Error
import EntityCatalog.OrderedMap

/-!
Reading typed values from JSON values.

A reader takes a value or refuses it with the first mismatch met.  The shape of a record is one
description (`Record`), from which both of its written forms are read: an object, whose members
are taken in the order they are written, and an array of the members in the order they are
declared.  Absence is judged after all that is present has been taken.

A value may come from a JSON text or from a TOML document, and the two are not read alike.  TOML
has no null, so that null can only be a number that is not finite; its arrays may go on behind the
items that are wanted; and its integers may be longer than any number that is taken.
-/

namespace EntityCatalog.Shape

/-- The language in which a value was written. -/
inductive Dialect where
  | json
  | toml
deriving DecidableEq, Repr

/-- Takes a value that was written in a language, or refuses it. -/
abbrev Reader (α : Type) := Dialect → Json → Except Mismatch α

variable {α β : Type}

/-! ## Plain values -/

/-- A text. -/
def text : Reader String
  | _, .string s => .ok s
  | _, j => .error (.kind j "a string")

/-- A truth value. -/
def truth : Reader Bool
  | _, .bool b => .ok b
  | _, j => .error (.kind j "a boolean")

/-- Any value.  The integers of a TOML document must have at most 64 bits. -/
def anything : Reader Json
  | .json, j => .ok j
  | .toml, j =>
      if j.integersFit 64 then .ok j else .error (.kind j "a value of integers of 64 bits")

/-- A value that nothing is read from.  A JSON text is not looked at again; the numbers of a TOML
document are, and must have at most 128 bits. -/
def ignored : Reader Unit
  | .json, _ => .ok ()
  | .toml, j =>
      if j.integersFit 128 then .ok () else .error (.kind j "a value of integers of 128 bits")

/-- A number that fits a byte. -/
def byte : Reader UInt8
  | _, .number (.integer i) =>
      if 0 ≤ i ∧ i < 256 then .ok (UInt8.ofNat i.toNat)
      else .error (.value (.number (.integer i)) "a byte")
  | _, j => .error (.kind j "a byte")

/-- An identifier, which TOML may give by its bytes too. -/
def uuid : Reader Uuid
  | _, .string s => (Uuid.parse s).mapError .uuid
  | .toml, .array items => do
      let bytes ← (items.take 16).mapM (byte .toml)
      match Uuid.ofBytes? bytes with
      | some u => return u
      | none => throw (.length bytes.length "an array of 16 bytes")
  | _, j => .error (.kind j "a formatted UUID string")

/-- A value, or null for none. -/
def optional (read : Reader α) : Reader (Option α)
  | .json, .null => .ok none
  | d, j => (read d j).map some

/-- An array of values. -/
def list (read : Reader α) : Reader (List α)
  | d, .array items => items.mapM (read d)
  | _, j => .error (.kind j "a sequence")

/-- An object of values under free keys. -/
def map (read : Reader α) : Reader (OrderedMap α)
  | d, .object members =>
      (members.mapM fun m : String × Json => (read d m.2).map fun a => (m.1, a)).map
        OrderedMap.ofList
  | _, j => .error (.kind j "a map")

/-- An array of two texts. -/
def pair : Reader (String × String)
  | _, .array [] => .error (.length 0 "a tuple of size 2")
  | d, .array [a] => (text d a).bind fun _ => .error (.length 1 "a tuple of size 2")
  | d, .array (a :: b :: rest) => do
      let a ← text d a
      let b ← text d b
      if rest.isEmpty || d = .toml then return (a, b)
      else throw (.length (rest.length + 2) "fewer elements in array")
  | _, j => .error (.kind j "a tuple of size 2")

/-- Whether a value is what stands under a name that is all of its choice. -/
def isUnit : Dialect → Json → Bool
  | .json, .null => true
  | .toml, .array [] => true
  | .toml, .object [] => true
  | _, _ => false

/-- One of some names, by itself or as the one member of an object with nothing under it. -/
def choice (names : List (String × α)) : Reader α
  | _, .string s => byName s
  | d, .object [(key, j)] => do
      let a ← byName key
      if isUnit d j then return a else throw (.kind j "unit")
  | _, .object ms => .error (.value (.object ms) "map with a single key")
  | _, j => .error (.kind j "string or map")
where
  /-- What a name stands for. -/
  byName (s : String) : Except Mismatch α :=
    match names.lookup s with
    | some a => .ok a
    | none => .error (.unknownChoice s (names.map (·.1)))

/-! ## Records -/

/-- A member of a record: its name, whether it must be present, and how its value is put into the
record. -/
structure Slot (α : Type) where
  name : String
  required : Bool
  put : Dialect → Json → α → Except Mismatch α

/-- A member that must be present. -/
def Slot.needed (name : String) (read : Reader β) (set : α → β → α) : Slot α :=
  ⟨name, true, fun d j a => (read d j).map (set a)⟩

/-- A member that may be absent, and then stays as it is in the blank record. -/
def Slot.free (name : String) (read : Reader β) (set : α → β → α) : Slot α :=
  ⟨name, false, fun d j a => (read d j).map (set a)⟩

/-- The shape of a record. -/
structure Record (α : Type) where
  /-- The name of the shape in messages. -/
  title : String
  /-- The record before any member is put. -/
  blank : α
  /-- Whether members that are not declared are refused. -/
  closed : Bool
  /-- The members in the order of declaration. -/
  slots : List (Slot α)

namespace Record

/-- The names of the members. -/
def names (r : Record α) : List String := r.slots.map (·.name)

/-- What an array must be to have the shape. -/
def wanted (r : Record α) : String :=
  "struct " ++ r.title ++ " with " ++ toString r.slots.length
    ++ (if r.slots.length = 1 then " element" else " elements")

/-- Takes members in the order they are written. -/
def readMembers (r : Record α) (d : Dialect) : List (String × Json) → α → Except Mismatch α
  | [], a => .ok a
  | (key, j) :: rest, a =>
      match r.slots.find? (·.name == key) with
      | some slot => (slot.put d j a).bind (r.readMembers d rest)
      | none =>
          if r.closed then .error (.unknownMember key r.names)
          else (ignored d j).bind fun _ => r.readMembers d rest a

/-- The first member that must be present and is not. -/
def absent? (r : Record α) (members : List (String × Json)) : Option String :=
  (r.slots.find? fun slot => slot.required && !members.any (·.1 == slot.name)).map (·.name)

/-- Takes the members of an object. -/
def readObject (r : Record α) (d : Dialect) (members : List (String × Json)) :
    Except Mismatch α :=
  (r.readMembers d members r.blank).bind fun a =>
    match r.absent? members with
    | some name => .error (.missing name)
    | none => .ok a

/-- Takes the items of an array as the members from the one at `place` on. -/
def readItems (r : Record α) (d : Dialect) (total : Nat) : Nat → List (Slot α) → List Json → α →
    Except Mismatch α
  | _, [], [], a => .ok a
  | _, [], _ :: _, a =>
      if d = .toml then .ok a else .error (.length total "fewer elements in array")
  | place, slot :: slots, [], a =>
      if slot.required then .error (.length place r.wanted)
      else r.readItems d total (place + 1) slots [] a
  | place, slot :: slots, j :: js, a =>
      (slot.put d j a).bind (r.readItems d total (place + 1) slots js)

/-- Reads a record in either of its forms. -/
def read (r : Record α) : Reader α
  | d, .object members => r.readObject d members
  | d, .array items => r.readItems d items.length 0 r.slots items r.blank
  | _, j => .error (.kind j ("struct " ++ r.title))

end Record

end EntityCatalog.Shape
