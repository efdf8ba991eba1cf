import EntityCatalog.Uuid.Digest

/-!
Universally unique identifiers.

An identifier is thirty-two hexadecimal digits.  It is printed in lower case in groups of 8, 4, 4,
4 and 12, and read in four layouts: the bare digits, the groups, the groups in braces, and the
groups behind `urn:uuid:`.  `ofName` makes the identifier of a name inside a namespace, the same
one each time.
-/

namespace EntityCatalog

/-- A universally unique identifier. -/
structure Uuid where
  digits : List (Fin 16)
  length_digits : digits.length = 32
deriving DecidableEq, Repr

namespace Uuid

/-- The identifier whose digits are those of a number. -/
def ofNat (n : Nat) : Uuid :=
  ⟨(List.range 32).reverse.map fun i => Fin.ofNat 16 (n / Nat.pow 16 i), by simp⟩

instance : Inhabited Uuid := ⟨ofNat 0⟩

/-! ## Writing -/

/-- A digit in lower case. -/
def digitChar (d : Fin 16) : Char := Nat.digitChar d.val

/-- The digits in groups, joined by hyphens. -/
def grouped (cs : List Char) : List Char :=
  cs.take 8 ++ '-' :: (cs.drop 8).take 4 ++ '-' :: (cs.drop 12).take 4
    ++ '-' :: (cs.drop 16).take 4 ++ '-' :: cs.drop 20

/-- The printed form. -/
def render (u : Uuid) : String := String.ofList (grouped (u.digits.map digitChar))

/-! ## Reading -/

/-- Why a text is no identifier. -/
inductive Malformed where
  /-- The text has a character that no layout has there, counted from zero. -/
  | character (found : Char) (index : Nat)
  /-- Bare digits, but not thirty-two, or more bytes than any layout has. -/
  | length (found : Nat)
  /-- Groups, but not five. -/
  | groupCount (found : Nat)
  /-- Five groups, of which one is too short or too long. -/
  | groupLength (group expected found : Nat)
deriving DecidableEq, Repr

/-- The reason in words. -/
def Malformed.message : Malformed → String
  | .character c i => "invalid character: found `" ++ c.toString ++ "` at " ++ toString i
  | .length n => "invalid length: found " ++ toString n
  | .groupCount n => "invalid group count: expected 5, found " ++ toString n
  | .groupLength g e f =>
      "invalid group length in group " ++ toString g ++ ": expected " ++ toString e
        ++ ", found " ++ toString f

/-- The value of a hexadecimal digit. -/
def digit? (c : Char) : Option (Fin 16) :=
  if c.isDigit then some (Fin.ofNat 16 (c.toNat - 48))
  else if 'a' ≤ c ∧ c ≤ 'f' then some (Fin.ofNat 16 (c.toNat - 87))
  else if 'A' ≤ c ∧ c ≤ 'F' then some (Fin.ofNat 16 (c.toNat - 55))
  else none

/-- The prefix of the fourth layout. -/
def urn : List Char := "urn:uuid:".toList

/-- The number of bytes of a text. -/
def size (cs : List Char) : Nat := (String.ofList cs).utf8ByteSize

/-- The number of bytes of five groups with their hyphens. -/
def groupedSize : Nat := 36

/-- The number of bytes of the longest layout. -/
def maxSize : Nat := urn.length + groupedSize

/-- The part of a text that holds the digits. -/
structure Body where
  chars : List Char
  /-- The place that its first character is said to have. -/
  start : Nat
  /-- Whether it may be bare digits. -/
  alone : Bool
deriving DecidableEq, Repr

/-- The groups that begin some way in.  What has the size of groups is counted by itself. -/
def Body.groups (cs : List Char) (start : Nat) : Body :=
  ⟨cs, if size cs = groupedSize then 0 else start, false⟩

/-- The part of a text that holds the digits.  A text of the size of groups has nothing around
them. -/
def inner (cs : List Char) : Body :=
  if size cs = groupedSize then .groups cs 0
  else if cs.head? = some '\x7b' ∧ cs.getLast? = some '\x7d' ∧ 2 ≤ cs.length then
    .groups (cs.drop 1).dropLast 1
  else if (cs.take urn.length).map Char.toLower = urn then .groups (cs.drop urn.length) urn.length
  else ⟨cs, 0, true⟩

/-- The groups of a text between its hyphens. -/
def groups : List Char → List (List Char)
  | [] => [[]]
  | c :: rest =>
      match groups rest with
      | [] => [[c]]
      | g :: gs => if c = '-' then [] :: g :: gs else (c :: g) :: gs

/-- The number of digits of each group. -/
def groupLengths : List Nat := [8, 4, 4, 4, 12]

/-- The first character that no layout has, with its place. -/
def firstForeign? (cs : List Char) : Option (Char × Nat) :=
  (cs.zipIdx).find? fun (c, _) => (digit? c).isNone && c ≠ '-'

/-- The first group that has not its length, where the last is said to have all of the text's
`total` bytes but those of the others. -/
def firstMisfit? (total : Nat) (gs : List (List Char)) : Option (Nat × Nat × Nat) :=
  ((gs.zip groupLengths).zipIdx.find? fun ((g, n), _) => g.length ≠ n).map
    fun ((g, n), i) => (i, n, if i = 4 then total - 24 else g.length)

/-- Reads an identifier. -/
def parse (text : String) : Except Malformed Uuid :=
  let total := size text.toList
  let body := inner text.toList
  let gs := groups body.chars
  let digits := gs.flatten.filterMap digit?
  if maxSize < total then .error (.length total)
  else
    match firstForeign? body.chars with
    | some (c, i) => .error (.character c (i + body.start))
    | none =>
        if gs.length = 1 ∧ body.alone then
          if h : digits.length = 32 then .ok ⟨digits, h⟩ else .error (.length total)
        else if gs.length ≠ 5 then .error (.groupCount gs.length)
        else
          match firstMisfit? total gs with
          | some (i, expected, found) => .error (.groupLength i expected found)
          | none => if h : digits.length = 32 then .ok ⟨digits, h⟩ else .error (.length total)

/-! ## Bytes -/

/-- The bytes that the digits write. -/
def pairs : List (Fin 16) → List UInt8
  | hi :: lo :: rest => UInt8.ofNat (hi.val * 16 + lo.val) :: pairs rest
  | _ => []

/-- The digits of a byte. -/
def digitsOfByte (b : UInt8) : List (Fin 16) :=
  [Fin.ofNat 16 (b.toNat / 16), Fin.ofNat 16 b.toNat]

/-- The identifier of sixteen bytes. -/
def ofBytes? (bytes : List UInt8) : Option Uuid :=
  if h : (bytes.flatMap digitsOfByte).length = 32 then some ⟨bytes.flatMap digitsOfByte, h⟩
  else none

/-! ## Identifiers of names -/

/-- The digit that tells how an identifier was made, and the two bits that tell its layout. -/
def stamp (ds : List (Fin 16)) : List (Fin 16) :=
  ds.mapIdx fun i d => if i = 12 then 5 else if i = 16 then Fin.ofNat 16 (8 + d.val % 4) else d

/-- The identifier of a name inside a namespace: the first half of the digest of both, stamped. -/
def ofName (space : Uuid) (name : String) : Uuid :=
  let digest := Digest.sha1 (pairs space.digits ++ name.toUTF8.toList)
  let ds := (digest.flatMap digitsOfByte).take 32
  let padded := (ds ++ List.replicate 32 0).take 32
  ⟨stamp padded, by simp [padded, stamp]⟩

end Uuid

end EntityCatalog
