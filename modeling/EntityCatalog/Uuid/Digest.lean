/-!
The SHA-1 digest, over which identifiers made from names are built.

The message is padded to whole blocks of 64 bytes, and each block is mixed into a state of five
words in eighty rounds.
-/

namespace EntityCatalog.Uuid.Digest

/-- The five words that the blocks are mixed into. -/
structure State where
  a : UInt32
  b : UInt32
  c : UInt32
  d : UInt32
  e : UInt32

/-- The state before the first block. -/
def State.initial : State := ⟨0x67452301, 0xEFCDAB89, 0x98BADCFE, 0x10325476, 0xC3D2E1F0⟩

/-- The bits of a word turned left. -/
def rotate (x : UInt32) (n : UInt32) : UInt32 := (x <<< n) ||| (x >>> (32 - n))

/-- The bytes of a number, most significant first. -/
def bytesOf (count n : Nat) : List UInt8 :=
  (List.range count).reverse.map fun i => UInt8.ofNat (n / Nat.pow 256 i)

/-- The message with a set bit, zeros up to whole blocks, and its length in bits. -/
def pad (message : List UInt8) : List UInt8 :=
  let zeros := (119 - message.length % 64) % 64
  message ++ [0x80] ++ List.replicate zeros 0 ++ bytesOf 8 (8 * message.length)

/-- The words of a block, four bytes each. -/
def wordsOf : List UInt8 → List UInt32
  | a :: b :: c :: d :: rest =>
      ((a.toUInt32 <<< 24) ||| (b.toUInt32 <<< 16) ||| (c.toUInt32 <<< 8) ||| d.toUInt32)
        :: wordsOf rest
  | _ => []

/-- The eighty words of a block's rounds: its own sixteen, and mixtures of the ones before. -/
def schedule (block : List UInt8) : Array UInt32 :=
  (List.range 64).foldl
    (fun w i =>
      let word (back : Nat) := w.getD (16 + i - back) 0
      w.push (rotate (word 3 ^^^ word 8 ^^^ word 14 ^^^ word 16) 1))
    (wordsOf block).toArray

/-- The mixing function and the constant of a round. -/
def roundRule (i : Nat) (b c d : UInt32) : UInt32 × UInt32 :=
  if i < 20 then ((b &&& c) ||| (~~~b &&& d), 0x5A827999)
  else if i < 40 then (b ^^^ c ^^^ d, 0x6ED9EBA1)
  else if i < 60 then ((b &&& c) ||| (b &&& d) ||| (c &&& d), 0x8F1BBCDC)
  else (b ^^^ c ^^^ d, 0xCA62C1D6)

/-- The state after a block. -/
def State.mix (s : State) (block : List UInt8) : State :=
  let w := schedule block
  let t := (List.range 80).foldl
    (fun (t : State) i =>
      let (f, k) := roundRule i t.b t.c t.d
      ⟨rotate t.a 5 + f + t.e + k + w.getD i 0, t.a, rotate t.b 30, t.c, t.d⟩) s
  ⟨s.a + t.a, s.b + t.b, s.c + t.c, s.d + t.d, s.e + t.e⟩

/-- The digest of a message, twenty bytes. -/
def sha1 (message : List UInt8) : List UInt8 :=
  let bytes := pad message
  let blocks := (List.range (bytes.length / 64)).map fun i => (bytes.drop (64 * i)).take 64
  let s := blocks.foldl State.mix State.initial
  [s.a, s.b, s.c, s.d, s.e].flatMap fun word => bytesOf 4 word.toNat

end EntityCatalog.Uuid.Digest
