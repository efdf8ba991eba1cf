/-!
The shortest decimal that reads back to a double.

A double stands for the interval of reals that round to it.  The decimal sought is on the coarsest
decimal grid that has a point in that interval; of two such points it is the nearer, and of two
equally near ones the even.  All comparisons are made in natural numbers, after both sides have
been brought to one scale, so nothing here rounds.
-/

namespace EntityCatalog.Decimal

/-- A positive double as `mantissa * 2 ^ exponent`.  `narrow` holds where the double below is half
as far away as the double above. -/
structure Binary where
  mantissa : Nat
  exponent : Int
  narrow : Bool
deriving Repr, DecidableEq

/-- The magnitude of a finite double, from its bits. -/
def Binary.ofBits (bits : UInt64) : Binary :=
  let field := ((bits >>> 52) &&& 0x7FF).toNat
  let fraction := (bits &&& 0xFFFFFFFFFFFFF).toNat
  if field = 0 then ⟨fraction, -1074, false⟩
  else ⟨0x10000000000000 + fraction, (field : Int) - 1075, fraction == 0 && field > 1⟩

/-- The decimal `digits * 10 ^ exponent`. -/
structure Scaled where
  digits : Nat
  exponent : Int
deriving Repr, DecidableEq

/-- The number of decimal digits of a natural number. -/
def digitCount (n : Nat) : Nat := (Nat.toDigits 10 n).length

/-- The least `k` with `x < 10 ^ k`, for a positive `x`. -/
def Binary.scale (x : Binary) : Int :=
  let num := x.mantissa * Nat.pow 2 x.exponent.toNat
  let den := Nat.pow 2 (-x.exponent).toNat
  if den ≤ num then digitCount (num / den) else 1 - (digitCount ((den - 1) / num) : Int)

/-- The point of the grid `10 ^ p` in the rounding interval of `x` that is nearest to `x`. -/
def Binary.nearestOn? (x : Binary) (p : Int) : Option Nat :=
  let unit := Nat.pow 10 p.toNat * Nat.pow 2 (2 - x.exponent).toNat
  let quarter := Nat.pow 2 (x.exponent - 2).toNat * Nat.pow 10 (-p).toNat
  let value := 4 * x.mantissa * quarter
  let low := (4 * x.mantissa - if x.narrow then 1 else 2) * quarter
  let high := (4 * x.mantissa + 2) * quarter
  let closed := x.mantissa % 2 == 0
  let inside (d : Nat) : Bool :=
    if closed then low ≤ d * unit && d * unit ≤ high else low < d * unit && d * unit < high
  let below := value / unit
  match inside below, inside (below + 1) with
  | false, false => none
  | true, false => some below
  | false, true => some (below + 1)
  | true, true =>
      match compare (2 * value) ((2 * below + 1) * unit) with
      | .lt => some below
      | .gt => some (below + 1)
      | .eq => some (if below % 2 = 0 then below else below + 1)

/-- The search through the grids of one digit, two digits, … . -/
def Binary.search (x : Binary) (scale : Int) : (grids : Nat) → (digits : Nat) → Option Scaled
  | 0, _ => none
  | grids + 1, digits =>
      match x.nearestOn? (scale - digits) with
      | some d => some ⟨d, scale - digits⟩
      | none => x.search scale grids (digits + 1)

/-- The decimal that is equal to the double. -/
def Binary.exactly (x : Binary) : Scaled :=
  if 0 ≤ x.exponent then ⟨x.mantissa * Nat.pow 2 x.exponent.toNat, 0⟩
  else ⟨x.mantissa * Nat.pow 5 (-x.exponent).toNat, x.exponent⟩

/-- Takes up to `count` zeros from the end of the digits into the exponent. -/
def Scaled.stripZeros : (count : Nat) → Scaled → Scaled
  | 0, d => d
  | count + 1, d =>
      if d.digits ≠ 0 ∧ d.digits % 10 = 0 then stripZeros count ⟨d.digits / 10, d.exponent + 1⟩
      else d

/-- The shortest decimal of a positive double.  Seventeen digits always suffice. -/
def Binary.shortest (x : Binary) : Scaled :=
  let d := (x.search x.scale 17 1).getD x.exactly
  d.stripZeros (digitCount d.digits)

/-! ## Layout -/

/-- Numbers are written positionally while the exponent of the leading digit is at least -5 and
below 16, with a digit on each side of the point; otherwise with a signed exponent. -/
def layout (d : Scaled) : String :=
  let ds := Nat.toDigits 10 d.digits
  let count := ds.length
  let lead : Int := d.exponent + count - 1
  if -5 ≤ lead ∧ lead < 16 then
    if lead < 0 then
      "0." ++ String.ofList (List.replicate ((-lead).toNat - 1) '0' ++ ds)
    else if count ≤ lead.toNat + 1 then
      String.ofList (ds ++ List.replicate (lead.toNat + 1 - count) '0') ++ ".0"
    else
      String.ofList (ds.take (lead.toNat + 1)) ++ "." ++ String.ofList (ds.drop (lead.toNat + 1))
  else
    let fraction := ds.drop 1
    String.ofList (ds.take 1) ++ (if fraction.isEmpty then "" else "." ++ String.ofList fraction)
      ++ (if 0 ≤ lead then "e+" else "e-") ++ toString lead.natAbs

/-- The text of a finite double.  Zero keeps its sign. -/
def render (bits : UInt64) : String :=
  let sign := if bits >>> 63 = 1 then "-" else ""
  let x := Binary.ofBits bits
  sign ++ (if x.mantissa = 0 then "0.0" else layout x.shortest)

end EntityCatalog.Decimal
