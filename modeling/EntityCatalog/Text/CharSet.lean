/-!
Sets of characters as data.

A property of characters is held as a list of runs of code points, ascending and apart, so that a
lookup may stop at the first run that begins beyond the character.  A run has a step, because in
many scripts the upper-case and lower-case letters alternate.
-/

namespace EntityCatalog.Text

/-- The code points `first`, `first + step`, `first + 2 * step`, … up to `last`. -/
structure Run where
  first : Nat
  last : Nat
  step : Nat
deriving Repr, DecidableEq

/-- Whether a code point lies on the run. -/
def Run.covers (r : Run) (n : Nat) : Bool :=
  r.first ≤ n && n ≤ r.last && (n - r.first) % r.step == 0

/-- Whether a code point lies on one of the runs, which are ascending. -/
def covered : List Run → Nat → Bool
  | [], _ => false
  | r :: rest, n => if n < r.first then false else r.covers n || covered rest n

/-- Each run is well formed and ends before the next one begins. -/
def Ascending : List Run → Prop
  | [] => True
  | [r] => r.first ≤ r.last ∧ 0 < r.step
  | r :: s :: rest => (r.first ≤ r.last ∧ 0 < r.step ∧ r.last < s.first) ∧ Ascending (s :: rest)

@[simp] theorem covered_nil (n : Nat) : covered [] n = false := rfl

/-- A code point below the first run is on none of them. -/
theorem covered_cons_of_lt {r : Run} {n : Nat} (rest : List Run) (h : n < r.first) :
    covered (r :: rest) n = false := by
  simp [covered, h]

end EntityCatalog.Text
