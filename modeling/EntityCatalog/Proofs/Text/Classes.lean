import EntityCatalog.Proofs.Naming.Separator
import EntityCatalog.Text.Blank

/-!
# Classes of characters that are apart

No letter is both in upper case and in lower case, none in upper case is a digit, and no white space
is a letter or a digit.  Beyond ASCII these are facts about tables of runs.  Two tables are apart if
a walk along both finds no common code point (`not_covered_of_apart`): the runs of the second that
end before a run of the first begins are left behind for good, and those that begin after it ends
are not looked at yet.
-/

namespace EntityCatalog.Text

/-! ## Tables -/

/-- The code points of a run. -/
def Run.points (r : Run) : List Nat :=
  (List.range ((r.last - r.first) / r.step + 1)).map fun i => r.first + r.step * i

theorem Run.covers_iff {r : Run} {n : Nat} :
    r.covers n = true ↔ (r.first ≤ n ∧ n ≤ r.last) ∧ (n - r.first) % r.step = 0 := by
  simp [covers]

theorem Run.mem_points {r : Run} {n : Nat} (h : r.covers n = true) : n ∈ r.points := by
  obtain ⟨⟨hfirst, hlast⟩, hstep⟩ := covers_iff.mp h
  refine List.mem_map.mpr ⟨(n - r.first) / r.step, List.mem_range.mpr ?_, ?_⟩
  · exact Nat.lt_succ_of_le (Nat.div_le_div_right (by omega))
  · have hdiv := Nat.div_add_mod (n - r.first) r.step
    omega

/-- Whether no code point of a run is on another. -/
def Run.misses (r s : Run) : Bool := r.points.all fun n => !s.covers n

/-- Whether no code point is found on runs of both tables. -/
def apart : List Run → List Run → Bool
  | [], _ => true
  | r :: rs, ss =>
      ((ss.dropWhile (·.last < r.first)).takeWhile (·.first ≤ r.last)).all r.misses
        && apart rs (ss.dropWhile (·.last < r.first))

theorem covered_cons_iff {r : Run} {rs : List Run} {n : Nat} :
    covered (r :: rs) n = true ↔ r.first ≤ n ∧ (r.covers n = true ∨ covered rs n = true) := by
  by_cases h : n < r.first
  · rw [covered_cons_of_lt rs h]
    exact iff_of_false Bool.false_ne_true fun hcovered => Nat.not_le.mpr h hcovered.1
  · rw [covered, if_neg h, Bool.or_eq_true]
    exact (and_iff_right (Nat.not_lt.mp h)).symm

/-- Runs that end before a code point are left behind. -/
theorem covered_dropWhile {rs : List Run} {m n : Nat} (hmn : m ≤ n) (h : covered rs n = true) :
    covered (rs.dropWhile (·.last < m)) n = true := by
  induction rs with
  | nil => exact h
  | cons r rs ih =>
      by_cases hlast : r.last < m
      · rw [List.dropWhile_cons_of_pos (by simpa using hlast)]
        rcases (covered_cons_iff.mp h).2 with hr | hrs
        · have hn := (Run.covers_iff.mp hr).1.2
          omega
        · exact ih hrs
      · rwa [List.dropWhile_cons_of_neg (by simpa using hlast)]

/-- A code point is on one of the runs that begin no later. -/
theorem exists_covers_takeWhile {rs : List Run} {m n : Nat} (hmn : n ≤ m)
    (h : covered rs n = true) : ∃ r ∈ rs.takeWhile (·.first ≤ m), r.covers n = true := by
  induction rs with
  | nil => exact absurd h (by simp)
  | cons r rs ih =>
      obtain ⟨hfirst, hcovers⟩ := covered_cons_iff.mp h
      rw [List.takeWhile_cons_of_pos (by simpa using Nat.le_trans hfirst hmn)]
      rcases hcovers with hr | hrs
      · exact ⟨r, List.mem_cons_self, hr⟩
      · obtain ⟨s, hs, hsn⟩ := ih hrs
        exact ⟨s, List.mem_cons_of_mem _ hs, hsn⟩

theorem not_covered_of_apart {rs ss : List Run} (hapart : apart rs ss = true) {n : Nat}
    (h : covered rs n = true) : covered ss n = false := by
  rw [← Bool.not_eq_true]
  intro hss
  induction rs generalizing ss with
  | nil => exact absurd h (by simp)
  | cons r rs ih =>
      obtain ⟨hmiss, hrest⟩ := Bool.and_eq_true_iff.mp hapart
      obtain ⟨hfirst, hr | hrs⟩ := covered_cons_iff.mp h
      · have hlast := (Run.covers_iff.mp hr).1.2
        obtain ⟨s, hs, hsn⟩ := exists_covers_takeWhile hlast (covered_dropWhile hfirst hss)
        have hnone := List.all_eq_true.mp (List.all_eq_true.mp hmiss s hs) n (Run.mem_points hr)
        rw [hsn] at hnone
        exact absurd hnone (by decide)
      · exact ih hrest hrs (covered_dropWhile hfirst hss)

theorem tables_apart : apart upperRuns lowerRuns = true ∧
    ∀ letterRuns ∈ [upperRuns, lowerRuns, caselessRuns], apart blankRuns letterRuns = true := by
  decide +kernel

theorem not_covered_letters {n : Nat} (h : covered blankRuns n = true) :
    covered upperRuns n = false ∧ covered lowerRuns n = false ∧ covered caselessRuns n = false :=
  ⟨not_covered_of_apart (tables_apart.2 _ (by simp)) h,
    not_covered_of_apart (tables_apart.2 _ (by simp)) h,
    not_covered_of_apart (tables_apart.2 _ (by simp)) h⟩

/-! ## Characters -/

theorem toNat_lt_of_isDigit {c : Char} (h : c.isDigit = true) : c.toNat < 128 := by
  have hle : c.val ≤ '9'.val := of_decide_eq_true (Bool.and_eq_true_iff.mp h).2
  exact Nat.lt_of_le_of_lt (UInt32.le_iff_toNat_le.mp hle) (by decide)

theorem not_digit_of_not_ascii {c : Char} (h : ¬ c.toNat < 128) : c.isDigit = false :=
  (Bool.not_eq_true _).mp fun hdigit => h (toNat_lt_of_isDigit hdigit)

/-- An upper-case letter is neither a lower-case letter nor a digit. -/
theorem not_lower_of_isUpper {c : Char} (h : isUpper c = true) :
    isLower c = false ∧ c.isDigit = false := by
  by_cases hc : c.toNat < 128
  · have hall : ∀ n < 128, isUpper (Char.ofNat n) = true →
        isLower (Char.ofNat n) = false ∧ (Char.ofNat n).isDigit = false := by decide
    exact forall_ascii (p := fun c => isUpper c = true → isLower c = false ∧ c.isDigit = false)
      hall hc h
  · rw [isUpper, if_neg hc] at h
    rw [isLower, if_neg hc]
    exact ⟨not_covered_of_apart tables_apart.1 h, not_digit_of_not_ascii hc⟩

/-- White space stands in no word. -/
theorem not_wordPart_of_isBlank {c : Char} (h : isBlank c = true) :
    Naming.isWordPart c = false := by
  by_cases hc : c.toNat < 128
  · have hall : ∀ n < 128, isBlank (Char.ofNat n) = true →
        Naming.isWordPart (Char.ofNat n) = false := by decide
    exact forall_ascii (p := fun c => isBlank c = true → Naming.isWordPart c = false) hall hc h
  · obtain ⟨hupper, hlower, hcaseless⟩ := not_covered_letters h
    rw [Naming.isWordPart, not_digit_of_not_ascii hc, isLetter, isUpper, if_neg hc, isLower,
      if_neg hc, hupper, hlower, hcaseless, Bool.and_false]
    rfl

end EntityCatalog.Text
