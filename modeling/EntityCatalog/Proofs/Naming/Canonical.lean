import EntityCatalog.Proofs.Naming.Segmentation

/-!
# Snake case is canonical

A text of ASCII characters has words of ASCII letters and digits, and in snake case these stand in
lower case with single underscores between them.  That spelling loses where the words began and
ended in the text, by case or by other characters; but it is one where the underscores alone say so:
nothing in it is in upper case, so no run is cut, and the pieces between the underscores are the
words again (`words_intercalate`).  So a second pass finds the same words in lower case
(`words_snakeChars`), and whatever is made of words without regard to their case is made of the
snake case as of the text itself.
-/

namespace EntityCatalog

open Text

namespace Naming

/-! ## Characters of words -/

/-- A word holds characters of its text, and of these only such as may stand in a word. -/
theorem mem_of_mem_word {cs w : List Char} (hw : w ∈ words cs) {c : Char} (hc : c ∈ w) :
    c ∈ cs ∧ isWordPart c = true := by
  have hmem : c ∈ (words cs).flatten := List.mem_flatten.mpr ⟨w, hw, hc⟩
  rw [flatten_words] at hmem
  exact List.mem_filter.mp hmem

/-! ## ASCII -/

/-- Whether a character stands in the words of a snake case: an ASCII letter in lower case, or a
digit. -/
def isSnakePart (c : Char) : Bool := c.isLower || c.isDigit

theorem toNat_lt_of_isSnakePart {c : Char} (h : isSnakePart c = true) : c.toNat < 128 := by
  obtain hlower | hdigit := Bool.or_eq_true_iff.mp h
  · have hle : c.val ≤ 'z'.val := of_decide_eq_true (Bool.and_eq_true_iff.mp hlower).2
    exact Nat.lt_of_le_of_lt (UInt32.le_iff_toNat_le.mp hle) (by decide)
  · exact toNat_lt_of_isDigit hdigit

/-- A character of a snake case stands in a word as it is. -/
theorem spec_of_isSnakePart {c : Char} (h : isSnakePart c = true) :
    isWordPart c = true ∧ isUpper c = false ∧ c.toLower = c := by
  have hall : ∀ n < 128, isSnakePart (Char.ofNat n) = true →
      isWordPart (Char.ofNat n) = true ∧ isUpper (Char.ofNat n) = false ∧
        (Char.ofNat n).toLower = Char.ofNat n := by
    decide
  exact forall_ascii (p := fun c => isSnakePart c = true →
    isWordPart c = true ∧ isUpper c = false ∧ c.toLower = c) hall (toNat_lt_of_isSnakePart h) h

/-- The lower case of an ASCII character forgets its case and nothing else. -/
theorem spec_toLower {c : Char} (hc : c.toNat < 128) :
    (isWordPart c = true → isSnakePart c.toLower = true) ∧ c.toLower.toLower = c.toLower ∧
      c.toLower.toUpper = c.toUpper ∧ c.toLower.toNat < 128 := by
  have hall : ∀ n < 128, (isWordPart (Char.ofNat n) = true →
      isSnakePart (Char.ofNat n).toLower = true) ∧
        (Char.ofNat n).toLower.toLower = (Char.ofNat n).toLower ∧
        (Char.ofNat n).toLower.toUpper = (Char.ofNat n).toUpper ∧
        (Char.ofNat n).toLower.toNat < 128 := by
    decide
  exact forall_ascii (p := fun c => (isWordPart c = true → isSnakePart c.toLower = true) ∧
    c.toLower.toLower = c.toLower ∧ c.toLower.toUpper = c.toUpper ∧ c.toLower.toNat < 128) hall hc

theorem lowerChar_ascii {c : Char} (hc : c.toNat < 128) : lowerChar c = [c.toLower] := if_pos hc

theorem upperChar_ascii {c : Char} (hc : c.toNat < 128) : upperChar c = [c.toUpper] := if_pos hc

theorem lowerFrom_ascii {before cs : List Char} (h : ∀ c ∈ cs, c.toNat < 128) :
    lowerFrom before cs = cs.map Char.toLower := by
  induction cs generalizing before with
  | nil => rfl
  | cons c cs ih =>
      obtain ⟨hc, hcs⟩ := List.forall_mem_cons.mp h
      have hne : c ≠ 'Σ' := by
        rintro rfl
        exact absurd hc (by decide)
      rw [lowerFrom, if_neg hne, lowerChar_ascii hc, ih hcs]
      rfl

theorem lowerText_ascii {cs : List Char} (h : ∀ c ∈ cs, c.toNat < 128) :
    lowerText cs = cs.map Char.toLower := lowerFrom_ascii h

/-- A word is capitalised as its lower case is. -/
theorem capitalize_lowerText {w : List Char} (h : ∀ c ∈ w, c.toNat < 128) :
    capitalize (lowerText w) = capitalize w := by
  rw [lowerText_ascii h]
  cases w with
  | nil => rfl
  | cons c w =>
      obtain ⟨hc, hw⟩ := List.forall_mem_cons.mp h
      have hlower : ∀ d ∈ w, lowerChar d.toLower = lowerChar d := by
        intro d hd
        rw [lowerChar_ascii (spec_toLower (hw d hd)).2.2.2, lowerChar_ascii (hw d hd),
          (spec_toLower (hw d hd)).2.1]
      rw [List.map_cons, capitalize, capitalize, upperChar_ascii (spec_toLower hc).2.2.2,
        upperChar_ascii hc, (spec_toLower hc).2.2.1, List.flatMap_map]
      rw [List.flatMap_congr hlower]

/-! ## The words of a snake case -/

/-- Whether a text may stand between the underscores of a snake case. -/
def IsSnakeWord (w : List Char) : Prop := w ≠ [] ∧ ∀ c ∈ w, isSnakePart c = true

theorem lowerText_of_isSnakeWord {w : List Char} (h : IsSnakeWord w) : lowerText w = w := by
  rw [lowerText_ascii fun c hc => toNat_lt_of_isSnakePart (h.2 c hc)]
  conv_rhs => rw [← List.map_id w]
  exact List.map_congr_left fun c hc => (spec_of_isSnakePart (h.2 c hc)).2.2

theorem isSnakeWord_lowerText {cs w : List Char} (hcs : ∀ c ∈ cs, c.toNat < 128)
    (hw : w ∈ words cs) : IsSnakeWord (lowerText w) := by
  refine ⟨lowerFrom_ne_nil [] (word_ne_nil hw), ?_⟩
  rw [lowerText_ascii fun c hc => hcs c (mem_of_mem_word hw hc).1]
  intro x hx
  obtain ⟨c, hc, rfl⟩ := List.mem_map.mp hx
  obtain ⟨hmem, hpart⟩ := mem_of_mem_word hw hc
  exact (spec_toLower (hcs c hmem)).1 hpart

/-- Nothing is cut where nothing is in upper case. -/
theorem markCuts_of_not_upper {cs : List Char} (h : ∀ c ∈ cs, isUpper c = false) :
    markCuts cs = cs := by
  induction cs with
  | nil => rfl
  | cons a cs ih =>
      obtain ⟨-, hcs⟩ := List.forall_mem_cons.mp h
      cases cs with
      | nil => rfl
      | cons b rest =>
          have hb : isUpper b = false := hcs b List.mem_cons_self
          rw [markCuts_of_not_cut (by simp [cutsBetween, hb]), ih hcs]

theorem pieces_of_word {w : List Char} (h : ∀ c ∈ w, isWordPart c = true) : pieces w = [w] := by
  induction w with
  | nil => rfl
  | cons c w ih =>
      obtain ⟨hc, hw⟩ := List.forall_mem_cons.mp h
      rw [pieces_cons_of_wordPart hc, ih hw]
      rfl

theorem pieces_intercalate {ws : List (List Char)} (hne : ws ≠ [])
    (h : ∀ w ∈ ws, ∀ c ∈ w, isWordPart c = true) : pieces (['_'].intercalate ws) = ws := by
  induction ws with
  | nil => exact absurd rfl hne
  | cons w ws ih =>
      obtain ⟨hw, hws⟩ := List.forall_mem_cons.mp h
      cases ws with
      | nil => rw [List.intercalate_singleton, pieces_of_word hw]
      | cons v ws =>
          rw [List.intercalate_cons_cons, List.append_assoc, List.singleton_append,
            pieces_append_cons (by decide), pieces_of_word hw, ih (List.cons_ne_nil v ws) hws,
            List.singleton_append]

/-- The words between single underscores are found again. -/
theorem words_intercalate {ws : List (List Char)} (h : ∀ w ∈ ws, IsSnakeWord w) :
    words (['_'].intercalate ws) = ws := by
  have hupper : ∀ c ∈ ['_'].intercalate ws, isUpper c = false := by
    intro c hc
    obtain rfl | ⟨w, hw, hcw⟩ := eq_or_mem_of_mem_intercalate hc
    · decide
    · exact (spec_of_isSnakePart ((h w hw).2 c hcw)).2.1
  rw [words_eq_segments, segments, markCuts_of_not_upper hupper]
  cases ws with
  | nil => rfl
  | cons v ws =>
      rw [pieces_intercalate (List.cons_ne_nil v ws)
        fun w hw c hc => (spec_of_isSnakePart ((h w hw).2 c hc)).1]
      refine List.filter_eq_self.mpr fun w hw => ?_
      simpa using (h w hw).1

theorem words_snakeChars {cs : List Char} (hcs : ∀ c ∈ cs, c.toNat < 128) :
    words (snakeChars cs) = (words cs).map lowerText := by
  refine words_intercalate fun v hv => ?_
  obtain ⟨w, hw, rfl⟩ := List.mem_map.mp hv
  exact isSnakeWord_lowerText hcs hw

theorem lowerText_lowerText {cs w : List Char} (hcs : ∀ c ∈ cs, c.toNat < 128)
    (hw : w ∈ words cs) : lowerText (lowerText w) = lowerText w :=
  lowerText_of_isSnakeWord (isSnakeWord_lowerText hcs hw)

theorem snakeChars_snakeChars {cs : List Char} (hcs : ∀ c ∈ cs, c.toNat < 128) :
    snakeChars (snakeChars cs) = snakeChars cs := by
  have hself : (words cs).map (lowerText ∘ lowerText) = (words cs).map lowerText :=
    List.map_congr_left fun w hw => lowerText_lowerText hcs hw
  rw [snakeChars, words_snakeChars hcs, List.map_map, hself]
  rfl

theorem sentenceChars_snakeChars {cs : List Char} (hcs : ∀ c ∈ cs, c.toNat < 128) :
    sentenceChars (snakeChars cs) = sentenceChars cs := by
  rw [sentenceChars, sentenceChars, words_snakeChars hcs]
  cases hwords : words cs with
  | nil => rfl
  | cons w ws =>
      have hmem : ∀ v ∈ w :: ws, v ∈ words cs := fun v hv => hwords ▸ hv
      have hfirst : capitalize (lowerText w) = capitalize w :=
        capitalize_lowerText fun c hc =>
          hcs c (mem_of_mem_word (hmem w List.mem_cons_self) hc).1
      have hrest : ws.map (lowerText ∘ lowerText) = ws.map lowerText :=
        List.map_congr_left fun v hv =>
          lowerText_lowerText hcs (hmem v (List.mem_cons_of_mem _ hv))
      rw [List.map_cons]
      dsimp only
      rw [hfirst, List.map_map, hrest]

theorem toList_snakeCase (s : String) : (snakeCase s).toList = snakeChars s.toList := by
  rw [snakeCase, String.toList_ofList]

/-- **The snake case of an ASCII text is canonical.**  It is words of lower-case letters and digits
with single underscores between them, or nothing; it is its own snake case, and it is said in a
sentence as the text is. -/
theorem snakeCase_canonical {s : String} (hs : ∀ c ∈ s.toList, c.toNat < 128) :
    (∃ ws : List String, snakeCase s = "_".intercalate ws ∧
      ∀ w ∈ ws, w ≠ "" ∧ ∀ c ∈ w.toList, c.isLower = true ∨ c.isDigit = true) ∧
    snakeCase (snakeCase s) = snakeCase s ∧ sentenceCase (snakeCase s) = sentenceCase s := by
  refine ⟨⟨(words s.toList).map fun w => String.ofList (lowerText w), ?_, ?_⟩, ?_, ?_⟩
  · apply String.toList_inj.mp
    rw [toList_snakeCase, String.toList_intercalate, List.map_map]
    have hchars : (words s.toList).map (String.toList ∘ fun w => String.ofList (lowerText w))
        = (words s.toList).map lowerText :=
      List.map_congr_left fun w _ => String.toList_ofList
    rw [hchars]
    rfl
  · intro v hv
    obtain ⟨w, hw, rfl⟩ := List.mem_map.mp hv
    obtain ⟨hne, hparts⟩ := isSnakeWord_lowerText hs hw
    rw [String.toList_ofList]
    refine ⟨fun hnil => hne (String.ofList_eq_empty_iff.mp hnil), fun c hc => ?_⟩
    exact Bool.or_eq_true_iff.mp (hparts c hc)
  · rw [snakeCase, toList_snakeCase, snakeChars_snakeChars hs]
    rfl
  · rw [sentenceCase, toList_snakeCase, sentenceChars_snakeChars hs]
    rfl

/-- Words of several kinds, with white space around them and other characters between them. -/
theorem snakeCase_canonical_isbn :
    (∀ c ∈ "  old_ISBNNumber2 (13-digit)".toList, c.toNat < 128) ∧
      snakeCase "  old_ISBNNumber2 (13-digit)" = "old_isbn_number2_13_digit" ∧
      (∃ ws : List String, "old_isbn_number2_13_digit" = "_".intercalate ws ∧
        ∀ w ∈ ws, w ≠ "" ∧ ∀ c ∈ w.toList, c.isLower = true ∨ c.isDigit = true) ∧
      snakeCase "old_isbn_number2_13_digit" = "old_isbn_number2_13_digit" ∧
      sentenceCase "old_isbn_number2_13_digit" = sentenceCase "  old_ISBNNumber2 (13-digit)" := by
  have hascii : ∀ c ∈ "  old_ISBNNumber2 (13-digit)".toList, c.toNat < 128 := by simp
  have hsnake : snakeCase "  old_ISBNNumber2 (13-digit)" = "old_isbn_number2_13_digit" := by
    decide +kernel
  have hcanonical := snakeCase_canonical hascii
  rw [hsnake] at hcanonical
  exact ⟨hascii, hsnake, hcanonical⟩

end Naming

end EntityCatalog
