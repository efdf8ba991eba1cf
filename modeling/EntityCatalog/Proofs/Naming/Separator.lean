import EntityCatalog.Label.Key
import EntityCatalog.Naming
import Mathlib.Data.List.Basic

/-!
# The double underscore separates

A qualified name is a snake-cased module name, a double underscore and a resource.  The resource is
any text at all, so the two parts can be told apart only because the first of them neither holds a
double underscore nor ends in an underscore, whatever the module is called:
`afterFirstSeparator?_snakeChars` says that the first separator of a qualified name is the one that
was put there.  `qualifiedName_append_inj` is what follows for names, and for label keys, which are
qualified names with something behind them.

The work is in the lower case of a word.  No character of a word becomes nothing, and none becomes
an underscore or a dot, which for characters beyond ASCII is a fact about the table of case shifts.
-/

namespace EntityCatalog

/-! ## What a lower case holds -/

namespace Text

theorem lowerChar_ne_nil (c : Char) : lowerChar c ≠ [] := by
  unfold lowerChar
  split
  · exact List.cons_ne_nil _ _
  · split
    · exact List.cons_ne_nil _ _
    · exact List.cons_ne_nil _ _

/-- A character that a lower case may bring in: a letter, or no character at all. -/
def Beyond (c : Char) : Prop := 95 < c.toNat ∨ c = '\x00'

/-- What holds of each ASCII character is found by looking at them all. -/
theorem forall_ascii {p : Char → Prop} (h : ∀ n < 128, p (Char.ofNat n)) {c : Char}
    (hc : c.toNat < 128) : p c := by
  have hone := h c.toNat hc
  rw [Char.ofNat_toNat] at hone
  exact hone

theorem toLower_eq_or_beyond {c : Char} (hc : c.toNat < 128) :
    c.toLower = c ∨ Beyond c.toLower := by
  have hall : ∀ n < 128, (Char.ofNat n).toLower = Char.ofNat n ∨
      95 < (Char.ofNat n).toLower.toNat := by decide
  exact (forall_ascii (p := fun c => c.toLower = c ∨ 95 < c.toLower.toNat) hall hc).imp_right Or.inl

/-- Every shift of the table leads beyond the underscore. -/
theorem lowerShifts_beyond :
    lowerShifts.all (fun s => decide ((95 : Int) < s.run.first + s.distance)) = true := by
  decide +kernel

theorem shifted_beyond {shifts : List CaseShift}
    (h : shifts.all (fun s => decide ((95 : Int) < s.run.first + s.distance)) = true) {n : Nat}
    (hn : 95 < n) : 95 < shifted shifts n := by
  induction shifts with
  | nil => exact hn
  | cons s shifts ih =>
      simp only [List.all_cons, Bool.and_eq_true, decide_eq_true_eq] at h
      obtain ⟨hs, hrest⟩ := h
      unfold shifted
      split
      · exact hn
      · split
        · omega
        · exact ih hrest

theorem beyond_ofNat {n : Nat} (hn : 95 < n) : Beyond (Char.ofNat n) := by
  by_cases hv : n.isValidChar
  · rw [Char.ofNat, dif_pos hv]
    exact Or.inl hn
  · rw [Char.ofNat, dif_neg hv]
    exact Or.inr rfl

theorem eq_or_beyond_of_mem_lowerChar {c x : Char} (h : x ∈ lowerChar c) : x = c ∨ Beyond x := by
  unfold lowerChar at h
  split at h
  · rename_i hascii
    rw [List.mem_singleton.mp h]
    exact toLower_eq_or_beyond hascii
  · split at h
    · right
      rcases List.mem_cons.mp h with rfl | h
      · exact Or.inl (by decide)
      · rw [List.mem_singleton.mp h]
        exact beyond_ofNat (by decide)
    · rename_i hascii _
      rw [List.mem_singleton.mp h]
      exact Or.inr (beyond_ofNat (shifted_beyond lowerShifts_beyond (by omega)))

theorem lowerFrom_ne_nil (before : List Char) {cs : List Char} (h : cs ≠ []) :
    lowerFrom before cs ≠ [] := by
  cases cs with
  | nil => exact absurd rfl h
  | cons c rest =>
      unfold lowerFrom
      split
      · exact List.cons_ne_nil _ _
      · exact fun hnil => lowerChar_ne_nil c (List.append_eq_nil_iff.mp hnil).1

theorem mem_or_beyond_of_mem_lowerFrom {cs : List Char} :
    ∀ {before : List Char} {x : Char}, x ∈ lowerFrom before cs → x ∈ cs ∨ Beyond x := by
  induction cs with
  | nil => exact fun h => absurd h List.not_mem_nil
  | cons c rest ih =>
      intro before x h
      unfold lowerFrom at h
      split at h
      · rcases List.mem_cons.mp h with rfl | h
        · right
          split
          · exact Or.inl (by decide)
          · exact Or.inl (by decide)
        · exact (ih h).imp_left (List.mem_cons_of_mem c)
      · rcases List.mem_append.mp h with h | h
        · rcases eq_or_beyond_of_mem_lowerChar h with rfl | hbeyond
          · exact Or.inl List.mem_cons_self
          · exact Or.inr hbeyond
        · exact (ih h).imp_left (List.mem_cons_of_mem c)

end Text

namespace Naming

open Text Label

/-! ## What a word holds -/

/-- The pieces hold the characters that may stand in a word, in order. -/
theorem flatten_pieces (cs : List Char) : (pieces cs).flatten = cs.filter isWordPart := by
  induction cs with
  | nil => rfl
  | cons c rest ih =>
      by_cases hc : isWordPart c = true
      · rw [pieces_cons_of_wordPart hc, List.filter_cons_of_pos hc, ← ih]
        cases pieces rest with
        | nil => rfl
        | cons piece others => rfl
      · rw [pieces_cons_of_not_wordPart ((Bool.not_eq_true _).mp hc), List.filter_cons_of_neg hc,
          ← ih]
        rfl

/-- A character that may stand in no word ends a piece. -/
theorem pieces_append_cons {sep : Char} (h : isWordPart sep = false) (cs rest : List Char) :
    pieces (cs ++ sep :: rest) = pieces cs ++ pieces rest := by
  induction cs with
  | nil => exact pieces_cons_of_not_wordPart h rest
  | cons c cs ih =>
      rw [List.cons_append]
      by_cases hc : isWordPart c = true
      · rw [pieces_cons_of_wordPart hc, pieces_cons_of_wordPart hc, ih]
        cases hcs : pieces cs with
        | nil => exact absurd hcs (pieces_ne_nil cs)
        | cons piece others => rfl
      · rw [pieces_cons_of_not_wordPart ((Bool.not_eq_true _).mp hc),
          pieces_cons_of_not_wordPart ((Bool.not_eq_true _).mp hc), ih]
        rfl

theorem mem_of_mem_pieces {cs piece : List Char} (hp : piece ∈ pieces cs) {c : Char}
    (hc : c ∈ piece) : c ∈ cs ∧ isWordPart c = true := by
  have hmem : c ∈ (pieces cs).flatten := List.mem_flatten.mpr ⟨piece, hp, hc⟩
  rw [flatten_pieces] at hmem
  exact List.mem_filter.mp hmem

/-- What may not stand in a word, and is not brought in by the lower case, is not in a word in
lower case. -/
theorem not_mem_lowerText_word {cs w : List Char} (hw : w ∈ words cs) {x : Char}
    (hx : isWordPart x = false) (hb : ¬ Beyond x) : x ∉ lowerText w := by
  intro hmem
  rcases mem_or_beyond_of_mem_lowerFrom hmem with hmem | hbeyond
  · rw [(mem_of_mem_pieces (List.mem_filter.mp hw).1 hmem).2] at hx
    exact absurd hx (by decide)
  · exact hb hbeyond

theorem word_ne_nil {cs w : List Char} (h : w ∈ words cs) : w ≠ [] := by
  have hne := (List.mem_filter.mp h).2
  rintro rfl
  exact absurd hne (by decide)

/-! ## The first separator -/

theorem afterFirstSeparator?_cons_of_ne {c : Char} (hc : c ≠ '_') (rest : List Char) :
    afterFirstSeparator? (c :: rest) = afterFirstSeparator? rest := by
  rw [afterFirstSeparator?.eq_2]
  exact fun tail h _ => hc h

theorem afterFirstSeparator?_append {w : List Char} (hw : '_' ∉ w) (rest : List Char) :
    afterFirstSeparator? (w ++ rest) = afterFirstSeparator? rest := by
  induction w with
  | nil => rfl
  | cons c w ih =>
      obtain ⟨hc, hw⟩ := not_or.mp (List.mem_cons.not.mp hw)
      rw [List.cons_append, afterFirstSeparator?_cons_of_ne (Ne.symm hc), ih hw]

/-- A single underscore in front of a word is no separator. -/
theorem afterFirstSeparator?_underscore {w : List Char} (hne : w ≠ []) (hw : '_' ∉ w)
    (rest : List Char) :
    afterFirstSeparator? ('_' :: (w ++ rest)) = afterFirstSeparator? (w ++ rest) := by
  cases w with
  | nil => exact absurd rfl hne
  | cons c w =>
      have hc : c ≠ '_' := fun h => hw (h ▸ List.mem_cons_self)
      rw [List.cons_append, afterFirstSeparator?.eq_2]
      intro tail _ h
      exact hc (List.cons.inj h).1

theorem intercalate_eq_append (sep w : List Char) (ws : List (List Char)) :
    ∃ tail, sep.intercalate (w :: ws) = w ++ tail := by
  cases ws with
  | nil => exact ⟨[], by simp⟩
  | cons v ws => exact ⟨sep ++ sep.intercalate (v :: ws), by simp⟩

/-- Words that are joined by single underscores hold no separator, and none begins at their end. -/
theorem afterFirstSeparator?_intercalate (ws : List (List Char)) (rest : List Char)
    (hne : ∀ w ∈ ws, w ≠ []) (hu : ∀ w ∈ ws, '_' ∉ w) :
    afterFirstSeparator? (['_'].intercalate ws ++ '_' :: '_' :: rest) = some rest := by
  induction ws with
  | nil => rfl
  | cons w ws ih =>
      have hw := hu w List.mem_cons_self
      have ih := ih (fun v hv => hne v (List.mem_cons_of_mem _ hv))
        (fun v hv => hu v (List.mem_cons_of_mem _ hv))
      cases ws with
      | nil =>
          rw [List.intercalate_singleton, afterFirstSeparator?_append hw]
          rfl
      | cons v ws =>
          have hv : v ∈ w :: v :: ws := List.mem_cons_of_mem _ List.mem_cons_self
          obtain ⟨tail, htail⟩ := intercalate_eq_append ['_'] v ws
          rw [List.intercalate_cons_cons, List.append_assoc, List.append_assoc,
            afterFirstSeparator?_append hw]
          rw [htail, List.append_assoc] at ih ⊢
          rw [List.singleton_append, afterFirstSeparator?_underscore (hne v hv) (hu v hv), ih]

theorem afterFirstSeparator?_snakeChars (cs rest : List Char) :
    afterFirstSeparator? (snakeChars cs ++ '_' :: '_' :: rest) = some rest := by
  refine afterFirstSeparator?_intercalate _ rest ?_ ?_
  · intro v hv
    obtain ⟨w, hw, rfl⟩ := List.mem_map.mp hv
    exact lowerFrom_ne_nil [] (word_ne_nil hw)
  · intro v hv
    obtain ⟨w, hw, rfl⟩ := List.mem_map.mp hv
    exact not_mem_lowerText_word hw (by decide) (by rw [Beyond]; decide)

/-! ## No dot -/

theorem eq_or_mem_of_mem_intercalate {x y : Char} {ws : List (List Char)}
    (h : x ∈ [y].intercalate ws) : x = y ∨ ∃ w ∈ ws, x ∈ w := by
  induction ws with
  | nil => exact absurd h List.not_mem_nil
  | cons w ws ih =>
      cases ws with
      | nil =>
          rw [List.intercalate_singleton] at h
          exact Or.inr ⟨w, List.mem_cons_self, h⟩
      | cons v ws =>
          rw [List.intercalate_cons_cons, List.mem_append, List.mem_append] at h
          rcases h with (h | h) | h
          · exact Or.inr ⟨w, List.mem_cons_self, h⟩
          · exact Or.inl (List.mem_singleton.mp h)
          · obtain heq | ⟨u, hu, hxu⟩ := ih h
            · exact Or.inl heq
            · exact Or.inr ⟨u, List.mem_cons_of_mem w hu, hxu⟩

theorem dot_not_mem_snakeChars (cs : List Char) : '.' ∉ snakeChars cs := by
  intro h
  obtain heq | ⟨v, hv, hdot⟩ := eq_or_mem_of_mem_intercalate h
  · exact absurd heq (by decide)
  · obtain ⟨w, hw, rfl⟩ := List.mem_map.mp hv
    exact not_mem_lowerText_word hw (by decide) (by rw [Beyond]; decide) hdot

/-! ## Qualified names -/

theorem toList_qualifiedName (moduleName resource : String) :
    (qualifiedName moduleName resource).toList
      = snakeChars moduleName.toList ++ '_' :: '_' :: resource.toList := by
  simp [qualifiedName, snakeCase]

/-- What stands behind the separator of a qualified name, and the module in front of it, are read
off the name, whatever follows it. -/
theorem qualifiedName_append_inj {m m' r r' s s' : String}
    (h : qualifiedName m r ++ s = qualifiedName m' r' ++ s') :
    snakeCase m = snakeCase m' ∧ r ++ s = r' ++ s' := by
  have hl := congrArg String.toList h
  simp only [String.toList_append, toList_qualifiedName, List.append_assoc, List.cons_append] at hl
  have hr := congrArg afterFirstSeparator? hl
  rw [afterFirstSeparator?_snakeChars, afterFirstSeparator?_snakeChars, Option.some.injEq] at hr
  rw [hr] at hl
  refine ⟨?_, ?_⟩
  · rw [snakeCase, snakeCase, List.append_cancel_right hl]
  · exact String.toList_inj.mp (by simpa using hr)

theorem qualifiedName_inj {m m' r r' : String} :
    qualifiedName m r = qualifiedName m' r' ↔ snakeCase m = snakeCase m' ∧ r = r' := by
  constructor
  · intro h
    have happ : qualifiedName m r ++ "" = qualifiedName m' r' ++ "" := by rw [h]
    obtain ⟨hm, hr⟩ := qualifiedName_append_inj happ
    exact ⟨hm, by simpa using hr⟩
  · rintro ⟨hm, rfl⟩
    rw [qualifiedName, qualifiedName, hm]

end Naming

end EntityCatalog
