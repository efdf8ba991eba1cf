import EntityCatalog.Proofs.Text.Classes
import Mathlib.Data.List.Forall2
import Mathlib.Data.List.TakeWhile

/-!
# Words are the pieces of runs

The words of a text are found by two passes that mark boundaries, a cut at every character that may
stand in no word, and the removal of what is empty.  `Segmentation` says the same without passes: a
text has maximal runs of letters and digits, and each run is cut between two neighbours just where
`cutsBetween` says so.  `words_segmentation` is that these are the words, and no other list is such
a segmentation.

Both passes go over what they match, so a match might hide the next one, and the second pass runs
over the marks of the first.  Neither does harm, because a match ends in a character at which none
begins, and no mark is put between characters that the second pass would match
(`markAcronyms_markRises`).  What is left to say is about one pass that marks every cut
(`markCuts`): it can be done run by run, since no cut is next to a character outside the runs.
-/

namespace EntityCatalog.Naming

open Text

/-! ## Where runs are cut -/

/-- Whether a run is cut between two neighbours, in front of the rest of the run: a lower-case
letter or a digit stands before an upper-case letter, or an upper-case letter before one that begins
a word in lower case. -/
def cutsBetween (a b : Char) (next : Option Char) : Bool :=
  (isLower a || a.isDigit) && isUpper b || isUpper a && isUpper b && next.any isLower

/-- The text with a mark wherever a run is cut. -/
def markCuts : List Char → List Char
  | a :: b :: rest =>
      if cutsBetween a b rest.head? then a :: boundary :: markCuts (b :: rest)
      else a :: markCuts (b :: rest)
  | cs => cs

theorem markCuts_of_cut {a b : Char} {rest : List Char}
    (h : cutsBetween a b rest.head? = true) :
    markCuts (a :: b :: rest) = a :: boundary :: markCuts (b :: rest) := if_pos h

theorem markCuts_of_not_cut {a b : Char} {rest : List Char}
    (h : ¬ cutsBetween a b rest.head? = true) :
    markCuts (a :: b :: rest) = a :: markCuts (b :: rest) := if_neg h

/-! ## Two passes come to one -/

theorem markRises_cons_of_upper {b : Char} (hb : isUpper b = true) (rest : List Char) :
    markRises (b :: rest) = b :: markRises rest := by
  cases rest with
  | nil => rfl
  | cons c rest =>
      obtain ⟨hlower, hdigit⟩ := not_lower_of_isUpper hb
      exact if_neg (by simp [hlower, hdigit])

/-- No rise begins where one has ended, so going over a match hides none. -/
theorem markRises_cons_cons (a b : Char) (rest : List Char) :
    markRises (a :: b :: rest)
      = if (isLower a || a.isDigit) && isUpper b then a :: boundary :: markRises (b :: rest)
        else a :: markRises (b :: rest) := by
  by_cases h : ((isLower a || a.isDigit) && isUpper b) = true
  · rw [if_pos h, markRises_cons_of_upper (Bool.and_eq_true_iff.mp h).2]
    exact if_pos h
  · rw [if_neg h]
    exact if_neg h

theorem exists_markRises_cons (a : Char) (cs : List Char) :
    ∃ tail, markRises (a :: cs) = a :: tail := by
  cases cs with
  | nil => exact ⟨[], rfl⟩
  | cons b rest =>
      rw [markRises_cons_cons]
      split
      · exact ⟨_, rfl⟩
      · exact ⟨_, rfl⟩

theorem head?_markRises (cs : List Char) : (markRises cs).head? = cs.head? := by
  cases cs with
  | nil => rfl
  | cons a cs =>
      obtain ⟨tail, htail⟩ := exists_markRises_cons a cs
      rw [htail]
      rfl

theorem markAcronyms_cons_of_not_upper {a : Char} (ha : isUpper a = false) (cs : List Char) :
    markAcronyms (a :: cs) = a :: markAcronyms cs := by
  cases cs with
  | nil => rfl
  | cons b cs =>
      cases cs with
      | nil => rfl
      | cons c rest => exact if_neg (by simp [ha])

theorem markAcronyms_cons_of_next_not_upper {b : Char} (hb : isUpper b = false) (a : Char)
    (rest : List Char) : markAcronyms (a :: b :: rest) = a :: markAcronyms (b :: rest) := by
  cases rest with
  | nil => rfl
  | cons c rest => exact if_neg (by simp [hb])

/-- No acronym ends within a match or behind it but where it begins. -/
theorem markAcronyms_cons_cons (a b : Char) (rest : List Char) :
    markAcronyms (a :: b :: rest)
      = if isUpper a && isUpper b && rest.head?.any isLower then
          a :: boundary :: markAcronyms (b :: rest)
        else a :: markAcronyms (b :: rest) := by
  cases rest with
  | nil =>
      rw [List.head?_nil, Option.any_none, Bool.and_false, if_neg Bool.false_ne_true]
      rfl
  | cons c rest =>
      rw [List.head?_cons, Option.any_some]
      by_cases h : (isUpper a && isUpper b && isLower c) = true
      · have hc : isUpper c = false := by
          rw [← Bool.not_eq_true]
          intro hupper
          have hlower := (Bool.and_eq_true_iff.mp h).2
          rw [(not_lower_of_isUpper hupper).1] at hlower
          exact absurd hlower (by decide)
        rw [if_pos h, markAcronyms_cons_of_next_not_upper hc, markAcronyms_cons_of_not_upper hc]
        exact if_pos h
      · rw [if_neg h]
        exact if_neg h

/-- What the two passes do between two neighbours. -/
theorem markAcronyms_markRises_cons_cons (a b : Char) (rest : List Char) :
    markAcronyms (markRises (a :: b :: rest))
      = if cutsBetween a b rest.head? then a :: boundary :: markAcronyms (markRises (b :: rest))
        else a :: markAcronyms (markRises (b :: rest)) := by
  rw [markRises_cons_cons]
  by_cases hrise : (isLower a || a.isDigit) && isUpper b
  · -- the mark of the first pass has no upper-case letter before it, so the second passes over it
    have ha : isUpper a = false := by
      rw [← Bool.not_eq_true]
      intro hupper
      obtain ⟨hlower, hdigit⟩ := not_lower_of_isUpper hupper
      rw [hlower, hdigit, Bool.or_self, Bool.false_and] at hrise
      exact absurd hrise (by decide)
    have hboundary : isUpper boundary = false := by decide
    rw [if_pos hrise, if_pos (by rw [cutsBetween, hrise, Bool.true_or]),
      markAcronyms_cons_of_not_upper ha, markAcronyms_cons_of_not_upper hboundary]
  · rw [if_neg hrise, cutsBetween, (Bool.not_eq_true _).mp hrise, Bool.false_or]
    by_cases hb : isUpper b = true
    · -- no mark stands behind an upper-case letter, so the next character is that of the text
      rw [markRises_cons_of_upper hb, markAcronyms_cons_cons, head?_markRises]
    · obtain ⟨tail, htail⟩ := exists_markRises_cons b rest
      rw [(Bool.not_eq_true _).mp hb, Bool.and_false, Bool.false_and, if_neg (by decide), htail,
        markAcronyms_cons_of_next_not_upper ((Bool.not_eq_true _).mp hb)]

/-- The two passes mark the cuts. -/
theorem markAcronyms_markRises (cs : List Char) : markAcronyms (markRises cs) = markCuts cs := by
  induction cs with
  | nil => rfl
  | cons a cs ih =>
      cases cs with
      | nil => rfl
      | cons b rest =>
          rw [markAcronyms_markRises_cons_cons, ih]
          rfl

/-! ## Run by run -/

theorem classes_of_not_wordPart {c : Char} (h : isWordPart c = false) :
    isUpper c = false ∧ isLower c = false ∧ c.isDigit = false := by
  obtain ⟨hletter, hdigit⟩ := Bool.or_eq_false_iff.mp h
  obtain ⟨hcased, -⟩ := Bool.or_eq_false_iff.mp hletter
  obtain ⟨hupper, hlower⟩ := Bool.or_eq_false_iff.mp hcased
  exact ⟨hupper, hlower, hdigit⟩

theorem cutsBetween_of_left {a : Char} (ha : isWordPart a = false) (b : Char)
    (next : Option Char) : cutsBetween a b next = false := by
  obtain ⟨hupper, hlower, hdigit⟩ := classes_of_not_wordPart ha
  simp [cutsBetween, hupper, hlower, hdigit]

theorem cutsBetween_of_right {b : Char} (hb : isWordPart b = false) (a : Char)
    (next : Option Char) : cutsBetween a b next = false := by
  simp [cutsBetween, (classes_of_not_wordPart hb).1]

/-- What may stand in no word is to a cut as nothing at all. -/
theorem cutsBetween_of_next {next : Option Char} (h : ∀ c ∈ next, isWordPart c = false)
    (a b : Char) : cutsBetween a b next = cutsBetween a b none := by
  cases next with
  | none => rfl
  | some c => simp [cutsBetween, (classes_of_not_wordPart (h c rfl)).2.1]

theorem markCuts_cons_of_not_wordPart {c : Char} (hc : isWordPart c = false) (cs : List Char) :
    markCuts (c :: cs) = c :: markCuts cs := by
  cases cs with
  | nil => rfl
  | cons b rest => exact markCuts_of_not_cut (by simp [cutsBetween_of_left hc])

theorem exists_markCuts_cons (a : Char) (cs : List Char) :
    ∃ tail, markCuts (a :: cs) = a :: tail := by
  cases cs with
  | nil => exact ⟨[], rfl⟩
  | cons b rest =>
      by_cases hcut : cutsBetween a b rest.head? = true
      · exact ⟨_, markCuts_of_cut hcut⟩
      · exact ⟨_, markCuts_of_not_cut hcut⟩

/-- Cuts are marked apart where a text goes on outside the runs. -/
theorem markCuts_append {after : List Char} (h : ∀ c ∈ after.head?, isWordPart c = false)
    (cs : List Char) : markCuts (cs ++ after) = markCuts cs ++ markCuts after := by
  induction cs with
  | nil => rfl
  | cons a cs ih =>
      cases cs with
      | nil =>
          cases after with
          | nil => rfl
          | cons b after => exact markCuts_of_not_cut (by simp [cutsBetween_of_right (h b rfl)])
      | cons b rest =>
          have hnext : cutsBetween a b (rest ++ after).head? = cutsBetween a b rest.head? := by
            cases rest with
            | nil => exact cutsBetween_of_next h a b
            | cons c rest => rfl
          rw [List.cons_append, List.cons_append]
          by_cases hcut : cutsBetween a b rest.head? = true
          · rw [markCuts_of_cut hcut, markCuts_of_cut (hnext.trans hcut), ← List.cons_append, ih]
            rfl
          · rw [markCuts_of_not_cut hcut, markCuts_of_not_cut (hnext ▸ hcut), ← List.cons_append,
              ih]
            rfl

/-- The pieces between the cuts and outside them. -/
def segments (cs : List Char) : List (List Char) :=
  (pieces (markCuts cs)).filter fun piece => !piece.isEmpty

theorem segments_cons_of_not_wordPart {c : Char} (hc : isWordPart c = false) (cs : List Char) :
    segments (c :: cs) = segments cs := by
  rw [segments, markCuts_cons_of_not_wordPart hc, pieces_cons_of_not_wordPart hc]
  rfl

theorem segments_gap_append {gap : List Char} (h : ∀ c ∈ gap, isWordPart c = false)
    (cs : List Char) : segments (gap ++ cs) = segments cs := by
  induction gap with
  | nil => rfl
  | cons c gap ih =>
      obtain ⟨hc, hgap⟩ := List.forall_mem_cons.mp h
      rw [List.cons_append, segments_cons_of_not_wordPart hc, ih hgap]

theorem segments_append {after : List Char} (h : ∀ c ∈ after.head?, isWordPart c = false)
    (cs : List Char) : segments (cs ++ after) = segments cs ++ segments after := by
  cases after with
  | nil => rw [List.append_nil]; exact (List.append_nil _).symm
  | cons c after =>
      have hc : isWordPart c = false := h c rfl
      rw [segments_cons_of_not_wordPart hc, segments, markCuts_append h,
        markCuts_cons_of_not_wordPart hc, pieces_append_cons hc, List.filter_append]
      rfl

theorem segments_gap {gap : List Char} (h : ∀ c ∈ gap, isWordPart c = false) :
    segments gap = [] := by
  rw [← List.append_nil gap, segments_gap_append h]
  rfl

theorem segments_append_gap {gap : List Char} (h : ∀ c ∈ gap, isWordPart c = false)
    (cs : List Char) : segments (cs ++ gap) = segments cs := by
  rw [segments_append fun c hc => h c (List.mem_of_mem_head? hc), segments_gap h, List.append_nil]

/-- White space at the ends is outside the runs, so trimming it changes nothing. -/
theorem words_eq_segments (cs : List Char) : words cs = segments cs := by
  have htrimmed : words cs = segments (trimBlanks cs) := by
    rw [words, markAcronyms_markRises]
    rfl
  have hgap : ∀ ds : List Char, ∀ c ∈ ds.takeWhile isBlank, isWordPart c = false :=
    fun ds c hc => not_wordPart_of_isBlank (List.mem_takeWhile_imp hc)
  have hends : ∀ ds : List Char, ds = (ds.reverse.dropWhile isBlank).reverse
      ++ (ds.reverse.takeWhile isBlank).reverse := by
    intro ds
    rw [← List.reverse_append, List.takeWhile_append_dropWhile, List.reverse_reverse]
  calc words cs = segments (trimBlanks cs) := htrimmed
    _ = segments (cs.dropWhile isBlank) := by
        conv_rhs => rw [hends (cs.dropWhile isBlank)]
        rw [segments_append_gap fun c hc => hgap _ c (List.mem_reverse.mp hc)]
        rfl
    _ = segments cs := by
        conv_rhs => rw [← List.takeWhile_append_dropWhile (p := isBlank) (l := cs)]
        rw [segments_gap_append (hgap cs)]

/-! ## Runs -/

/-- The maximal runs of a text: between them, and at its ends, stands what may stand in no word. -/
inductive MaximalRuns : List Char → List (List Char) → Prop
  | none {gap : List Char} : (∀ c ∈ gap, isWordPart c = false) → MaximalRuns gap []
  | run {gap run rest : List Char} {runs : List (List Char)} :
      (∀ c ∈ gap, isWordPart c = false) → run ≠ [] → (∀ c ∈ run, isWordPart c = true) →
      (∀ c ∈ rest.head?, isWordPart c = false) → MaximalRuns rest runs →
        MaximalRuns (gap ++ (run ++ rest)) (run :: runs)

theorem exists_maximalRuns (cs : List Char) : ∃ runs, MaximalRuns cs runs := by
  induction cs with
  | nil => exact ⟨[], .none fun c hc => absurd hc List.not_mem_nil⟩
  | cons c cs ih =>
      obtain ⟨runs, hruns⟩ := ih
      by_cases hc : isWordPart c = true
      · have hone : ∀ d ∈ [c], isWordPart d = true := List.forall_mem_singleton.mpr hc
        have hno : ∀ d ∈ ([] : List Char), isWordPart d = false := fun d hd =>
          absurd hd List.not_mem_nil
        cases hruns with
        | none hgap =>
            exact ⟨_, .run hno (List.cons_ne_nil c []) hone
              (fun d hd => hgap d (List.mem_of_mem_head? hd)) (.none hgap)⟩
        | @run gap run rest runs hgap hne hrun hrest hruns =>
            cases gap with
            | nil =>
                exact ⟨_, .run hno (List.cons_ne_nil c run)
                  (List.forall_mem_cons.mpr ⟨hc, hrun⟩) hrest hruns⟩
            | cons g gap =>
                exact ⟨_, .run hno (List.cons_ne_nil c []) hone
                  (fun d hd => hgap d (List.mem_of_mem_head? hd)) (.run hgap hne hrun hrest hruns)⟩
      · have hfalse : isWordPart c = false := (Bool.not_eq_true _).mp hc
        cases hruns with
        | none hgap => exact ⟨[], .none (List.forall_mem_cons.mpr ⟨hfalse, hgap⟩)⟩
        | run hgap hne hrun hrest hruns =>
            exact ⟨_, .run (List.forall_mem_cons.mpr ⟨hfalse, hgap⟩) hne hrun hrest hruns⟩

theorem MaximalRuns.segments_eq {cs : List Char} {runs : List (List Char)}
    (h : MaximalRuns cs runs) : segments cs = runs.flatMap segments := by
  induction h with
  | none hgap => rw [segments_gap hgap, List.flatMap_nil]
  | run hgap _ _ hrest _ ih =>
      rw [segments_gap_append hgap, segments_append hrest, ih, List.flatMap_cons]

theorem MaximalRuns.spec_of_mem {cs : List Char} {runs : List (List Char)}
    (h : MaximalRuns cs runs) {r : List Char} (hr : r ∈ runs) :
    r ≠ [] ∧ ∀ c ∈ r, isWordPart c = true := by
  induction h with
  | none _ => exact absurd hr List.not_mem_nil
  | run _ hne hrun _ _ ih =>
      rcases List.mem_cons.mp hr with rfl | hr
      · exact ⟨hne, hrun⟩
      · exact ih hr

/-! ## Cuts -/

/-- Whether some pieces are a run that is cut wherever `cutsBetween` says so, and nowhere else. -/
structure CutInto (run : List Char) (pieces : List (List Char)) : Prop where
  joined : pieces.flatten = run
  ne_nil : ∀ piece ∈ pieces, piece ≠ []
  cuts : ∀ front a b rest, run = front ++ a :: b :: rest →
    ((∃ initial, initial <+: pieces ∧ initial.flatten = front ++ [a]) ↔
      cutsBetween a b rest.head? = true)

theorem CutInto.singleton (a : Char) : CutInto [a] [[a]] where
  joined := rfl
  ne_nil := by simp
  cuts := by
    intro front b c rest h
    have hlength := congrArg List.length h
    simp only [List.length_append, List.length_cons, List.length_nil] at hlength
    omega

/-- Pieces with which a list of pieces begins, and a first character of theirs. -/
theorem exists_initial_cons_iff {p x : List Char} {ps : List (List Char)} :
    (∃ initial, initial <+: p :: ps ∧ initial.flatten = x) ↔
      x = [] ∨ ∃ initial, initial <+: ps ∧ p ++ initial.flatten = x := by
  constructor
  · rintro ⟨initial, hinitial, rfl⟩
    rcases List.prefix_cons_iff.mp hinitial with rfl | ⟨tail, rfl, htail⟩
    · exact Or.inl rfl
    · exact Or.inr ⟨tail, htail, rfl⟩
  · rintro (rfl | ⟨initial, hinitial, rfl⟩)
    · exact ⟨[], List.nil_prefix, rfl⟩
    · exact ⟨p :: initial, List.prefix_cons_iff.mpr (Or.inr ⟨initial, rfl, hinitial⟩), rfl⟩

theorem CutInto.cut {a b : Char} {rest : List Char} {ps : List (List Char)}
    (h : CutInto (b :: rest) ps) (hcut : cutsBetween a b rest.head? = true) :
    CutInto (a :: b :: rest) ([a] :: ps) where
  joined := by rw [List.flatten_cons, h.joined, List.singleton_append]
  ne_nil := List.forall_mem_cons.mpr ⟨List.cons_ne_nil a [], h.ne_nil⟩
  cuts := by
    intro front a' b' rest' heq
    rw [exists_initial_cons_iff]
    cases front with
    | nil =>
        obtain ⟨rfl, htail⟩ := List.cons.inj heq
        obtain ⟨rfl, rfl⟩ := List.cons.inj htail
        exact iff_of_true (Or.inr ⟨[], List.nil_prefix, rfl⟩) hcut
    | cons c front =>
        obtain ⟨rfl, htail⟩ := List.cons.inj heq
        rw [← h.cuts front a' b' rest' htail]
        simp

theorem CutInto.join {a b : Char} {rest piece : List Char} {ps : List (List Char)}
    (h : CutInto (b :: rest) (piece :: ps)) (hcut : ¬ cutsBetween a b rest.head? = true) :
    CutInto (a :: b :: rest) ((a :: piece) :: ps) where
  joined := by rw [← h.joined]; rfl
  ne_nil := List.forall_mem_cons.mpr
    ⟨List.cons_ne_nil a piece, (List.forall_mem_cons.mp h.ne_nil).2⟩
  cuts := by
    intro front a' b' rest' heq
    rw [exists_initial_cons_iff]
    cases front with
    | nil =>
        obtain ⟨rfl, htail⟩ := List.cons.inj heq
        obtain ⟨rfl, rfl⟩ := List.cons.inj htail
        have hpiece := h.ne_nil piece List.mem_cons_self
        exact iff_of_false (by simp [hpiece]) hcut
    | cons c front =>
        obtain ⟨rfl, htail⟩ := List.cons.inj heq
        rw [← h.cuts front a' b' rest' htail, exists_initial_cons_iff]
        simp

/-- The pieces of a run begin with its first character. -/
theorem exists_segments_cons {b : Char} (hb : isWordPart b = true) (rest : List Char) :
    ∃ piece ps, pieces (markCuts (b :: rest)) = (b :: piece) :: ps := by
  obtain ⟨tail, htail⟩ := exists_markCuts_cons b rest
  rw [htail, pieces_cons_of_wordPart hb]
  cases pieces tail with
  | nil => exact ⟨_, _, rfl⟩
  | cons piece ps => exact ⟨_, _, rfl⟩

/-- The marks cut a run where it is to be cut. -/
theorem cutInto_segments {run : List Char} (hne : run ≠ [])
    (h : ∀ c ∈ run, isWordPart c = true) : CutInto run (segments run) := by
  obtain ⟨a, cs, rfl⟩ := List.exists_cons_of_ne_nil hne
  induction cs generalizing a with
  | nil =>
      have hsegments : segments [a] = [[a]] := by
        have hpieces := pieces_cons_of_wordPart (h a List.mem_cons_self) []
        exact congrArg (List.filter fun piece => !piece.isEmpty) hpieces
      rw [hsegments]
      exact CutInto.singleton a
  | cons b rest ih =>
      obtain ⟨ha, hrest⟩ := List.forall_mem_cons.mp h
      have hbelow := ih b (List.cons_ne_nil b rest) hrest
      obtain ⟨piece, ps, hps⟩ := exists_segments_cons (hrest b List.mem_cons_self) rest
      by_cases hcut : cutsBetween a b rest.head? = true
      · have hsegments : segments (a :: b :: rest) = [a] :: segments (b :: rest) := by
          rw [segments, markCuts_of_cut hcut, pieces_cons_of_wordPart ha,
            pieces_cons_of_not_wordPart (by decide)]
          rfl
        rw [hsegments]
        exact hbelow.cut hcut
      · have hsegments : segments (a :: b :: rest)
            = (a :: b :: piece) :: ps.filter fun piece => !piece.isEmpty := by
          rw [segments, markCuts_of_not_cut hcut, pieces_cons_of_wordPart ha, hps]
          rfl
        rw [segments, hps] at hbelow
        rw [hsegments]
        exact CutInto.join hbelow hcut

/-- The beginnings of the pieces are told by the run alone. -/
theorem CutInto.exists_initial_iff {run : List Char} {ps : List (List Char)} (h : CutInto run ps)
    (x : List Char) :
    (∃ initial, initial <+: ps ∧ initial.flatten = x) ↔
      x = [] ∨ x = run ∨ ∃ front a b rest, x = front ++ [a] ∧ run = front ++ a :: b :: rest ∧
        cutsBetween a b rest.head? = true := by
  constructor
  · rintro ⟨initial, ⟨final, rfl⟩, rfl⟩
    have hrun : run = initial.flatten ++ final.flatten := by
      rw [← h.joined, List.flatten_append]
    rcases List.eq_nil_or_concat' initial.flatten with hnil | ⟨front, a, hfront⟩
    · exact Or.inl hnil
    · cases hfinal : final.flatten with
      | nil => exact Or.inr (Or.inl (by rw [hrun, hfinal, List.append_nil]))
      | cons b rest =>
          have hplace : run = front ++ a :: b :: rest := by
            rw [hrun, hfront, hfinal, List.append_assoc, List.singleton_append]
          have hcut := (h.cuts front a b rest hplace).mp
            ⟨initial, List.prefix_append initial final, hfront⟩
          exact Or.inr (Or.inr ⟨front, a, b, rest, hfront, hplace, hcut⟩)
  · rintro (rfl | rfl | ⟨front, a, b, rest, rfl, hplace, hcut⟩)
    · exact ⟨[], List.nil_prefix, rfl⟩
    · exact ⟨ps, List.prefix_rfl, h.joined⟩
    · exact (h.cuts front a b rest hplace).mpr hcut

theorem eq_nil_of_initial_nil {x : List Char}
    (h : ∃ initial : List (List Char), initial <+: [] ∧ initial.flatten = x) : x = [] := by
  obtain ⟨initial, hinitial, rfl⟩ := h
  rw [List.prefix_nil.mp hinitial, List.flatten_nil]

/-- If the first piece is a beginning of other pieces, it begins with the first of them. -/
theorem prefix_of_initial_cons {p q : List Char} {qs : List (List Char)} (hp : p ≠ [])
    (h : ∃ initial, initial <+: q :: qs ∧ initial.flatten = p) : q <+: p := by
  rcases exists_initial_cons_iff.mp h with hnil | ⟨initial, -, hinitial⟩
  · exact absurd hnil hp
  · exact ⟨initial.flatten, hinitial⟩

/-- Pieces, none of them empty, are told by their beginnings. -/
theorem eq_of_exists_initial_iff {ps qs : List (List Char)} (hps : ∀ p ∈ ps, p ≠ [])
    (hqs : ∀ q ∈ qs, q ≠ [])
    (h : ∀ x, (∃ initial, initial <+: ps ∧ initial.flatten = x) ↔
      ∃ initial, initial <+: qs ∧ initial.flatten = x) : ps = qs := by
  have hfirst : ∀ (r : List Char) (rs : List (List Char)),
      ∃ initial, initial <+: r :: rs ∧ initial.flatten = r := fun r rs =>
    ⟨[r], List.prefix_append [r] rs, List.flatten_singleton⟩
  induction ps generalizing qs with
  | nil =>
      cases qs with
      | nil => rfl
      | cons q qs =>
          exact absurd (eq_nil_of_initial_nil ((h q).mpr (hfirst q qs))) (hqs q List.mem_cons_self)
  | cons p ps ih =>
      cases qs with
      | nil =>
          exact absurd (eq_nil_of_initial_nil ((h p).mp (hfirst p ps))) (hps p List.mem_cons_self)
      | cons q qs =>
          obtain ⟨hp, hps'⟩ := List.forall_mem_cons.mp hps
          obtain ⟨hq, hqs'⟩ := List.forall_mem_cons.mp hqs
          have hqp : q <+: p := prefix_of_initial_cons hp ((h p).mp (hfirst p ps))
          have hpq : p <+: q := prefix_of_initial_cons hq ((h q).mpr (hfirst q qs))
          obtain rfl : q = p := hqp.eq_of_length_le hpq.length_le
          refine congrArg (q :: ·) (ih hps' hqs' fun x => ?_)
          have hx := h (q ++ x)
          rw [exists_initial_cons_iff, exists_initial_cons_iff] at hx
          simpa [hq] using hx

theorem CutInto.unique {run : List Char} {ps qs : List (List Char)} (hps : CutInto run ps)
    (hqs : CutInto run qs) : ps = qs :=
  eq_of_exists_initial_iff hps.ne_nil hqs.ne_nil fun x =>
    (hps.exists_initial_iff x).trans (hqs.exists_initial_iff x).symm

/-! ## Words -/

/-- Whether some words are the pieces into which the maximal runs of a text are cut. -/
def Segmentation (cs : List Char) (ws : List (List Char)) : Prop :=
  ∃ runs cuts, MaximalRuns cs runs ∧ List.Forall₂ CutInto runs cuts ∧ ws = cuts.flatten

/-- Runs are cut in one way. -/
theorem cuts_eq_of_forall₂ {runs : List (List Char)} {cuts : List (List (List Char))}
    (h : ∀ r ∈ runs, CutInto r (segments r)) (hcuts : List.Forall₂ CutInto runs cuts) :
    cuts = runs.map segments := by
  induction hcuts with
  | nil => rfl
  | cons hcut _ ih =>
      obtain ⟨hr, hruns⟩ := List.forall_mem_cons.mp h
      rw [List.map_cons, ih hruns, hcut.unique hr]

theorem segmentation_iff (cs : List Char) (ws : List (List Char)) :
    Segmentation cs ws ↔ words cs = ws := by
  have hcut : ∀ {runs}, MaximalRuns cs runs → ∀ r ∈ runs, CutInto r (segments r) :=
    fun hruns r hr => cutInto_segments (hruns.spec_of_mem hr).1 (hruns.spec_of_mem hr).2
  constructor
  · rintro ⟨runs, cuts, hruns, hcuts, rfl⟩
    rw [words_eq_segments, hruns.segments_eq, cuts_eq_of_forall₂ (hcut hruns) hcuts,
      List.flatMap_def]
  · rintro rfl
    obtain ⟨runs, hruns⟩ := exists_maximalRuns cs
    refine ⟨runs, runs.map segments, hruns, ?_, ?_⟩
    · exact List.forall₂_map_right_iff.mpr (List.forall₂_same.mpr (hcut hruns))
    · rw [words_eq_segments, hruns.segments_eq, List.flatMap_def]

/-- The marks are not characters of words. -/
theorem filter_markCuts (cs : List Char) :
    (markCuts cs).filter isWordPart = cs.filter isWordPart := by
  induction cs with
  | nil => rfl
  | cons a cs ih =>
      cases cs with
      | nil => rfl
      | cons b rest =>
          by_cases hcut : cutsBetween a b rest.head? = true
          · rw [markCuts_of_cut hcut, List.filter_cons, List.filter_cons_of_neg (by decide), ih,
              ← List.filter_cons]
          · rw [markCuts_of_not_cut hcut, List.filter_cons, ih, ← List.filter_cons]

theorem flatten_words (cs : List Char) : (words cs).flatten = cs.filter isWordPart := by
  rw [words_eq_segments, segments, List.flatten_filter_not_isEmpty, flatten_pieces,
    filter_markCuts]

/-- **The words of a text are the pieces of its runs.**  They are what its maximal runs of letters
and digits are cut into, and nothing else is; joined, they are the text without its other
characters. -/
theorem words_segmentation (cs : List Char) (ws : List (List Char)) :
    (words cs = ws ↔ Segmentation cs ws) ∧ (words cs).flatten = cs.filter isWordPart :=
  ⟨(segmentation_iff cs ws).symm, flatten_words cs⟩

/-- Both kinds of cuts, between characters that are in no word. -/
example : words " 2ndHTTPResponse\x00(ok)".toList
    = ["2nd".toList, "HTTP".toList, "Response".toList, "ok".toList] := by
  decide

end EntityCatalog.Naming
