import EntityCatalog.Proofs.Column.IndexStyle
import EntityCatalog.Proofs.Column.Reached
import EntityCatalog.Proofs.Resource.Provenance

/-!
# Keys between quotes

A value getter writes the keys that lead to its value one after the other, each between quotes and
otherwise as it is.  A key is any text, and the quotes that it holds itself are not doubled.  So the
keys are literals of the query just where none of them holds a quote, and elsewhere a key may end
its literal early: one that holds `'->'` reads like two keys.

What is left of unique readability is that nothing else goes wrong.  No two occurrences of the
separator `'->` overlap, so a getter is cut up in another way only where a key that the walk passes
holds the separator (`append_separator_inj`); the last key is safe, because the operator in front of
it is another one.
-/

namespace EntityCatalog

/-! ## Literals -/

/-- A text as a literal: between quotes, with the quotes that it holds doubled. -/
def literal (text : String) : String := "'" ++ Text.replaceAll "'" "''" text ++ "'"

/-- Doubling the quotes of a text, character by character. -/
theorem replaceFrom_quote_cons (c : Char) (cs : List Char) :
    Text.replaceFrom ['\''] ['\'', '\''] 0 (c :: cs)
      = (if '\'' = c then ['\'', '\''] else [c]) ++ Text.replaceFrom ['\''] ['\'', '\''] 0 cs := by
  rw [Text.replaceFrom_singleton, Text.replaceFrom_singleton, List.flatMap_cons]

theorem length_replaceFrom_quote (cs : List Char) :
    (Text.replaceFrom ['\''] ['\'', '\''] 0 cs).length = cs.length + cs.count '\'' := by
  induction cs with
  | nil => rfl
  | cons c cs ih =>
      rw [replaceFrom_quote_cons, List.length_append, ih, List.length_cons, List.count_cons]
      by_cases hc : '\'' = c
      · rw [if_pos hc, if_pos (beq_iff_eq.mpr hc.symm)]
        simp only [List.length_cons, List.length_nil]
        omega
      · rw [if_neg hc, if_neg (fun h => hc (beq_iff_eq.mp h).symm)]
        simp only [List.length_cons, List.length_nil]
        omega

theorem replaceFrom_quote_of_not_mem {cs : List Char} (h : '\'' ∉ cs) :
    Text.replaceFrom ['\''] ['\'', '\''] 0 cs = cs := by
  induction cs with
  | nil => rfl
  | cons c cs ih =>
      obtain ⟨hc, hcs⟩ := not_or.mp (fun hmem => h (List.mem_cons.mpr hmem))
      rw [replaceFrom_quote_cons, if_neg hc, ih hcs]
      rfl

theorem length_literal (text : String) :
    (literal text).length = ("'" ++ text ++ "'").length + text.toList.count '\'' := by
  have hdoubled : (Text.replaceAll "'" "''" text).length
      = text.length + text.toList.count '\'' := by
    rw [Text.replaceAll, String.length_ofList, ← String.length_toList]
    exact length_replaceFrom_quote text.toList
  rw [literal, String.length_append, String.length_append, hdoubled, String.length_append,
    String.length_append]
  omega

theorem literal_of_not_mem {text : String} (h : '\'' ∉ text.toList) :
    literal text = "'" ++ text ++ "'" := by
  have hsame : Text.replaceAll "'" "''" text = text := by
    rw [Text.replaceAll]
    exact (congrArg String.ofList (replaceFrom_quote_of_not_mem h)).trans String.ofList_toList
  rw [literal, hsame]

/-! ## Getters of scalars -/

/-- A text read as a scalar of a type. -/
def LeafType.readAs (t : LeafType) (text : String) : String :=
  match t with
  | .integer => "(" ++ text ++ ")" ++ "::integer"
  | .number => "(" ++ text ++ ")" ++ "::float"
  | _ => text

theorem LeafType.readAs_injective (t : LeafType) : Function.Injective t.readAs := by
  intro text text' h
  cases t <;> simpa [readAs] using h

/-- The steps through keys, each key being a literal. -/
def literalPath (keys : List String) : String :=
  String.join (keys.map fun key => "->" ++ literal key)

/-- What reads a scalar by keys from the document of a source, each key being a literal. -/
def literalGetter (sourceAlias : String) (parents : List String) (key : String) (t : LeafType) :
    String :=
  t.readAs (":" ++ sourceAlias ++ ".jsonb" ++ literalPath parents ++ "->>" ++ literal key)

/-- What reads the last key of a walk through keys, a scalar. -/
def walkedGetter (root : Site) (parents : List String) (key : String) (t : LeafType)
    (e : Extensions) : Option String :=
  (Getters.synthesize (root.follow (parents.map .property)) key (.leaf t) e).valueGetter

theorem walkedGetter_eq {root : Site} (hs : root.scope = .document []) {e : Extensions}
    (he : e.overridesGetters = false) (parents : List String) (key : String) (t : LeafType) :
    walkedGetter root parents key t e
      = some (t.readAs (":" ++ root.sourceAlias ++ ".jsonb" ++ keyPath parents
          ++ "->>'" ++ key ++ "'")) := by
  have hkeys : (parents.map Step.property).filterMap Step.key? = parents := by
    rw [List.filterMap_map]
    exact List.filterMap_some
  have hscope : (root.follow (parents.map .property)).scope = .document parents := by
    rw [Site.scope_follow_of_not_mem hs (by simp), hkeys, List.nil_append]
  rw [walkedGetter, synthesize_of_not_overrides he, Getters.automatic, hscope]
  dsimp only
  rw [inDocument_valueGetter, Site.sourceAlias_follow]
  unfold documentGetter
  rw [List.dropLast_concat, List.getLast?_concat]
  cases t <;> rfl

/-! ## Where every key is a literal -/

theorem literalPath_cons (key : String) (keys : List String) :
    literalPath (key :: keys) = "->" ++ literal key ++ literalPath keys := by
  simp [literalPath]

/-- Literals make a path longer by a character for each quote. -/
theorem length_literalPath (keys : List String) :
    (literalPath keys).length
      = (keyPath keys).length + (keys.flatMap String.toList).count '\'' := by
  induction keys with
  | nil => rfl
  | cons key keys ih =>
      have hstep : ("->'" : String).length = ("->" : String).length + ("'" : String).length := rfl
      rw [literalPath_cons, keyPath_cons, List.flatMap_cons, List.count_append]
      simp only [String.length_append, length_literal, ih, hstep]
      omega

theorem literalPath_of_not_mem {keys : List String} (h : ∀ k ∈ keys, '\'' ∉ k.toList) :
    literalPath keys = keyPath keys := by
  induction keys with
  | nil => rfl
  | cons key keys ih =>
      obtain ⟨hkey, hkeys⟩ := List.forall_mem_cons.mp h
      rw [literalPath_cons, keyPath_cons, ih hkeys, literal_of_not_mem hkey]
      rfl

/-- The keys of a getter are literals where none of them holds a quote, and only there. -/
theorem walkedGetter_eq_literalGetter_iff {root : Site} (hs : root.scope = .document [])
    {e : Extensions} (he : e.overridesGetters = false) (parents : List String) (key : String)
    (t : LeafType) :
    walkedGetter root parents key t e = some (literalGetter root.sourceAlias parents key t)
      ↔ ∀ k ∈ parents ++ [key], '\'' ∉ k.toList := by
  rw [walkedGetter_eq hs he, literalGetter, Option.some.injEq, t.readAs_injective.eq_iff]
  constructor
  · intro h
    -- texts that are equal are equally long, so there is no quote to double
    have hlength := congrArg String.length h
    have hoperator : ("->>'" : String).length = ("->>" : String).length + ("'" : String).length :=
      rfl
    simp only [String.length_append, length_literalPath, length_literal, hoperator] at hlength
    have hnone : ((parents ++ [key]).flatMap String.toList).count '\'' = 0 := by
      rw [List.flatMap_append, List.flatMap_singleton, List.count_append]
      omega
    intro k hk hquote
    exact List.count_eq_zero.mp hnone (List.mem_flatMap.mpr ⟨k, hk, hquote⟩)
  · intro h
    obtain ⟨hparents, hlast⟩ := List.forall_mem_append.mp h
    have hkey : '\'' ∉ key.toList := hlast key (List.mem_singleton_self key)
    rw [literalPath_of_not_mem hparents, literal_of_not_mem hkey]
    simp only [String.append_assoc]
    rfl

/-! ## Where a getter tells its keys -/

/-- Whether a key holds the text that stands between two keys. -/
def HoldsSeparator (key : List Char) : Prop := ['\'', '-', '>'] <:+: key

/-- Occurrences of the separator do not overlap: a later one begins where the earlier one does, or
behind its end. -/
theorem eq_nil_or_prefix_of_separator {w r r' : List Char}
    (h : '\'' :: '-' :: '>' :: r = w ++ '\'' :: '-' :: '>' :: r') :
    w = [] ∨ ['\'', '-', '>'] <+: w := by
  rcases w with _ | ⟨c, _ | ⟨d, _ | ⟨x, w⟩⟩⟩
  · exact Or.inl rfl
  · exact absurd (List.cons.inj (List.cons.inj h).2).1 (by decide)
  · exact absurd (List.cons.inj (List.cons.inj (List.cons.inj h).2).2).1 (by decide)
  · simp only [List.cons_append, List.cons.injEq] at h
    obtain ⟨rfl, rfl, rfl, -⟩ := h
    exact Or.inr ⟨w, rfl⟩

/-- Of two ways to cut a text at the separator, one cuts at an occurrence inside a piece of the
other. -/
theorem append_separator_inj {u u' r r' : List Char}
    (h : u ++ '\'' :: '-' :: '>' :: r = u' ++ '\'' :: '-' :: '>' :: r') :
    (u = u' ∧ r = r') ∨ HoldsSeparator u ∨ HoldsSeparator u' := by
  rcases List.append_eq_append_iff.mp h with ⟨w, rfl, hw⟩ | ⟨w, rfl, hw⟩
  · rcases eq_nil_or_prefix_of_separator hw with rfl | ⟨v, rfl⟩
    · simpa using Or.inl hw
    · exact Or.inr (Or.inr ⟨u, v, by simp⟩)
  · rcases eq_nil_or_prefix_of_separator hw with rfl | ⟨v, rfl⟩
    · simpa using Or.inl hw.symm
    · exact Or.inr (Or.inl ⟨u', v, by simp⟩)

/-- What follows the first `->` of a getter, as far as the last quote. -/
def pathChars : (parents : List (List Char)) → (key : List Char) → List Char
  | [], key => '>' :: '\'' :: key ++ ['\'']
  | k :: parents, key => '\'' :: k ++ '\'' :: '-' :: '>' :: pathChars parents key

theorem toList_path (parents : List String) (key : String) :
    (keyPath parents ++ "->>'" ++ key ++ "'").toList
      = '-' :: '>' :: pathChars (parents.map String.toList) key.toList := by
  induction parents with
  | nil => simp [keyPath, pathChars]
  | cons k parents ih =>
      rw [List.map_cons, pathChars, List.cons_append, ← ih, keyPath_cons]
      simp

theorem pathChars_inj {parents parents' : List (List Char)} {key key' : List Char}
    (h : pathChars parents key = pathChars parents' key') :
    (parents = parents' ∧ key = key') ∨ ∃ k ∈ parents ++ parents', HoldsSeparator k := by
  induction parents generalizing parents' with
  | nil =>
      cases parents' with
      | nil => exact Or.inl ⟨rfl, by simpa [pathChars] using h⟩
      | cons k' parents' => exact absurd (List.cons.inj h).1 (by decide)
  | cons k parents ih =>
      cases parents' with
      | nil => exact absurd (List.cons.inj h).1 (by decide)
      | cons k' parents' =>
          rcases append_separator_inj (List.cons.inj h).2 with ⟨rfl, hrest⟩ | hk | hk'
          · rcases ih hrest with ⟨rfl, rfl⟩ | ⟨j, hj, hholds⟩
            · exact Or.inl ⟨rfl, rfl⟩
            · refine Or.inr ⟨j, ?_, hholds⟩
              simp only [List.mem_append, List.mem_cons] at hj ⊢
              exact hj.imp Or.inr Or.inr
          · exact Or.inr ⟨k, by simp, hk⟩
          · exact Or.inr ⟨k', by simp, hk'⟩

/-- Getters that are equal come from the same keys, or a key that is passed holds the separator. -/
theorem keys_of_walkedGetter_eq {root root' : Site} (hs : root.scope = .document [])
    (hs' : root'.scope = .document []) (ha : root.sourceAlias = root'.sourceAlias)
    {e e' : Extensions} (he : e.overridesGetters = false) (he' : e'.overridesGetters = false)
    {t : LeafType} {parents parents' : List String} {key key' : String}
    (h : walkedGetter root parents key t e = walkedGetter root' parents' key' t e') :
    (parents = parents' ∧ key = key') ∨ ∃ k ∈ parents ++ parents', HoldsSeparator k.toList := by
  rw [walkedGetter_eq hs he, walkedGetter_eq hs' he', ← ha, Option.some.injEq,
    t.readAs_injective.eq_iff] at h
  have hchars := congrArg String.toList h
  simp only [String.append_assoc, String.toList_append] at hchars
  have hpath := List.append_cancel_left (List.append_cancel_left (List.append_cancel_left hchars))
  simp only [← String.toList_append, ← String.append_assoc] at hpath
  rw [toList_path, toList_path] at hpath
  rcases pathChars_inj (List.cons.inj (List.cons.inj hpath).2).2 with ⟨hparents, hkey⟩ | ⟨k, hk, hs⟩
  · exact Or.inl
      ⟨(List.map_injective_iff.mpr fun _ _ => String.toList_inj.mp) hparents,
        String.toList_inj.mp hkey⟩
  · rw [← List.map_append] at hk
    obtain ⟨k', hk', rfl⟩ := List.mem_map.mp hk
    exact Or.inr ⟨k', hk', hs⟩

/-- A key that holds the separator between two literals is read like two keys. -/
theorem exists_other_walk {root : Site} (hs : root.scope = .document []) {e : Extensions}
    (he : e.overridesGetters = false) (t : LeafType) {parents : List String} (key : String)
    (h : ∃ k ∈ parents, "'->'".toList <:+: k.toList) :
    ∃ others, others ≠ parents ∧
      walkedGetter root parents key t e = walkedGetter root others key t e := by
  obtain ⟨k, hk, first, second, hparts⟩ := h
  obtain ⟨before, after, rfl⟩ := List.append_of_mem hk
  have hkey : k = String.ofList first ++ "'->'" ++ String.ofList second := by
    apply String.toList_inj.mp
    rw [← hparts]
    simp
  refine ⟨before ++ String.ofList first :: String.ofList second :: after, ?_, ?_⟩
  · intro hsame
    have hlength := congrArg List.length hsame
    simp only [List.length_append, List.length_cons] at hlength
    omega
  · have hpath : keyPath (before ++ k :: after)
        = keyPath (before ++ String.ofList first :: String.ofList second :: after) := by
      rw [keyPath_append, keyPath_append, keyPath_cons, keyPath_cons, keyPath_cons, hkey]
      simp only [String.append_assoc]
      rfl
    rw [walkedGetter_eq hs he, walkedGetter_eq hs he, hpath]

/-- **What a getter tells of its keys.**  The getter of a scalar that is reached by keys alone has
every key as a literal just where no key holds a quote.  Two getters of one type and source are
equal only if their keys are, or if a key on the way to one of them holds the separator `'->`; and
wherever one holds it with the quote behind it, other keys have the same getter. -/
theorem walkedGetter_tells_keys {root root' : Site} (hs : root.scope = .document [])
    (hs' : root'.scope = .document []) (ha : root.sourceAlias = root'.sourceAlias)
    {e e' : Extensions} (he : e.overridesGetters = false) (he' : e'.overridesGetters = false)
    (t : LeafType) (parents parents' : List String) (key key' : String) :
    (walkedGetter root parents key t e = some (literalGetter root.sourceAlias parents key t)
      ↔ ∀ k ∈ parents ++ [key], '\'' ∉ k.toList) ∧
    (walkedGetter root parents key t e = walkedGetter root' parents' key' t e' →
      (parents = parents' ∧ key = key') ∨
        ∃ k ∈ parents ++ parents', HoldsSeparator k.toList) ∧
    ((∃ k ∈ parents, "'->'".toList <:+: k.toList) →
      ∃ others, others ≠ parents ∧
        walkedGetter root parents key t e = walkedGetter root others key t e) :=
  ⟨walkedGetter_eq_literalGetter_iff hs he parents key t, keys_of_walkedGetter_eq hs hs' ha he he',
    exists_other_walk hs he t key⟩

/-- The resource that reads a source named `src`. -/
def srcRoot : Site := { sourceAlias := "src", schemaPrefix := "$\x7btenant_id\x7d_mod_foo" }

theorem walkedGetter_tells_keys_quoted :
    srcRoot.scope = .document [] ∧ ({} : Extensions).overridesGetters = false ∧
      (walkedGetter srcRoot ["a'->'b"] "c" .string {}
          = some (literalGetter "src" ["a'->'b"] "c" .string)
        ↔ ∀ k ∈ ["a'->'b"] ++ ["c"], '\'' ∉ k.toList) ∧
      (walkedGetter srcRoot ["a'->'b"] "c" .string {}
          = walkedGetter srcRoot ["a", "b"] "c" .string {} →
        (["a'->'b"] = ["a", "b"] ∧ "c" = "c") ∨
          ∃ k ∈ ["a'->'b"] ++ ["a", "b"], HoldsSeparator k.toList) ∧
      ((∃ k ∈ ["a'->'b"], "'->'".toList <:+: k.toList) →
        ∃ others, others ≠ ["a'->'b"] ∧
          walkedGetter srcRoot ["a'->'b"] "c" .string {}
            = walkedGetter srcRoot others "c" .string {}) :=
  ⟨rfl, rfl, walkedGetter_tells_keys rfl rfl rfl rfl rfl .string ["a'->'b"] ["a", "b"] "c" "c"⟩

/-- Two walks through different keys have one getter, in which neither key of the second is a
literal of its own. -/
theorem walkedGetter_confuses_keys :
    ["a", "b"] ≠ ["a'->'b"] ∧
      walkedGetter srcRoot ["a", "b"] "c" .string {} = some ":src.jsonb->'a'->'b'->>'c'" ∧
      walkedGetter srcRoot ["a'->'b"] "c" .string {} = some ":src.jsonb->'a'->'b'->>'c'" ∧
      literalGetter "src" ["a'->'b"] "c" .string = ":src.jsonb->'a''->''b'->>'c'" := by
  decide +kernel

end EntityCatalog
