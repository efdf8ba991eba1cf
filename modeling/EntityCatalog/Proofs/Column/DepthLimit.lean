import EntityCatalog.Proofs.Column.Reached

/-!
# The limit on nesting

Inference looks at so many levels and takes what is below for a text.  The limit is tight: a type
nests as deep as there are levels and no deeper, and every node that is cut off there, and no other,
is reported.  And it is transparent: where no node is cut off, nothing tells that there is a limit.

What inference would be without one is `unlimitedType`.  A schema is finite, so the recursion ends
anyway, and as many levels as the schema is high are all that it can use (`StepsTo.height_lt`).  The
equation that it satisfies at every site has no levels in it (`unlimitedType_eq`).
-/

namespace EntityCatalog

/-! ## How deep a type nests -/

mutual
/-- The number of steps from a type to the deepest type that it holds. -/
def DataType.height : DataType → Nat
  | .leaf _ => 0
  | .object properties => propertiesHeight properties
  | .array _ item => item.height + 1

/-- The number of steps to the deepest of the types of some properties and of what they hold. -/
def propertiesHeight : List Field → Nat
  | [] => 0
  | ⟨_, t⟩ :: rest => max (t.height + 1) (propertiesHeight rest)
end

theorem propertiesHeight_le_iff {fs : List Field} {n : Nat} :
    propertiesHeight fs ≤ n ↔ ∀ f ∈ fs, f.dataType.height + 1 ≤ n := by
  induction fs with
  | nil => exact iff_of_true (Nat.zero_le n) nofun
  | cons f fs ih =>
      obtain ⟨info, t⟩ := f
      rw [propertiesHeight, Nat.max_le, ih, List.forall_mem_cons]

theorem type_of_mem_fieldOf {site : Site} {p : Property} {f : Field} (h : f ∈ fieldOf site p) :
    ∃ t, typeAt (site.property p.1) p.2 = .ok t ∧ f.dataType = t.value := by
  cases hn : fieldAt site p.1 p.2 with
  | error e =>
      rw [fieldOf, hn] at h
      exact absurd h List.not_mem_nil
  | ok n =>
      rw [fieldOf_of_ok hn, Option.mem_toList] at h
      obtain ⟨e, findings, t, -, ht, rfl⟩ := makeField_of_value hn h
      exact ⟨t, ht, rfl⟩

/-- A type nests no deeper than there are levels. -/
theorem height_le_levels {site : Site} {s : Schema} {t : Noted DataType}
    (h : typeAt site s = .ok t) : t.value.height ≤ site.levels := by
  induction hl : site.levels generalizing site s t with
  | zero =>
      rw [typeAt_tooDeep hl] at h
      rw [← Except.ok.inj h]
      exact Nat.le_refl 0
  | succ levels ih =>
      have hmade := nodeMade_of_typeAt (by omega) h
      generalize t.value = type at hmade ⊢
      cases hmade with
      | leaf _ => exact Nat.zero_le _
      | object _ hfields =>
          rw [DataType.height, (inferFieldsWith_value hfields).2, propertiesHeight_le_iff]
          intro f hf
          obtain ⟨p, -, hfp⟩ := List.mem_flatMap.mp hf
          obtain ⟨t, ht, hft⟩ := type_of_mem_fieldOf hfp
          have hproperty : (site.property p.1).levels = levels := by
            rw [Site.levels_property, hl, Nat.add_sub_cancel]
          rw [hft]
          exact Nat.succ_le_succ (ih ht hproperty)
      | unknownItems _ _ => exact Nat.succ_le_succ (Nat.zero_le levels)
      | array _ _ hitem =>
          have helements : site.elements.levels = levels := by
            rw [Site.levels_elements, hl, Nat.add_sub_cancel]
          exact Nat.succ_le_succ (ih hitem helements)

/-! ## What is cut off is reported -/

/-- Whether a node was not looked at because it is too deep. -/
def Finding.isTooDeep : Finding → Bool
  | .tooDeep => true
  | _ => false

/-- Whether a node was not looked at because it is too deep, wherever it stands. -/
def Located.isTooDeep (l : Located) : Bool := l.finding.isTooDeep

theorem countP_here (findings : List Finding) :
    (findings.map Located.here).countP Located.isTooDeep
      = findings.countP Finding.isTooDeep := List.countP_map

theorem countP_under (step : Step) (findings : List Located) :
    (findings.map (Located.under step)).countP Located.isTooDeep
      = findings.countP Located.isTooDeep := List.countP_map

theorem countP_requestedTag (s : Schema) : (requestedTag s).2.countP Finding.isTooDeep = 0 := by
  refine List.countP_eq_zero.mpr fun f hf hdeep => ?_
  have habout := Schema.isAboutType_of_mem_requestedTag hf
  cases f with
  | tooDeep => exact nomatch habout
  | _ => exact nomatch hdeep

/-- Nothing that is wrong with extensions is a matter of depth. -/
theorem countP_eq_zero_of_isAboutExtensions {findings : List Finding}
    (h : ∀ f ∈ findings, f.isAboutExtensions = true) : findings.countP Finding.isTooDeep = 0 := by
  refine List.countP_eq_zero.mpr fun f hf hdeep => ?_
  have habout := h f hf
  cases f with
  | tooDeep => exact nomatch habout
  | _ => exact nomatch hdeep

theorem countP_unknown (owner : String) (s : Schema) :
    (Extensions.unknown owner s).countP Finding.isTooDeep = 0 :=
  countP_eq_zero_of_isAboutExtensions fun _ => Extensions.isAboutExtensions_of_mem_unknown

theorem countP_ofSchema {key : String} {s : Schema} {e : Extensions} {findings : List Finding}
    (h : Extensions.ofSchema key s = .ok (e, findings)) :
    findings.countP Finding.isTooDeep = 0 := by
  rw [(ofSchema_eq_ok h).2]
  exact countP_eq_zero_of_isAboutExtensions fun _ => Extensions.isAboutExtensions_of_mem_findings

/-- What is too deep in a kept property is too deep in its type. -/
theorem countP_findingsOf_kept {site : Site} {p : Property} {n : Noted (Option Field)}
    (h : fieldAt site p.1 p.2 = .ok n) (hk : p.2.standing = .kept) :
    ∃ t, typeAt (site.property p.1) p.2 = .ok t ∧
      (findingsOf site p).countP Located.isTooDeep = t.findings.countP Located.isTooDeep := by
  obtain ⟨e, findings, t, he, ht, rfl⟩ := fieldAt_eq_of_kept h hk
  have hignored : ¬ p.2.isIgnored = true := fun hig => by
    rw [standing_of_isIgnored hig] at hk
    cases hk
  refine ⟨t, ht, ?_⟩
  rw [findingsOf, if_neg hignored, h]
  dsimp only
  rw [countP_under, List.countP_append, countP_here, countP_ofSchema he, Nat.zero_add]

theorem countP_findingsOf_not_kept {site : Site} {p : Property} (hk : p.2.standing ≠ .kept) :
    (findingsOf site p).countP Located.isTooDeep = 0 := by
  rw [findingsOf, fieldAt, inferFieldWith]
  split
  · rfl
  · cases hs : p.2.standing with
    | ignored => rfl
    | skippedAsVirtual => rfl
    | kept => exact absurd hs hk

theorem countP_map_under (levels : Nat) (step : Step) (l : List Reached) :
    (l.map (Reached.under step)).countP (fun r => r.steps.length = levels + 1)
      = l.countP fun r => r.steps.length = levels := by
  rw [List.countP_map]
  refine List.countP_congr fun r _ => ?_
  simp [Reached.under]

theorem countP_reached_succ (levels : Nat) (s : Schema) :
    (reached (levels + 1) s).countP (fun r => r.steps.length = levels + 1)
      = (reachedBelow (levels + 1) s).countP fun r => r.steps.length = levels + 1 := by
  rw [reached, List.countP_cons]
  rfl

/-- If as many nodes are reported below each property as there are where the levels end, so they are
below all of them. -/
theorem countP_properties {levels : Nat} {site : Site} {properties : List Property}
    {fields : Noted (List Field)} (h : inferFieldsWith typeAt site properties = .ok fields)
    (hbelow : ∀ p ∈ properties, ∀ t, typeAt (site.property p.1) p.2 = .ok t →
      t.findings.countP Located.isTooDeep
        = (reached levels p.2).countP fun r => r.steps.length = levels) :
    fields.findings.countP Located.isTooDeep
      = List.countP (fun r : Reached => r.steps.length = levels + 1)
          (properties.flatMap fun p =>
            if p.2.standing = .kept then (reached levels p.2).map (Reached.under (.property p.1))
            else []) := by
  obtain ⟨hok, -⟩ := inferFieldsWith_value h
  rw [inferFieldsWith_findings h, List.countP_flatMap, List.countP_flatMap]
  refine congrArg List.sum (List.map_congr_left fun p hp => ?_)
  obtain ⟨n, hn⟩ := hok p hp
  show (findingsOf site p).countP Located.isTooDeep = List.countP _ (if _ then _ else _)
  by_cases hk : p.2.standing = .kept
  · obtain ⟨t, ht, hcount⟩ := countP_findingsOf_kept hn hk
    rw [if_pos hk, countP_map_under, hcount]
    exact hbelow p hp t ht
  · rw [if_neg hk]
    exact countP_findingsOf_not_kept hk

/-- As many nodes are reported as too deep as there are where the levels end. -/
theorem countP_tooDeep {site : Site} {s : Schema} {t : Noted DataType}
    (h : typeAt site s = .ok t) :
    t.findings.countP Located.isTooDeep
      = (reached site.levels s).countP fun r => r.steps.length = site.levels := by
  induction hl : site.levels generalizing site s t with
  | zero =>
      rw [typeAt_tooDeep hl] at h
      rw [← Except.ok.inj h]
      rfl
  | succ levels ih =>
      have hproperty : ∀ key, (site.property key).levels = levels := by
        intro key
        rw [Site.levels_property, hl, Nat.add_sub_cancel]
      have helements : site.elements.levels = levels := by
        rw [Site.levels_elements, hl, Nat.add_sub_cancel]
      have hown := countP_requestedTag s
      rw [countP_reached_succ, reachedBelow]
      cases nodeNoted_of_typeAt (by omega) h with
      | leaf htag =>
          rw [htag] at hown ⊢
          exact (countP_here _).trans hown
      | object htag hfields =>
          rw [htag] at hown ⊢
          rw [List.countP_append, countP_here, hown, Nat.zero_add]
          exact countP_properties hfields fun p _ t ht => ih ht (hproperty p.1)
      | unknownItems htag hitems =>
          rw [htag] at hown ⊢
          rw [hitems, List.countP_append, countP_here, hown]
          exact Nat.zero_add _
      | array htag hitems hitem =>
          rw [htag] at hown ⊢
          dsimp only
          rw [hitems, List.countP_append, List.countP_append, countP_here, hown, countP_here,
            countP_unknown, countP_under, ih hitem helements, Nat.add_zero, Nat.zero_add]
          exact (countP_map_under levels .items _).symm

/-! ## Inference without a limit -/

/-- The number of levels of a node as a value. -/
def Schema.height (s : Schema) : Nat := (Json.object s.keywords).depth

theorem height_ofJson_le (j : Json) : (Schema.ofJson j).height ≤ j.depth := by
  cases j with
  | object members => exact Nat.le_refl _
  | null => exact Nat.le_refl _
  | bool _ => exact Nat.le_refl _
  | number _ => exact Nat.le_refl _
  | string _ => exact Nat.le_refl _
  | array items => exact Nat.succ_le_succ (Nat.zero_le _)

theorem depth_lt_height {s : Schema} {key : String} {j : Json} (h : s.keyword? key = some j) :
    j.depth < s.height := by
  have hmem : (key, j) ∈ s.keywords := OrderedMap.mem_of_lookup h
  exact Nat.lt_succ_of_le (Json.depth_le_membersDepth hmem)

/-- A step leads to a node that is less high. -/
theorem StepsTo.height_lt {s s' : Schema} {step : Step} (h : StepsTo s step s') :
    s'.height < s.height := by
  cases h with
  | property _ hp _ =>
      unfold Schema.properties? at hp
      split at hp
      · rename_i members hkey
        obtain ⟨m, hm, rfl⟩ := List.mem_map.mp hp
        have hmember : m.2.depth ≤ (Json.object members).depth :=
          Nat.le_succ_of_le (Json.depth_le_membersDepth hm)
        have hbelow : (Schema.ofJson m.2).height ≤ (Json.object members).depth :=
          Nat.le_trans (height_ofJson_le m.2) hmember
        exact Nat.lt_of_le_of_lt hbelow (depth_lt_height hkey)
      · exact absurd hp List.not_mem_nil
  | items _ hitems =>
      obtain ⟨j, hkey, rfl⟩ := Option.map_eq_some_iff.mp hitems
      exact Nat.lt_of_le_of_lt (height_ofJson_le j) (depth_lt_height hkey)

/-- The type of a node, however deep it nests.  All nodes below it are less high, so what is said of
others does not matter. -/
def unlimitedType (site : Site) (s : Schema) : Inference DataType :=
  nodeType
    (fun site' s' => if s'.height < s.height then unlimitedType site' s' else .ok ⟨default, []⟩)
    site s
termination_by s.height
decreasing_by assumption

theorem unlimitedType_eq (site : Site) (s : Schema) :
    unlimitedType site s = nodeType unlimitedType site s := by
  rw [unlimitedType]
  refine nodeType_congr (fun htag p hp hk => ?_) (fun kind htag items hitems => ?_)
  · exact if_pos (StepsTo.property htag hp hk).height_lt
  · exact if_pos (StepsTo.items htag hitems).height_lt

/-- Where no node is as many steps away as there are levels, the levels are not noticed. -/
theorem inferType_eq_unlimitedType {levels : Nat} {s : Schema}
    (h : ∀ r ∈ reached levels s, r.steps.length < levels) (site : Site) :
    inferType levels site s = unlimitedType site s := by
  induction levels generalizing site s with
  | zero => exact absurd (h ⟨[], s⟩ List.mem_cons_self) (Nat.not_lt_zero _)
  | succ levels ih =>
      have hbelow : ∀ {step s'}, StepsTo s step s' →
          ∀ r ∈ reached levels s', r.steps.length < levels := by
        intro step s' hstep r hr
        have hmem : r.under step ∈ reached (levels + 1) s :=
          List.mem_cons_of_mem _ (mem_reachedBelow_succ.mpr ⟨step, s', hstep, r, hr, rfl⟩)
        exact Nat.lt_of_succ_lt_succ (h _ hmem)
      rw [inferType_succ, unlimitedType_eq]
      exact nodeType_congr
        (fun htag p hp hk => ih (hbelow (.property htag hp hk)) (site.property p.1))
        (fun kind htag items hitems => ih (hbelow (.items htag hitems)) site.elements)

/-! ## The limit -/

/-- Arrays of arrays, so many of them. -/
def nestedArrays : Nat → Schema
  | 0 => ⟨[("type", .string "string")]⟩
  | n + 1 => ⟨[("type", .string "array"), ("items", .object (nestedArrays n).keywords)]⟩

/-- Arrays that nest deep enough use up all levels. -/
theorem height_nestedArrays {n : Nat} {site : Site} (h : site.levels ≤ n) :
    ∃ t, typeAt site (nestedArrays n) = .ok t ∧ t.value.height = site.levels := by
  induction n generalizing site with
  | zero => exact ⟨_, typeAt_tooDeep (Nat.le_zero.mp h) _, (Nat.le_zero.mp h).symm⟩
  | succ n ih =>
      by_cases hl : site.levels = 0
      · exact ⟨_, typeAt_tooDeep hl _, hl.symm⟩
      · have helements : site.elements.levels ≤ n := by
          rw [Site.levels_elements]
          omega
        obtain ⟨t, ht, hheight⟩ := ih helements
        have htype : typeAt site (nestedArrays (n + 1))
            = .ok ⟨.array .jsonb t.value,
                (Extensions.unknown "array items" (nestedArrays n)).map .here
                  ++ t.findings.map (.under .items)⟩ := by
          rw [typeAt_eq hl]
          show (typeAt site.elements (nestedArrays n)).map _ = _
          rw [ht]
          rfl
        refine ⟨_, htype, ?_⟩
        rw [DataType.height, hheight, Site.levels_elements]
        omega

/-- **The limit on nesting is tight and is not noticed before.**  At a site with a depth, a type
nests at most as many levels as there are up to depth 33, and some type nests as many.  A node is
reported as too deep once for each node that inference comes to at depth 33, or once if the site is
deeper than 32 itself.  Where inference comes to no node deeper than 32, it gives what it would give
without a limit, which satisfies the equation of inference at all sites. -/
theorem typeAt_limit (site : Site) (s : Schema) :
    (∀ t, typeAt site s = .ok t →
      t.value.height ≤ 33 - site.depth ∧
        t.findings.countP Located.isTooDeep
          = if 32 < site.depth then 1
            else (reached (33 - site.depth) s).countP fun r => site.depth + r.steps.length = 33) ∧
      (∃ s' t, typeAt site s' = .ok t ∧ t.value.height = 33 - site.depth) ∧
      ((∀ r ∈ reached (33 - site.depth) s, site.depth + r.steps.length ≤ 32) →
        typeAt site s = unlimitedType site s) ∧
      unlimitedType site s = nodeType unlimitedType site s := by
  have hlevels : site.levels = 33 - site.depth := rfl
  refine ⟨fun t ht => ⟨height_le_levels ht, ?_⟩, ?_, fun h => ?_, unlimitedType_eq site s⟩
  · rw [countP_tooDeep ht, hlevels]
    split
    · rename_i hdeep
      rw [Nat.sub_eq_zero_of_le hdeep]
      rfl
    · rename_i hdeep
      refine List.countP_congr fun r _ => ?_
      simp only [decide_eq_true_eq]
      omega
  · obtain ⟨t, ht, hheight⟩ := height_nestedArrays (Nat.le_refl site.levels)
    exact ⟨_, t, ht, hheight⟩
  · refine inferType_eq_unlimitedType (fun r hr => ?_) site
    have hdepth := h r hr
    rw [hlevels]
    omega

end EntityCatalog
