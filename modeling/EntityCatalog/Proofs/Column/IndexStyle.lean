import EntityCatalog.Proofs.Column.Overriding
import EntityCatalog.Proofs.Column.Visits
import EntityCatalog.Proofs.Outcome

/-!
# What the index style reaches

Whether texts are compared without accents and case is a mark of a site, and goes with the site to
every property.  One thing looks at it: the expressions of a property that is reached by keys alone,
and of these only the two that queries compare with, where the type is a scalar that is compared as
a text and the schema gives no expression itself.  `Restyled` says so of a property's column.

The rest of inference is the same in both styles.  Inside arrays nothing differs at all; elsewhere a
type may differ in the columns that it holds, so only what is not an object is the same
(`typeAt_inStyle`).  That is enough for the leaf paths to be the same, and for the columns of each
to be restyled (`MadeAt.restyled`).
-/

namespace EntityCatalog

/-! ## Sites in a style -/

/-- The site with texts compared in the older style, or not. -/
def Site.inStyle (site : Site) (legacy : Bool) : Site := { site with legacyIndexStyle := legacy }

theorem Site.property_inStyle (site : Site) (legacy : Bool) (key : String) :
    (site.inStyle legacy).property key = (site.property key).inStyle legacy := rfl

theorem Site.elements_inStyle (site : Site) (legacy : Bool) :
    (site.inStyle legacy).elements = site.elements.inStyle legacy := rfl

theorem Site.levels_inStyle (site : Site) (legacy : Bool) :
    (site.inStyle legacy).levels = site.levels := rfl

/-! ## Inside arrays -/

theorem makeField_inStyle_of_element {site : Site} (hs : site.scope.isDocument = false)
    (legacy : Bool) (key : String) (s : Schema) (e : Extensions) (t : DataType) :
    makeField (site.inStyle legacy) key s e t = makeField site key s e t := by
  have hauto : ∀ b b', Getters.automatic (site.inStyle legacy) key t b
      = Getters.automatic site key t b' := by
    intro b b'
    obtain ⟨sourceAlias, schemaPrefix, style, scope, depth⟩ := site
    cases scope with
    | document keys => exact absurd hs (by simp [Scope.isDocument])
    | element array keys => rfl
  rw [makeField, makeField, Getters.synthesize, Getters.synthesize, hauto]
  rfl

theorem fieldAt_congr {site site' : Site} {key : String} {s : Schema}
    (htype : typeAt (site.property key) s = typeAt (site'.property key) s)
    (hmake : ∀ e t, makeField site key s e t = makeField site' key s e t) :
    fieldAt site key s = fieldAt site' key s := by
  rw [fieldAt, fieldAt, inferFieldWith, inferFieldWith, htype]
  simp only [hmake]

theorem inferFieldsWith_typeAt_congr {site site' : Site} {properties : List Property}
    (h : ∀ p ∈ properties, fieldAt site p.1 p.2 = fieldAt site' p.1 p.2) :
    inferFieldsWith typeAt site properties = inferFieldsWith typeAt site' properties := by
  induction properties with
  | nil => rfl
  | cons p properties ih =>
      obtain ⟨hp, hproperties⟩ := List.forall_mem_cons.mp h
      rw [inferFieldsWith, inferFieldsWith, ih hproperties, ← fieldAt, hp, fieldAt]

/-- Inside arrays a node has one type in both styles. -/
theorem typeAt_inStyle_of_element {site : Site} (hs : site.scope.isDocument = false) (legacy : Bool)
    (s : Schema) : typeAt (site.inStyle legacy) s = typeAt site s := by
  induction hl : site.levels generalizing site s with
  | zero =>
      have hl' : (site.inStyle legacy).levels = 0 := (site.levels_inStyle legacy).trans hl
      rw [typeAt_tooDeep hl', typeAt_tooDeep hl]
  | succ levels ih =>
      have hpos : site.levels ≠ 0 := by omega
      have hpos' : (site.inStyle legacy).levels ≠ 0 := by rwa [Site.levels_inStyle]
      have hfields : ∀ properties : List Property,
          inferFieldsWith typeAt (site.inStyle legacy) properties
            = inferFieldsWith typeAt site properties := by
        intro properties
        refine inferFieldsWith_typeAt_congr fun p _ => fieldAt_congr ?_ ?_
        · refine ih ((Site.isDocument_property site p.1).trans hs) p.2 ?_
          rw [Site.levels_property, hl, Nat.add_sub_cancel]
        · exact makeField_inStyle_of_element hs legacy p.1 p.2
      have helements : ∀ items, typeAt (site.elements.inStyle legacy) items
          = typeAt site.elements items := by
        intro items
        refine ih (Site.isDocument_elements site) items ?_
        rw [Site.levels_elements, hl, Nat.add_sub_cancel]
      rw [typeAt_eq hpos', typeAt_eq hpos, nodeType, nodeType, Site.elements_inStyle]
      simp only [hfields, helements]

/-! ## In both styles -/

/-- Two types that are the same, or both of objects. -/
def DataType.Alike (t t' : DataType) : Prop := t = t' ∨ t.isObject = true ∧ t'.isObject = true

theorem DataType.Alike.isObject_eq {t t' : DataType} (h : t.Alike t') :
    t.isObject = t'.isObject := by
  rcases h with rfl | ⟨ht, ht'⟩
  · rfl
  · rw [ht, ht']

theorem fieldAt_together {site site' : Site} {key : String} {s : Schema}
    (h : Together Eq (fun n n' => n.findings = n'.findings ∧ n.value.Alike n'.value)
      (typeAt (site.property key) s) (typeAt (site'.property key) s)) :
    Together Eq (fun n n' => n.findings = n'.findings ∧ n.value.isSome = n'.value.isSome)
      (fieldAt site key s) (fieldAt site' key s) := by
  rw [fieldAt, fieldAt, inferFieldWith, inferFieldWith]
  cases s.standing with
  | ignored => exact .made ⟨rfl, rfl⟩
  | skippedAsVirtual => exact .made ⟨rfl, rfl⟩
  | kept =>
      dsimp only
      cases Extensions.ofSchema key s with
      | error e => exact .failed rfl
      | ok pair =>
          dsimp only
          generalize typeAt (site.property key) s = x at h ⊢
          generalize typeAt (site'.property key) s = y at h ⊢
          cases h with
          | failed he => exact .failed he
          | made ht => exact .made ⟨congrArg (_ ++ ·) ht.1, rfl⟩

theorem inferFieldsWith_together {site site' : Site} {properties : List Property}
    (h : ∀ p ∈ properties,
      Together Eq (fun n n' => n.findings = n'.findings ∧ n.value.isSome = n'.value.isSome)
        (fieldAt site p.1 p.2) (fieldAt site' p.1 p.2)) :
    Together Eq (fun n n' => n.findings = n'.findings) (inferFieldsWith typeAt site properties)
      (inferFieldsWith typeAt site' properties) := by
  induction properties with
  | nil => exact .made rfl
  | cons p properties ih =>
      obtain ⟨hp, hproperties⟩ := List.forall_mem_cons.mp h
      have hrest := ih hproperties
      rw [inferFieldsWith, inferFieldsWith]
      split
      · exact hrest
      · rw [← fieldAt, ← fieldAt]
        generalize fieldAt site p.1 p.2 = x at hp ⊢
        generalize fieldAt site' p.1 p.2 = y at hp ⊢
        cases hp with
        | failed he => exact .failed he
        | @made n n' hn =>
            dsimp only
            generalize inferFieldsWith typeAt site properties = xs at hrest ⊢
            generalize inferFieldsWith typeAt site' properties = ys at hrest ⊢
            cases hrest with
            | failed he => exact .failed he
            | made hns =>
                obtain ⟨hfindings, hsome⟩ := hn
                refine .made ?_
                rw [hfindings, hns]
                cases hv : n.value with
                | none =>
                    rw [hv] at hsome
                    have hnone : n'.value.isNone = true := Option.isSome_eq_false_iff.mp hsome.symm
                    rw [Option.isNone_iff_eq_none.mp hnone]
                | some f =>
                    rw [hv] at hsome
                    obtain ⟨f', hf'⟩ := Option.isSome_iff_exists.mp hsome.symm
                    rw [hf']

theorem inferColumns_together {site site' : Site} {properties : List Property}
    (h : ∀ p ∈ properties,
      Together Eq (fun n n' => n.findings = n'.findings ∧ n.value.isSome = n'.value.isSome)
        (fieldAt site p.1 p.2) (fieldAt site' p.1 p.2)) :
    Together Eq (fun n n' => n.findings = n'.findings) (inferColumns site properties)
      (inferColumns site' properties) := by
  induction properties with
  | nil => exact .made rfl
  | cons p properties ih =>
      obtain ⟨hp, hproperties⟩ := List.forall_mem_cons.mp h
      have hrest := ih hproperties
      rw [inferColumns, inferColumns]
      generalize fieldAt site p.1 p.2 = x at hp ⊢
      generalize fieldAt site' p.1 p.2 = y at hp ⊢
      cases hp with
      | failed he => exact .failed he
      | made hn =>
          dsimp only
          generalize inferColumns site properties = xs at hrest ⊢
          generalize inferColumns site' properties = ys at hrest ⊢
          cases hrest with
          | failed he => exact .failed he
          | made hns => exact .made (congrArg₂ (· ++ ·) hn.1 hns)

/-- The type of a node is the same in both styles, unless it is an object. -/
theorem typeAt_inStyle (site : Site) (legacy : Bool) (s : Schema) :
    Together Eq (fun n n' => n.findings = n'.findings ∧ n.value.Alike n'.value) (typeAt site s)
      (typeAt (site.inStyle legacy) s) := by
  induction hl : site.levels generalizing site s with
  | zero =>
      have hl' : (site.inStyle legacy).levels = 0 := (site.levels_inStyle legacy).trans hl
      rw [typeAt_tooDeep hl, typeAt_tooDeep hl']
      exact .made ⟨rfl, Or.inl rfl⟩
  | succ levels ih =>
      have hpos : site.levels ≠ 0 := by omega
      have hpos' : (site.inStyle legacy).levels ≠ 0 := by rwa [Site.levels_inStyle]
      rw [typeAt_eq hpos, typeAt_eq hpos', nodeType, nodeType]
      cases requestedTag s with
      | mk tag findings =>
          cases tag with
          | leaf t => exact .made ⟨rfl, Or.inl rfl⟩
          | object =>
              dsimp only
              have hfields : Together Eq (fun n n' => n.findings = n'.findings)
                  (inferFieldsWith typeAt site (s.properties?.getD []))
                  (inferFieldsWith typeAt (site.inStyle legacy) (s.properties?.getD [])) := by
                refine inferFieldsWith_together fun p _ => fieldAt_together ?_
                refine ih (site.property p.1) p.2 ?_
                rw [Site.levels_property, hl, Nat.add_sub_cancel]
              generalize inferFieldsWith typeAt site _ = xs at hfields ⊢
              generalize inferFieldsWith typeAt (site.inStyle legacy) _ = ys at hfields ⊢
              cases hfields with
              | failed he => exact .failed he
              | made hns => exact .made ⟨congrArg (_ ++ ·) hns, Or.inr ⟨rfl, rfl⟩⟩
          | array kind =>
              dsimp only
              cases s.items? with
              | none => exact .made ⟨rfl, Or.inl rfl⟩
              | some items =>
                  dsimp only
                  rw [Site.elements_inStyle,
                    typeAt_inStyle_of_element (Site.isDocument_elements site)]
                  cases typeAt site.elements items with
                  | error e => exact .failed rfl
                  | ok item => exact .made ⟨rfl, Or.inl rfl⟩

theorem fieldAt_inStyle (site : Site) (legacy : Bool) (key : String) (s : Schema) :
    Together Eq (fun n n' => n.findings = n'.findings ∧ n.value.isSome = n'.value.isSome)
      (fieldAt site key s) (fieldAt (site.inStyle legacy) key s) :=
  fieldAt_together (typeAt_inStyle (site.property key) legacy s)

theorem inferColumns_inStyle (site : Site) (legacy : Bool) (properties : List Property) :
    Together Eq (fun n n' => n.findings = n'.findings) (inferColumns site properties)
      (inferColumns (site.inStyle legacy) properties) :=
  inferColumns_together fun p _ => fieldAt_inStyle site legacy p.1 p.2

/-! ## Leaf paths -/

theorem opens_inStyle (site : Site) (legacy : Bool) (s : Schema) :
    opens (site.inStyle legacy) s = opens site s := by
  have htypes := typeAt_inStyle site legacy s
  rw [opens, opens]
  generalize typeAt site s = x at htypes ⊢
  generalize typeAt (site.inStyle legacy) s = y at htypes ⊢
  cases htypes with
  | failed _ => rfl
  | made ht => exact ht.2.isObject_eq.symm

theorem leafPaths_inStyle (site : Site) (legacy : Bool) (properties : List Property) :
    leafPaths (site.inStyle legacy) properties = leafPaths site properties := by
  induction hl : site.levels using Nat.strongRecOn generalizing site properties with
  | ind levels ih =>
    rw [leafPaths, leafPaths]
    refine List.flatMap_congr fun p _ => ?_
    rw [Site.property_inStyle]
    by_cases ho : opens (site.property p.1) p.2 = true
    · have hlt : (site.property p.1).levels < levels := hl ▸ levels_property_lt ho
      rw [dif_pos ho, dif_pos ((opens_inStyle _ _ _).trans ho), ih _ hlt _ _ rfl]
    · rw [dif_neg ho, dif_neg (fun h => ho ((opens_inStyle _ _ _).symm.trans h))]

/-! ## Columns -/

/-- Whether a property gives one of its column's expressions, or says that there is none. -/
def Property.GivesGetter (p : Property) : Prop :=
  ∃ key ∈ ["x-fqm-value-getter", "x-fqm-filter-value-getter", "x-fqm-value-function"],
    p.2.keyword? key = some .null ∨ ∃ expression, p.2.keyword? key = some (.string expression)

/-- The column of a property in both styles.  The older style adds the two expressions that queries
compare with, if the type is a scalar that is compared as a text and the property gives no
expression; else it changes nothing. -/
inductive Restyled (schemaPrefix : String) (p : Property) : Field → Field → Prop
  | folded {c : Field} {t : LeafType} {g : String} :
      ¬ p.GivesGetter → c.dataType = .leaf t → t ∉ [.integer, .number, .rangedUuid] →
        c.filterValueGetter = none → c.valueFunction = none → c.valueGetter = some g →
          Restyled schemaPrefix p c
            { c with
              filterValueGetter :=
                some ("lower(" ++ schemaPrefix ++ ".f_unaccent(" ++ g ++ "::text))")
              valueFunction := some ("lower(" ++ schemaPrefix ++ ".f_unaccent(:value))") }
  | kept {c : Field} :
      p.GivesGetter ∨ (∀ t, c.dataType = .leaf t → t ∈ [.integer, .number, .rangedUuid]) →
        Restyled schemaPrefix p c c

theorem isSet_getter_iff {property : String} {s : Schema} {key : String} :
    (Extensions.getter property s key).1.isSet = true ↔
      s.keyword? key = some .null ∨ ∃ expression, s.keyword? key = some (.string expression) := by
  unfold Extensions.getter
  cases s.keyword? key with
  | none => exact ⟨nofun, nofun⟩
  | some j =>
      cases j with
      | null => exact ⟨fun _ => Or.inl rfl, fun _ => rfl⟩
      | string expression => exact ⟨fun _ => Or.inr ⟨expression, rfl⟩, fun _ => rfl⟩
      | bool _ => exact ⟨nofun, nofun⟩
      | number _ => exact ⟨nofun, nofun⟩
      | array _ => exact ⟨nofun, nofun⟩
      | object _ => exact ⟨nofun, nofun⟩

theorem overridesGetters_iff {p : Property} {e : Extensions} {findings : List Finding}
    (h : Extensions.ofSchema p.1 p.2 = .ok (e, findings)) :
    e.overridesGetters = true ↔ p.GivesGetter := by
  rw [(ofSchema_eq_ok h).1, Extensions.given, Extensions.overridesGetters, Bool.or_eq_true,
    Bool.or_eq_true, isSet_getter_iff, isSet_getter_iff, isSet_getter_iff, Property.GivesGetter]
  simp only [List.mem_cons, List.not_mem_nil, or_false, exists_eq_or_imp, exists_eq_left, or_assoc]

/-- Dropping accents and case adds two expressions to those of a text, and does nothing else. -/
theorem inDocument_folding (base key schemaPrefix : String) (t : DataType) :
    (Getters.inDocument base key t (some schemaPrefix) = Getters.inDocument base key t none ∧
        ∀ lt, t = .leaf lt → lt ∈ [.integer, .number, .rangedUuid]) ∨
      ∃ lt g, t = .leaf lt ∧ lt ∉ [.integer, .number, .rangedUuid] ∧
        Getters.inDocument base key t none = ⟨some g, none, none⟩ ∧
        Getters.inDocument base key t (some schemaPrefix)
          = ⟨some g, some (Getters.folded schemaPrefix (g ++ "::text")),
              some (Getters.folded schemaPrefix ":value")⟩ := by
  cases t with
  | object properties => exact Or.inl ⟨rfl, nofun⟩
  | array kind item => exact Or.inl ⟨by cases item <;> rfl, nofun⟩
  | leaf lt =>
      by_cases hlt : lt ∈ [LeafType.integer, .number, .rangedUuid]
      · refine Or.inl ⟨?_, fun lt' heq => DataType.leaf.inj heq ▸ hlt⟩
        simp only [List.mem_cons, List.not_mem_nil, or_false] at hlt
        rcases hlt with rfl | rfl | rfl <;> rfl
      · refine Or.inr ⟨lt, base ++ "->>'" ++ key ++ "'", rfl, hlt, ?_, ?_⟩
        · cases lt <;> first | rfl | exact absurd (by decide) hlt
        · cases lt <;> first | rfl | exact absurd (by decide) hlt

theorem folded_text (schemaPrefix g : String) :
    Getters.folded schemaPrefix (g ++ "::text")
      = "lower(" ++ schemaPrefix ++ ".f_unaccent(" ++ g ++ "::text))" := by
  have hend : "::text" ++ "))" = "::text))" := rfl
  rw [Getters.folded, ← hend]
  simp only [String.append_assoc]

theorem folded_value (schemaPrefix : String) :
    Getters.folded schemaPrefix ":value" = "lower(" ++ schemaPrefix ++ ".f_unaccent(:value))" := by
  have hend : ".f_unaccent(" ++ (":value" ++ "))") = ".f_unaccent(:value))" := rfl
  rw [Getters.folded, ← hend]
  simp only [String.append_assoc]

theorem automatic_inStyle {site : Site} {keys : List String} (hs : site.scope = .document keys)
    (legacy : Bool) (key : String) (t : DataType) (folds : Bool) :
    Getters.automatic (site.inStyle legacy) key t folds
      = Getters.inDocument (site.reach keys) key t
          (if folds then some site.schemaPrefix else none) := by
  have hscope : (site.inStyle legacy).scope = .document keys := hs
  rw [Getters.automatic, hscope]
  rfl

theorem apply_of_not_isSet {o : GetterOverride} (h : o.isSet = false) (expand : String → String)
    (inferred : Option String) : o.apply expand inferred = inferred := by
  cases o with
  | keep => rfl
  | remove => exact nomatch h
  | replace expression => exact nomatch h

/-- Where a property gives no expression, its column has those that are inferred. -/
theorem synthesize_of_not_overrides {e : Extensions} (h : e.overridesGetters = false) (site : Site)
    (key : String) (t : DataType) :
    Getters.synthesize site key t e = Getters.automatic site key t site.legacyIndexStyle := by
  have hsets := h
  rw [Extensions.overridesGetters, Bool.or_eq_false_iff, Bool.or_eq_false_iff] at hsets
  rw [Getters.synthesize, h, Bool.not_false, Bool.and_true]
  simp only [apply_of_not_isSet hsets.1.1, apply_of_not_isSet hsets.1.2, apply_of_not_isSet hsets.2]

theorem makeField_eq (site : Site) (key : String) (s : Schema) (e : Extensions) (t : DataType)
    (legacy : Bool) :
    makeField (site.inStyle legacy) key s e t
      = { makeField site key s e t with
          valueGetter := (Getters.synthesize (site.inStyle legacy) key t e).valueGetter
          filterValueGetter := (Getters.synthesize (site.inStyle legacy) key t e).filterValueGetter
          valueFunction := (Getters.synthesize (site.inStyle legacy) key t e).valueFunction } := by
  rw [makeField, makeField]
  cases e.visibility with
  | none => rfl
  | some v => cases v <;> rfl

theorem makeField_restyled {site : Site} {keys : List String} (hs : site.scope = .document keys)
    {p : Property} {e : Extensions} {findings : List Finding}
    (he : Extensions.ofSchema p.1 p.2 = .ok (e, findings)) (t : DataType) :
    Restyled site.schemaPrefix p (makeField (site.inStyle false) p.1 p.2 e t)
      (makeField (site.inStyle true) p.1 p.2 e t) := by
  rw [makeField_eq site p.1 p.2 e t true, makeField_eq site p.1 p.2 e t false]
  by_cases hgives : e.overridesGetters = true
  · have hsame : Getters.synthesize (site.inStyle true) p.1 t e
        = Getters.synthesize (site.inStyle false) p.1 t e := by
      rw [Getters.synthesize, Getters.synthesize, hgives, Bool.not_true, Bool.and_false,
        Bool.and_false, automatic_inStyle hs, automatic_inStyle hs]
      rfl
    rw [hsame]
    exact .kept (Or.inl ((overridesGetters_iff he).mp hgives))
  · have hgives' : ¬ p.GivesGetter := fun h => hgives ((overridesGetters_iff he).mpr h)
    have hauto := synthesize_of_not_overrides (Bool.not_eq_true _ ▸ hgives)
    have hplain : Getters.synthesize (site.inStyle false) p.1 t e
        = Getters.inDocument (site.reach keys) p.1 t none :=
      (hauto _ _ _).trans (automatic_inStyle hs _ _ _ _)
    have hfolded : Getters.synthesize (site.inStyle true) p.1 t e
        = Getters.inDocument (site.reach keys) p.1 t (some site.schemaPrefix) :=
      (hauto _ _ _).trans (automatic_inStyle hs _ _ _ _)
    rw [hplain, hfolded]
    rcases inDocument_folding (site.reach keys) p.1 site.schemaPrefix t with
      ⟨hsame, hleaf⟩ | ⟨lt, g, rfl, hlt, hnone, hsome⟩
    · rw [hsame]
      exact .kept (Or.inr hleaf)
    · rw [hnone, hsome, folded_text, folded_value]
      exact .folded hgives' rfl hlt rfl rfl rfl

/-- The column of a property in both styles, if it is none of an object. -/
theorem restyled_of_fieldAt {site : Site} {keys : List String} (hs : site.scope = .document keys)
    {p : Property} {n n' : Noted (Option Field)} {f f' : Field}
    (hn : fieldAt (site.inStyle false) p.1 p.2 = .ok n) (hval : n.value = some f)
    (hn' : fieldAt (site.inStyle true) p.1 p.2 = .ok n') (hval' : n'.value = some f')
    (ho : f.dataType.isObject = false) : Restyled site.schemaPrefix p f f' := by
  obtain ⟨e, findings, t, he, ht, rfl⟩ := makeField_of_value hn hval
  obtain ⟨e', findings', t', he', ht', rfl⟩ := makeField_of_value hn' hval'
  obtain rfl : e = e' := (Prod.mk.inj (Except.ok.inj (he.symm.trans he'))).1
  have htypes := typeAt_inStyle ((site.property p.1).inStyle false) true p.2
  rw [← Site.property_inStyle, ht] at htypes
  change Together _ _ _ (typeAt ((site.inStyle true).property p.1) p.2) at htypes
  rw [ht'] at htypes
  cases htypes with
  | made halike =>
      -- what is no object has one type in both styles
      rcases halike.2 with heq | ⟨hobject, -⟩
      · rw [← heq]
        exact makeField_restyled hs he t.value
      · have hleaf : t.value.isObject = false := ho
        rw [hobject] at hleaf
        cases hleaf

/-- The column of a leaf path in both styles. -/
theorem MadeAt.restyled {site : Site} {path : List Property} {f f' : Field}
    (h : MadeAt (site.inStyle false) path f) (h' : MadeAt (site.inStyle true) path f')
    {keys : List String} (hs : site.scope = .document keys) :
    ∃ p, path.getLast? = some p ∧ Restyled site.schemaPrefix p f f' := by
  induction path generalizing site keys with
  | nil => exact absurd rfl h.ne_nil
  | cons p path ih =>
      cases h with
      | step hf =>
          cases h' with
          | leaf _ _ _ => exact absurd rfl hf.ne_nil
          | step hf' =>
              have hscope : (site.property p.1).scope = .document (keys ++ [p.1]) := by
                rw [Site.property, hs]
              have hrest : MadeAt ((site.property p.1).inStyle false) path f := hf
              obtain ⟨q, hlast, hq⟩ := ih hrest hf' hscope
              exact ⟨q, by rwa [List.getLast?_cons_of_ne_nil hf.ne_nil], hq⟩
      | leaf hn hval ho =>
          cases h' with
          | step hf' => exact absurd rfl hf'.ne_nil
          | leaf hn' hval' _ => exact ⟨p, rfl, restyled_of_fieldAt hs hn hval hn' hval' ho⟩

/-- A column stays restyled under another name, and with what it holds closed to queries. -/
theorem Restyled.flat {schemaPrefix : String} {p : Property} {f f' : Field}
    (h : Restyled schemaPrefix p f f') (name : String) :
    Restyled schemaPrefix p (f.renamed name).restricted (f'.renamed name).restricted := by
  have hleaf : ∀ t, (f.renamed name).restricted.dataType = .leaf t → f.dataType = .leaf t := by
    intro t ht
    have ht : f.dataType.restrict false = .leaf t := ht
    cases hf : f.dataType with
    | leaf lt => exact (hf ▸ ht : (DataType.leaf lt).restrict false = .leaf t)
    | object properties =>
        rw [hf] at ht
        exact nomatch ht
    | array kind item =>
        rw [hf] at ht
        exact nomatch ht
  cases h with
  | folded hgives ht hlt hfilter hfunction hvalue =>
      refine .folded hgives ?_ hlt hfilter hfunction hvalue
      show f.dataType.restrict false = _
      rw [ht]
      rfl
  | kept hkept => exact .kept (hkept.imp_right fun h t ht => h t (hleaf t ht))

theorem Restyled.bare_eq {schemaPrefix : String} {p : Property} {f f' : Field}
    (h : Restyled schemaPrefix p f f') : f.bare = f'.bare := by
  cases h with
  | folded _ _ _ _ _ _ => rfl
  | kept _ => rfl

end EntityCatalog
