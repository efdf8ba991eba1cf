import EntityCatalog.Proofs.Column.Inference
import EntityCatalog.Proofs.Schema.Revision

/-!
# Resources whose schemas are revised

A revision that leaves every property its standing and its extensions leaves a resource its entity
type.  What is reported may become less, by findings of a class that the revision names: so `Lacks`
compares what is found before and after.

It is enough to know what the revision does at one property (`Restates`).  From there the induction
goes through the types of all nodes (`inferType_revised`), with two places where properties are gone
through, those of an object and those of the root: `inferFieldsWith_revised`,
`inferColumns_revised`.
-/

namespace EntityCatalog

open Schema (nodes SameMarks)

/-! ## What is found before and after -/

/-- What is found a second time is what was found the first time, in the same order, and all that it
lacks are findings of a class. -/
structure Lacks (gone : Finding → Bool) (found found' : List Located) : Prop where
  sublist : found'.Sublist found
  others : found.filter (fun l => !gone l.finding) = found'.filter fun l => !gone l.finding

namespace Lacks

variable {gone : Finding → Bool} {found found' more more' : List Located}

theorem refl (found : List Located) : Lacks gone found found := ⟨.refl found, rfl⟩

theorem append (h : Lacks gone found found') (h' : Lacks gone more more') :
    Lacks gone (found ++ more) (found' ++ more') := by
  refine ⟨h.sublist.append h'.sublist, ?_⟩
  rw [List.filter_append, List.filter_append, h.others, h'.others]

theorem under (h : Lacks gone found found') (step : Step) :
    Lacks gone (found.map (.under step)) (found'.map (.under step)) := by
  refine ⟨h.sublist.map _, ?_⟩
  rw [List.filter_map, List.filter_map]
  exact congrArg _ h.others

/-- If no finding can be missing, none is. -/
theorem eq_of_none (h : Lacks (fun _ => false) found found') : found = found' := by
  have hothers := h.others
  rwa [List.filter_eq_self.mpr (by simp), List.filter_eq_self.mpr (by simp)] at hothers

end Lacks

/-- Two results are the same, and what is found with the second lacks findings of a class. -/
def SameLacking {α : Type} (gone : Finding → Bool) (n n' : Noted α) : Prop :=
  n.value = n'.value ∧ Lacks gone n.findings n'.findings

/-! ## What a revision does at one property -/

/-- Two nodes say the same of themselves, and what is found at the second lacks findings of a
class. -/
structure Restated (gone : Finding → Bool) (s s' : Schema) : Prop where
  keyword? : ∀ key, key ∉ "x-fqm-ignore" :: Schema.holders → s.keyword? key = s'.keyword? key
  unknownExtensions : s.unknownExtensions = s'.unknownExtensions
  standing : s.standing = s'.standing
  ignoreFindings : ∀ property, Lacks gone ((Extensions.ignoreFindings property s).map .here)
    ((Extensions.ignoreFindings property s').map .here)

namespace Restated

variable {gone : Finding → Bool} {s s' s'' : Schema}

theorem trans (h : Restated gone s s') (h' : Restated gone s' s'') : Restated gone s s'' where
  keyword? key hkey := (h.keyword? key hkey).trans (h'.keyword? key hkey)
  unknownExtensions := h.unknownExtensions.trans h'.unknownExtensions
  standing := h.standing.trans h'.standing
  ignoreFindings property :=
    ⟨(h'.ignoreFindings property).sublist.trans (h.ignoreFindings property).sublist,
      (h.ignoreFindings property).others.trans (h'.ignoreFindings property).others⟩

theorem of_sameMarks (h : SameMarks s s') : Restated gone s s' where
  keyword? key hkey := h.keyword? key (List.not_mem_of_not_mem_cons hkey)
  unknownExtensions := h.unknownExtensions
  standing := Schema.standing_congr (h.agreeOn (by decide))
  ignoreFindings property := by
    rw [Extensions.ignoreFindings, Extensions.ignoreFindings,
      Schema.ignoreMark_congr (h.keyword? _ (by decide))]
    exact .refl _

theorem agreeOn (h : Restated gone s s') {keys : List String}
    (hkeys : ∀ key ∈ keys, key ∉ "x-fqm-ignore" :: Schema.holders) : Schema.AgreeOn keys s s' := by
  intro key hkey
  exact h.keyword? key (hkeys key hkey)

theorem isIgnored (h : Restated gone s s') : s.isIgnored = s'.isIgnored := by
  rw [Bool.eq_iff_iff, ← standing_eq_ignored_iff, ← standing_eq_ignored_iff, h.standing]

theorem findings (h : Restated gone s s') (property : String) :
    Lacks gone ((Extensions.findings property s).map .here)
      ((Extensions.findings property s').map .here) := by
  have hflaws : Extensions.shapedKeys.filterMap (Extensions.flaw? property s)
      = Extensions.shapedKeys.filterMap (Extensions.flaw? property s') := by
    refine List.filterMap_congr fun key hkey => ?_
    rw [Extensions.flaw?, Extensions.flaw?, h.agreeOn (by decide) key hkey]
  rw [Extensions.findings, Extensions.findings, Extensions.unknown, Extensions.unknown,
    h.unknownExtensions, hflaws]
  simp only [List.map_append]
  exact ((Lacks.refl _).append (h.ignoreFindings property)).append (.refl _)

end Restated

/-- A revision lets a property go only if it asks to be left out, and what it changes in a node is
at most its wish to be left out, in a way that does not show but in findings of a class. -/
def Restates (gone : Finding → Bool) (revise : Revision) : Prop :=
  ∀ steps j,
    (revise steps j = none → (Schema.ofJson j).isIgnored = true) ∧
      ∀ change, revise steps j = some change → ∀ j,
        Restated gone (Schema.ofJson j) (Schema.ofJson (change j)) ∧
          Schema.AgreeOn Schema.holders (Schema.ofJson j) (Schema.ofJson (change j))

theorem Restates.behind {gone : Finding → Bool} {revise : Revision} (h : Restates gone revise)
    (step : Step) : Restates gone (revise.behind step) :=
  fun steps j => h (step :: steps) j

/-! ## What a revision does to types and columns -/

section Inference

variable {gone : Finding → Bool} {revise : Revision}
  {typeAt : Site → Schema → Inference DataType} {site : Site}

/-- A property has the same column if it says the same and has the same type. -/
theorem inferFieldWith_restated {key : String} {s s' : Schema} (h : Restated gone s s')
    (htype : Together Eq (SameLacking gone) (typeAt (site.property key) s)
      (typeAt (site.property key) s')) :
    Together Eq (SameLacking gone) (inferFieldWith typeAt site key s)
      (inferFieldWith typeAt site key s') := by
  cases hk : s.standing with
  | ignored =>
      rw [inferFieldWith, inferFieldWith, ← h.standing, hk]
      exact .made ⟨rfl, .refl _⟩
  | skippedAsVirtual =>
      rw [inferFieldWith, inferFieldWith, ← h.standing, hk]
      exact .made ⟨rfl, .refl _⟩
  | kept =>
      have hvisibility : Extensions.visibility? key s = Extensions.visibility? key s' := by
        rw [Extensions.visibility?, Extensions.visibility?, h.keyword? _ (by decide)]
      have hgiven : ∀ v, Extensions.given key s' v = Extensions.given key s v := by
        intro v
        refine Extensions.given_of_spared (fun key hkey => Or.inl ?_) v
        exact (h.agreeOn (by decide) key hkey).symm
      have hfield : ∀ e t, makeField site key s' e t = makeField site key s e t := by
        intro e t
        exact (Schema.makeField_congr (h.keyword? _ (by decide)) site key e t).symm
      refine inferFieldWith_together hk (h.standing ▸ hk) hvisibility htype fun v t t' ht => ?_
      rw [hgiven, hfield, ht.1]
      exact ⟨rfl, (h.findings key).append ht.2⟩

/-- What is said of one property is said of the first of several. -/
theorem inferFieldsWith_cons {key : String} {s : Schema} {rest : List (String × Schema)}
    (h : s.isIgnored = false) :
    inferFieldsWith typeAt site ((key, s) :: rest)
      = (inferFieldWith typeAt site key s).bind fun n =>
          (inferFieldsWith typeAt site rest).map fun ns =>
            ⟨n.value.toList ++ ns.value,
              (match n.value with
                | some _ => n.findings
                | none => n.findings ++ [Located.here .noField]).map (.under (.property key))
                ++ ns.findings⟩ := by
  rw [inferFieldsWith, if_neg (by rw [h]; simp)]
  cases inferFieldWith typeAt site key s with
  | error e => rfl
  | ok n => cases inferFieldsWith typeAt site rest <;> rfl

theorem inferColumns_cons {key : String} {s : Schema} {rest : List (String × Schema)} :
    inferColumns site ((key, s) :: rest)
      = (fieldAt site key s).bind fun n =>
          (inferColumns site rest).map fun ns =>
            ⟨n.value.toList ++ ns.value, n.findings ++ ns.findings⟩ := by
  rw [inferColumns]
  cases fieldAt site key s with
  | error e => rfl
  | ok n => cases inferColumns site rest <;> rfl

/-- The properties of an object have the same columns if those that stay have the same types. -/
theorem inferFieldsWith_revised (h : Restates gone revise) (properties : List (String × Json))
    (htype : ∀ key j change, revise [.property key] j = some change →
      Together Eq (SameLacking gone) (typeAt (site.property key) (Schema.ofJson j))
        (typeAt (site.property key)
          (Schema.ofJson (change (j.revised (revise.behind (.property key))))))) :
    Together Eq (SameLacking gone) (inferFieldsWith typeAt site (nodes properties))
      (inferFieldsWith typeAt site (nodes (revisedProperties revise properties))) := by
  induction properties with
  | nil => exact .made ⟨rfl, .refl _⟩
  | cons p rest ih =>
      obtain ⟨key, j⟩ := p
      obtain ⟨hgoes, hstays⟩ := h [.property key] j
      rw [revisedProperties, Schema.nodes_cons]
      cases hr : revise [.property key] j with
      | none =>
          rw [inferFieldsWith, if_pos (hgoes hr)]
          exact ih
      | some change =>
          have hmarks := Schema.sameMarks_revised (revise.behind (.property key)) j
          have hrestated : Restated gone (Schema.ofJson j)
              (Schema.ofJson (change (j.revised (revise.behind (.property key))))) :=
            (Restated.of_sameMarks hmarks).trans (hstays change hr _).1
          have hone := inferFieldWith_restated hrestated (htype key j change hr)
          rw [Schema.nodes_cons]
          cases hig : (Schema.ofJson j).isIgnored with
          | true =>
              rw [inferFieldsWith, inferFieldsWith, if_pos hig,
                if_pos (hrestated.isIgnored ▸ hig)]
              exact ih
          | false =>
              rw [inferFieldsWith_cons hig, inferFieldsWith_cons (hrestated.isIgnored ▸ hig)]
              refine hone.bind fun n n' hn => ih.map fun ns ns' hns => ?_
              rw [SameLacking, ← hn.1, ← hns.1]
              refine ⟨rfl, Lacks.append (Lacks.under ?_ _) hns.2⟩
              cases n.value with
              | none => exact hn.2.append (.refl _)
              | some _ => exact hn.2

/-- A property has the same type if it has with the properties below it revised. -/
theorem inferType_change (h : Restates gone revise) {key : String} {j : Json}
    {change : Json → Json} (hr : revise [.property key] j = some change) {levels : Nat}
    (hbelow : Together Eq (SameLacking gone) (inferType levels site (Schema.ofJson j))
      (inferType levels site (Schema.ofJson (j.revised (revise.behind (.property key)))))) :
    Together Eq (SameLacking gone) (inferType levels site (Schema.ofJson j))
      (inferType levels site
        (Schema.ofJson (change (j.revised (revise.behind (.property key)))))) := by
  obtain ⟨hrestated, hholders⟩ := (h [.property key] j).2 change hr
    (j.revised (revise.behind (.property key)))
  rw [← inferType_congr (hrestated.agreeOn (by decide)) hholders]
  exact hbelow

/-- A node has the same type, however its properties are revised. -/
theorem inferType_revised (h : Restates gone revise) (levels : Nat) (site : Site) (j : Json) :
    Together Eq (SameLacking gone) (inferType levels site (Schema.ofJson j))
      (inferType levels site (Schema.ofJson (j.revised revise))) := by
  induction levels generalizing revise site j with
  | zero => exact .made ⟨rfl, .refl _⟩
  | succ levels ih =>
      rw [inferType, inferType, ← (Schema.sameMarks_revised revise j).requestedTag]
      cases requestedTag (Schema.ofJson j) with
      | mk tag findings =>
          cases tag with
          | leaf t => exact .made ⟨rfl, .refl _⟩
          | object =>
              dsimp only
              rcases Schema.properties?_revised revise j with ⟨hnone, hnone'⟩ | ⟨ps, hps, hps'⟩
              · rw [hnone, hnone']
                exact .refl (fun _ => rfl) (fun _ => ⟨rfl, .refl _⟩) _
              · rw [hps, hps', Option.getD_some, Option.getD_some]
                have hfields : Together Eq (SameLacking gone)
                    (inferFieldsWith (inferType levels) site (nodes ps))
                    (inferFieldsWith (inferType levels) site
                      (nodes (revisedProperties revise ps))) := by
                  refine inferFieldsWith_revised h ps fun key j change hr => ?_
                  exact inferType_change h hr (ih (h.behind _) (site.property key) j)
                refine hfields.map fun n n' hn => ?_
                rw [SameLacking, hn.1]
                exact ⟨rfl, (Lacks.refl _).append hn.2⟩
          | array kind =>
              dsimp only
              rcases Schema.items?_revised revise j with ⟨hnone, hnone'⟩ | ⟨items, hitems, hitems'⟩
              · rw [hnone, hnone']
                exact .made ⟨rfl, .refl _⟩
              · rw [hitems, hitems']
                refine (ih (h.behind .items) site.elements items).map fun n n' hn => ?_
                have hmarks := Schema.sameMarks_revised (revise.behind .items) items
                rw [SameLacking, hn.1, Extensions.unknown, Extensions.unknown,
                  hmarks.unknownExtensions]
                exact ⟨rfl, (Lacks.refl _).append (hn.2.under .items)⟩

end Inference

/-- The properties of the root have the same columns, however they are revised. -/
theorem inferColumns_revised {gone : Finding → Bool} {revise : Revision}
    (h : Restates gone revise) (site : Site) (properties : List (String × Json)) :
    Together Eq (SameLacking gone) (inferColumns site (nodes properties))
      (inferColumns site (nodes (revisedProperties revise properties))) := by
  induction properties with
  | nil => exact .made ⟨rfl, .refl _⟩
  | cons p rest ih =>
      obtain ⟨key, j⟩ := p
      obtain ⟨hgoes, hstays⟩ := h [.property key] j
      rw [revisedProperties, Schema.nodes_cons]
      cases hr : revise [.property key] j with
      | none =>
          have hone : inferColumns site ((key, Schema.ofJson j) :: nodes rest)
              = (inferColumns site (nodes rest)) := by
            rw [inferColumns, fieldAt_of_isIgnored (hgoes hr)]
            cases inferColumns site (nodes rest) <;> rfl
          rw [hone]
          exact ih
      | some change =>
          have hmarks := Schema.sameMarks_revised (revise.behind (.property key)) j
          have hrestated : Restated gone (Schema.ofJson j)
              (Schema.ofJson (change (j.revised (revise.behind (.property key))))) :=
            (Restated.of_sameMarks hmarks).trans (hstays change hr _).1
          have hone : Together Eq (SameLacking gone) (fieldAt site key (Schema.ofJson j))
              (fieldAt site key
                (Schema.ofJson (change (j.revised (revise.behind (.property key)))))) := by
            refine inferFieldWith_restated hrestated (inferType_change h hr ?_)
            exact inferType_revised (h.behind _) _ _ j
          rw [Schema.nodes_cons, inferColumns_cons, inferColumns_cons]
          refine hone.bind fun n n' hn => ih.map fun ns ns' hns => ?_
          rw [SameLacking, hn.1, hns.1]
          exact ⟨rfl, hn.2.append hns.2⟩

namespace ResourceConfig

/-- Two assemblies make the same entity type, and what is reported with the second lacks findings of
a class. -/
def SameReportedLess (gone : Finding → Bool) (a a' : Assembled) : Prop :=
  a.entityType = a'.entityType ∧
    ∃ (found found' : List Located) (failures : List EditFailure), Lacks gone found found' ∧
      a.issues = found.map Located.issue ++ failures.map EditFailure.issue ∧
      a'.issues = found'.map Located.issue ++ failures.map EditFailure.issue

/-- A resource has the same entity type, however the properties of its schema are revised. -/
theorem assemble_revised {gone : Finding → Bool} {revise : Revision} (h : Restates gone revise)
    (r : ResourceConfig) (schema : Json) (m : ModuleConfig) :
    Together Eq (SameReportedLess gone) (r.assemble schema m)
      (r.assemble (schema.revised revise) m) := by
  have htype := (Schema.sameMarks_revised revise schema).typeKeyword?
  rw [assemble, assemble, Schema.rootProperties?, Schema.rootProperties?, ← htype]
  by_cases hobject : (Schema.ofJson schema).typeKeyword? = some "object"
  · rw [if_pos hobject, if_pos hobject]
    rcases Schema.properties?_revised revise schema with ⟨hnone, hnone'⟩ | ⟨ps, hps, hps'⟩
    · rw [hnone, hnone']
      exact .failed rfl
    · rw [hps, hps']
      dsimp only
      cases resolveSource r.source m.sources m.sourceMap with
      | error e => exact .failed rfl
      | ok source =>
          dsimp only
          have hcolumns := inferColumns_revised h (r.site m source) ps
          generalize inferColumns (r.site m source) (nodes ps) = x at hcolumns ⊢
          generalize inferColumns (r.site m source) (nodes (revisedProperties revise ps)) = y
            at hcolumns ⊢
          cases hcolumns with
          | failed he => exact .failed (congrArg _ he)
          | made hn =>
              dsimp only
              rw [← hn.1]
              exact .made ⟨rfl, _, _, _, hn.2, rfl, rfl⟩
  · rw [if_neg hobject, if_neg hobject]
    exact .failed rfl

end ResourceConfig

end EntityCatalog
