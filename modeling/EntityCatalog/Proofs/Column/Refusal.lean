import EntityCatalog.Proofs.Column.Visits
import EntityCatalog.Proofs.OrderedMap
import EntityCatalog.Proofs.Outcome

/-!
# What ends inference

One thing ends the work on a resource: a property that asks for a visibility that does not exist.
It may stand anywhere that inference comes to, and where there are several, one of them is reported.
The extensions of a property are read before its type is looked at, so a property comes before those
below it, and `visits` has them in that order: what ends the work is the first visit that asks for
such a visibility (`failure?_inferColumns`).

`visits` is a list because the order matters.  Which properties are in it can be said without
levels, property by property: `IsVisited`, and `mem_visits_iff` that the two agree.
-/

namespace EntityCatalog

/-! ## Which properties are visited -/

/-- A node is an object, or an array whose items are that or again such an array; `inner` is the
place of the object.  Nothing is an object or an array where no levels are left. -/
inductive LeadsToObject : Site → Schema → (inner : Site) → Schema → Prop
  | object {site : Site} {s : Schema} :
      site.levels ≠ 0 → (requestedTag s).1 = .object → LeadsToObject site s site s
  | items {site inner : Site} {s items s' : Schema} {kind : ArrayKind} :
      site.levels ≠ 0 → (requestedTag s).1 = .array kind → s.items? = some items →
        LeadsToObject site.elements items inner s' → LeadsToObject site s inner s'

/-- The properties that inference visits: the kept ones of the value at a site, and the kept ones of
each object that a visited property leads to. -/
inductive IsVisited (site : Site) (properties : List Property) : Visit → Prop
  | root {p : Property} : p ∈ properties → p.2.standing = .kept →
      IsVisited site properties ⟨site, p⟩
  | under {v : Visit} {inner : Site} {s : Schema} {p : Property} :
      IsVisited site properties v →
        LeadsToObject (v.site.property v.property.1) v.property.2 inner s →
          p ∈ s.properties?.getD [] → p.2.standing = .kept →
            IsVisited site properties ⟨inner, p⟩

theorem LeadsToObject.levels_ne_zero {site inner : Site} {s s' : Schema}
    (h : LeadsToObject site s inner s') : site.levels ≠ 0 := by
  cases h with
  | object hl _ => exact hl
  | items hl _ _ _ => exact hl

theorem LeadsToObject.levels_le {site inner : Site} {s s' : Schema}
    (h : LeadsToObject site s inner s') : inner.levels ≤ site.levels := by
  induction h with
  | object _ _ => exact Nat.le_refl _
  | items _ _ _ _ ih =>
      rw [Site.levels_elements] at ih
      omega

/-- The visits of a node that leads to an object are those of the object's properties. -/
theorem nodeVisits_of_leadsToObject {site inner : Site} {s s' : Schema}
    (h : LeadsToObject site s inner s') :
    nodeVisits site.levels site s = visits inner (s'.properties?.getD []) := by
  induction h with
  | @object site s hl htag =>
      obtain ⟨levels, hlevels⟩ := Nat.exists_eq_succ_of_ne_zero hl
      have hbelow : ∀ key, (site.property key).levels = levels := by
        intro key
        rw [Site.levels_property, hlevels, Nat.succ_sub_one]
      rw [hlevels, nodeVisits, htag]
      simp only [visits, hbelow]
  | @items site inner s items s' kind hl htag hitems _ ih =>
      obtain ⟨levels, hlevels⟩ := Nat.exists_eq_succ_of_ne_zero hl
      rw [Site.levels_elements, hlevels, Nat.succ_sub_one] at ih
      rw [hlevels, nodeVisits, htag]
      dsimp only
      rw [hitems]
      exact ih

theorem leadsToObject_of_mem_nodeVisits {site : Site} {s : Schema} {v : Visit}
    (h : v ∈ nodeVisits site.levels site s) : ∃ inner s', LeadsToObject site s inner s' := by
  induction hl : site.levels generalizing site s with
  | zero =>
      rw [hl] at h
      exact absurd h List.not_mem_nil
  | succ levels ih =>
      have hpos : site.levels ≠ 0 := by omega
      have helements : site.elements.levels = levels := by
        rw [Site.levels_elements, hl, Nat.add_sub_cancel]
      rw [hl, nodeVisits] at h
      split at h
      · exact absurd h List.not_mem_nil
      · rename_i htag
        exact ⟨site, s, .object hpos htag⟩
      · rename_i kind htag
        split at h
        · exact absurd h List.not_mem_nil
        · rename_i items hitems
          rw [← helements] at h
          obtain ⟨inner, s', hinner⟩ := ih h helements
          exact ⟨inner, s', .items hpos htag hitems hinner⟩

theorem mem_visits {site : Site} {properties : List Property} {v : Visit} :
    v ∈ visits site properties ↔
      ∃ p ∈ properties, p.2.standing = .kept ∧
        (v = ⟨site, p⟩ ∨
          v ∈ nodeVisits (site.property p.1).levels (site.property p.1) p.2) := by
  rw [visits, List.mem_flatMap]
  refine exists_congr fun p => and_congr_right fun _ => ?_
  split
  · rename_i hk
    rw [List.mem_cons]
    exact ⟨fun h => ⟨hk, h⟩, fun h => h.2⟩
  · rename_i hk
    exact ⟨fun h => absurd h List.not_mem_nil, fun h => absurd h.1 hk⟩

/-- What is visited from an object that a visited property leads to is visited. -/
theorem mem_visits_trans {site inner : Site} {properties : List Property} {v w : Visit} {s : Schema}
    (hv : v ∈ visits site properties)
    (hs : LeadsToObject (v.site.property v.property.1) v.property.2 inner s)
    (hw : w ∈ visits inner (s.properties?.getD [])) : w ∈ visits site properties := by
  -- the visit is at the site or further in, where fewer levels are left
  induction hl : site.levels using Nat.strongRecOn generalizing site properties with
  | ind levels ih =>
    obtain ⟨p, hp, hk, hvp⟩ := mem_visits.mp hv
    refine mem_visits.mpr ⟨p, hp, hk, Or.inr ?_⟩
    rcases hvp with rfl | hvp
    · rw [nodeVisits_of_leadsToObject hs]
      exact hw
    · obtain ⟨middle, s', hmiddle⟩ := leadsToObject_of_mem_nodeVisits hvp
      have hlt : middle.levels < levels := by
        have hpos := hmiddle.levels_ne_zero
        have hle := hmiddle.levels_le
        rw [Site.levels_property, hl] at hpos hle
        omega
      rw [nodeVisits_of_leadsToObject hmiddle] at hvp ⊢
      exact ih _ hlt hvp rfl

theorem IsVisited.trans {site inner : Site} {properties : List Property} {v w : Visit} {s : Schema}
    (hv : IsVisited site properties v)
    (hs : LeadsToObject (v.site.property v.property.1) v.property.2 inner s)
    (hw : IsVisited inner (s.properties?.getD []) w) : IsVisited site properties w := by
  induction hw with
  | root hp hk => exact .under hv hs hp hk
  | under _ hlead hp hk ih => exact .under ih hlead hp hk

/-- The list of visits has the properties that are visited and no others. -/
theorem mem_visits_iff {site : Site} {properties : List Property} {v : Visit} :
    v ∈ visits site properties ↔ IsVisited site properties v := by
  constructor
  · intro h
    induction hl : site.levels using Nat.strongRecOn generalizing site properties with
    | ind levels ih =>
      obtain ⟨p, hp, hk, rfl | hv⟩ := mem_visits.mp h
      · exact .root hp hk
      · obtain ⟨inner, s', hinner⟩ := leadsToObject_of_mem_nodeVisits hv
        have hlt : inner.levels < levels := by
          have hpos := hinner.levels_ne_zero
          have hle := hinner.levels_le
          rw [Site.levels_property, hl] at hpos hle
          omega
        rw [nodeVisits_of_leadsToObject hinner] at hv
        exact (IsVisited.root hp hk).trans hinner (ih _ hlt hv rfl)
  · intro h
    induction h with
    | root hp hk => exact mem_visits.mpr ⟨_, hp, hk, Or.inl rfl⟩
    | under _ hs hp hk ih =>
        exact mem_visits_trans ih hs (mem_visits.mpr ⟨_, hp, hk, Or.inl rfl⟩)

/-! ## Visibilities that do not exist -/

/-- Whether a property asks for a visibility that does not exist, and for which. -/
def Property.Misasks (p : Property) (value : Json) : Prop :=
  p.2.keyword? "x-fqm-visibility" = some value ∧
    ∀ name ∈ ["all", "query-only", "results-only", "hidden"], value ≠ .string name

/-- What ends inference at a visited property itself, if something does. -/
def Visit.failure? (v : Visit) : Option InvalidVisibility :=
  EntityCatalog.failure? (Extensions.visibility? v.property.1 v.property.2)

theorem lookup_visibility_eq_none_iff {name : String} :
    Visibility.names.lookup name = none ↔
      name ∉ ["all", "query-only", "results-only", "hidden"] :=
  OrderedMap.lookup_eq_none_iff

theorem Visit.failure?_eq_some_iff {v : Visit} {e : InvalidVisibility} :
    v.failure? = some e ↔
      ∃ value, v.property.Misasks value ∧ e = ⟨v.property.1, Schema.word value⟩ := by
  have hfail : ∀ value : Json, (value.text?.bind fun name => Visibility.names.lookup name) = none ↔
      ∀ name ∈ ["all", "query-only", "results-only", "hidden"], value ≠ .string name := by
    intro value
    cases value with
    | string text =>
        show Visibility.names.lookup text = none ↔ _
        rw [lookup_visibility_eq_none_iff]
        exact ⟨fun h name hname heq => h (Json.string.inj heq ▸ hname),
          fun h hname => h text hname rfl⟩
    | null => exact ⟨fun _ _ _ => nofun, fun _ => rfl⟩
    | bool _ => exact ⟨fun _ _ _ => nofun, fun _ => rfl⟩
    | number _ => exact ⟨fun _ _ _ => nofun, fun _ => rfl⟩
    | array _ => exact ⟨fun _ _ _ => nofun, fun _ => rfl⟩
    | object _ => exact ⟨fun _ _ _ => nofun, fun _ => rfl⟩
  unfold Visit.failure? Extensions.visibility?
  cases hkey : v.property.2.keyword? "x-fqm-visibility" with
  | none =>
      refine ⟨nofun, fun ⟨value, hvalue, _⟩ => ?_⟩
      rw [hvalue.1] at hkey
      exact absurd hkey (by simp)
  | some value =>
      dsimp only
      split
      · rename_i visibility hsome
        refine ⟨nofun, fun ⟨other, hother, _⟩ => ?_⟩
        obtain rfl : other = value := Option.some.inj (hother.1.symm.trans hkey)
        rw [(hfail other).mpr hother.2] at hsome
        exact absurd hsome (by simp)
      · rename_i hnone
        constructor
        · intro h
          exact ⟨value, ⟨hkey, (hfail value).mp hnone⟩, (Option.some.inj h).symm⟩
        · rintro ⟨other, hother, rfl⟩
          obtain rfl : other = value := Option.some.inj (hother.1.symm.trans hkey)
          rfl

/-! ## The first of them ends the work -/

theorem failure?_fieldAt (site : Site) (p : Property) :
    failure? (fieldAt site p.1 p.2)
      = if p.2.standing = .kept then
          (Visit.failure? ⟨site, p⟩).or (failure? (typeAt (site.property p.1) p.2))
        else none := by
  have hext : failure? (Extensions.ofSchema p.1 p.2) = Visit.failure? ⟨site, p⟩ :=
    failure?_map _ _
  rw [fieldAt, inferFieldWith, ← hext]
  cases p.2.standing with
  | ignored => rfl
  | skippedAsVirtual => rfl
  | kept =>
      dsimp only
      rw [if_pos rfl]
      cases Extensions.ofSchema p.1 p.2 with
      | error e => rfl
      | ok pair => cases typeAt (site.property p.1) p.2 <;> rfl

theorem failure?_inferFieldsWith (site : Site) (properties : List Property) :
    failure? (inferFieldsWith typeAt site properties)
      = properties.findSome? fun p => failure? (fieldAt site p.1 p.2) := by
  induction properties with
  | nil => rfl
  | cons p properties ih =>
      rw [inferFieldsWith, List.findSome?_cons, ← ih]
      split
      · rename_i hig
        rw [fieldAt_of_isIgnored hig]
        rfl
      · rw [← fieldAt]
        cases fieldAt site p.1 p.2 with
        | error e => rfl
        | ok field => cases inferFieldsWith typeAt site properties <;> rfl

theorem failure?_inferColumns_eq (site : Site) (properties : List Property) :
    failure? (inferColumns site properties)
      = properties.findSome? fun p => failure? (fieldAt site p.1 p.2) := by
  induction properties with
  | nil => rfl
  | cons p properties ih =>
      rw [inferColumns, List.findSome?_cons, ← ih]
      cases fieldAt site p.1 p.2 with
      | error e => rfl
      | ok field => cases inferColumns site properties <;> rfl

/-- If a node fails where a visit below it does, so do several properties, each before those in its
own node. -/
theorem findSome?_fieldAt {site : Site} {properties : List Property}
    (hbelow : ∀ p ∈ properties, failure? (typeAt (site.property p.1) p.2)
      = (nodeVisits (site.property p.1).levels (site.property p.1) p.2).findSome? Visit.failure?) :
    (properties.findSome? fun p => failure? (fieldAt site p.1 p.2))
      = (visits site properties).findSome? Visit.failure? := by
  induction properties with
  | nil => rfl
  | cons p properties ih =>
      obtain ⟨hp, hproperties⟩ := List.forall_mem_cons.mp hbelow
      have hone : failure? (fieldAt site p.1 p.2)
          = (if p.2.standing = .kept then
              ⟨site, p⟩ :: nodeVisits (site.property p.1).levels (site.property p.1) p.2
            else []).findSome? Visit.failure? := by
        rw [failure?_fieldAt, hp]
        split
        · rw [List.findSome?_cons]
          cases Visit.failure? ⟨site, p⟩ <;> rfl
        · rfl
      rw [visits, List.flatMap_cons, List.findSome?_append, List.findSome?_cons, ih hproperties,
        hone, visits]
      cases List.findSome? Visit.failure? _ <;> rfl

theorem failure?_typeAt (site : Site) (s : Schema) :
    failure? (typeAt site s) = (nodeVisits site.levels site s).findSome? Visit.failure? := by
  induction hl : site.levels generalizing site s with
  | zero =>
      rw [typeAt_tooDeep hl]
      rfl
  | succ levels ih =>
      have hproperty : ∀ key, (site.property key).levels = levels := by
        intro key
        rw [Site.levels_property, hl, Nat.add_sub_cancel]
      have helements : site.elements.levels = levels := by
        rw [Site.levels_elements, hl, Nat.add_sub_cancel]
      rw [typeAt_eq (by omega), nodeType, nodeVisits]
      cases htag : requestedTag s with
      | mk tag findings =>
          cases tag with
          | leaf t => rfl
          | object =>
              dsimp only
              have hvisits : (s.properties?.getD []).findSome?
                    (fun p => failure? (fieldAt site p.1 p.2))
                  = (visits site (s.properties?.getD [])).findSome? Visit.failure? := by
                refine findSome?_fieldAt fun p _ => ?_
                rw [hproperty]
                exact ih _ _ (hproperty p.1)
              simp only [visits, hproperty] at hvisits
              rw [failure?_map, failure?_inferFieldsWith]
              exact hvisits
          | array kind =>
              dsimp only
              cases s.items? with
              | none => rfl
              | some items =>
                  dsimp only
                  rw [failure?_map]
                  exact ih _ _ helements

/-- What ends inference is the first visited property that asks for a visibility that does not
exist. -/
theorem failure?_inferColumns (site : Site) (properties : List Property) :
    failure? (inferColumns site properties)
      = (visits site properties).findSome? Visit.failure? := by
  rw [failure?_inferColumns_eq]
  exact findSome?_fieldAt fun p _ => failure?_typeAt (site.property p.1) p.2

end EntityCatalog
