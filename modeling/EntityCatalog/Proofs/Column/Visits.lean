import EntityCatalog.Proofs.Column.LeafPath
import EntityCatalog.Proofs.Column.Opening

/-!
# The properties that inference visits

Inference goes from the root through objects and arrays as far as there are levels, and makes a
column of every kept property on its way.  `visits` lists these properties, each with the place of
the value that it belongs to, and `forall₂_visits` holds the list against the columns at any depth:
they are the columns that inference makes, one by one and in order.

The place tells more than where a value is.  It is reached from the document by keys alone exactly
as long as no array was passed, so the mark of a column, whether flattening opens it, is a matter of
the visit (`Visit.isOpened`).
-/

namespace EntityCatalog

/-! ## Visits -/

/-- A property at the place of the value that it belongs to. -/
structure Visit where
  site : Site
  property : Property

/-- Whether a value is reached from the document by keys alone, and is not inside an array. -/
def Scope.isDocument : Scope → Bool
  | .document _ => true
  | .element _ _ => false

@[simp] theorem Site.isDocument_property (site : Site) (key : String) :
    (site.property key).scope.isDocument = site.scope.isDocument := by
  rw [Site.property]
  cases site.scope <;> rfl

@[simp] theorem Site.isDocument_elements (site : Site) : site.elements.scope.isDocument = false := by
  rw [Site.elements]
  cases site.scope <;> rfl

namespace Visit

/-- Whether the property's column is opened: it is an object, and not inside an array. -/
def isOpened (v : Visit) : Bool :=
  v.site.scope.isDocument && opens (v.site.property v.property.1) v.property.2

/-- Inference makes the column of the property. -/
def Makes (v : Visit) (f : Field) : Prop :=
  ∃ n, fieldAt v.site v.property.1 v.property.2 = .ok n ∧ n.value = some f

/-- Inference makes the column of the property, and the mark is right. -/
def MakesMarked (v : Visit) (m : Bool × Field) : Prop := v.isOpened = m.1 ∧ v.Makes m.2

end Visit

/-- The kept properties in a node, of which as many levels as given are looked at, each before those
in its own node. -/
def nodeVisits : (levels : Nat) → Site → Schema → List Visit
  | 0, _, _ => []
  | levels + 1, site, s =>
      match (requestedTag s).1 with
      | .leaf _ => []
      | .object =>
          (s.properties?.getD []).flatMap fun p =>
            if p.2.standing = .kept then
              ⟨site, p⟩ :: nodeVisits levels (site.property p.1) p.2
            else []
      | .array _ =>
          match s.items? with
          | none => []
          | some items => nodeVisits levels site.elements items

/-- The kept properties at any depth of the value at a site that has some properties. -/
def visits (site : Site) (properties : List Property) : List Visit :=
  properties.flatMap fun p =>
    if p.2.standing = .kept then
      ⟨site, p⟩ :: nodeVisits (site.property p.1).levels (site.property p.1) p.2
    else []

/-! ## Visits and columns -/

/-- The visits of a node make the properties in its type, at any depth. -/
def MakesType (site : Site) (s : Schema) : Prop :=
  ∀ t, typeAt site s = .ok t →
    List.Forall₂ Visit.MakesMarked (nodeVisits site.levels site s)
      (t.value.marked site.scope.isDocument)

/-- If that is so below every property, the visits of the properties make their columns. -/
theorem forall₂_visits_of_below {site : Site} {properties : List Property}
    (hok : ∀ p ∈ properties, ∃ n, fieldAt site p.1 p.2 = .ok n)
    (hbelow : ∀ p ∈ properties, MakesType (site.property p.1) p.2) :
    List.Forall₂ Visit.MakesMarked (visits site properties)
      (markedFields site.scope.isDocument (properties.flatMap (fieldOf site))) := by
  rw [visits, markedFields_flatMap]
  refine forall₂_flatMap fun p hp => ?_
  obtain ⟨n, hn⟩ := hok p hp
  rw [fieldOf_of_ok hn]
  by_cases hk : p.2.standing = .kept
  · obtain ⟨e, findings, t, -, ht, hval⟩ := fieldAt_kept hn hk
    have hinner := hbelow p hp t ht
    rw [Site.isDocument_property] at hinner
    have hmark : Visit.isOpened ⟨site, p⟩ = (site.scope.isDocument && t.value.isObject) := by
      rw [Visit.isOpened, opens, ht]
    rw [if_pos hk, hval, Option.toList_some, markedFields_cons, markedFields, List.append_nil]
    exact .cons ⟨hmark, n, hn, hval⟩ hinner
  · rw [if_neg hk, fieldAt_not_kept hn hk]
    exact .nil

/-- The visits of a node make the properties in its type. -/
theorem makesType {site : Site} {s : Schema} : MakesType site s := by
  -- the induction is on the levels that are left, of which a visit below has one less
  induction hl : site.levels generalizing site s with
  | zero =>
      intro t ht
      rw [typeAt_tooDeep hl] at ht
      rw [← Except.ok.inj ht, hl]
      exact .nil
  | succ levels ih =>
      have hproperty : ∀ key, (site.property key).levels = levels := by
        intro key
        rw [Site.levels_property, hl, Nat.add_sub_cancel]
      have helements : site.elements.levels = levels := by
        rw [Site.levels_elements, hl, Nat.add_sub_cancel]
      intro t ht
      have hmade := nodeMade_of_typeAt (by omega) ht
      generalize t.value = type at hmade ⊢
      rw [hl, nodeVisits]
      cases hmade with
      | leaf htag =>
          rw [htag]
          exact .nil
      | @object fields htag hf =>
          obtain ⟨hok, hvalue⟩ := inferFieldsWith_value hf
          have hvisits := forall₂_visits_of_below hok fun p _ => ih (hproperty p.1)
          simp only [visits, hproperty] at hvisits
          rw [htag, DataType.marked, hvalue]
          exact hvisits
      | unknownItems htag hi =>
          rw [htag]
          dsimp only
          rw [hi]
          exact .nil
      | array htag hi hitem =>
          have hvisits := ih helements _ hitem
          rw [helements, Site.isDocument_elements] at hvisits
          rw [htag]
          dsimp only
          rw [hi]
          exact hvisits

/-- The visits of properties make the columns at any depth, one by one and in order, and tell which
of them are opened. -/
theorem forall₂_visits {site : Site} {properties : List Property}
    (hok : ∀ p ∈ properties, ∃ n, fieldAt site p.1 p.2 = .ok n) :
    List.Forall₂ Visit.MakesMarked (visits site properties)
      (markedFields site.scope.isDocument (properties.flatMap (fieldOf site))) :=
  forall₂_visits_of_below hok fun _ _ => makesType

/-- The visits that are not opened make the columns that last. -/
theorem forall₂_lastingFields {site : Site} (hs : site.scope.isDocument = true)
    {properties : List Property} (hok : ∀ p ∈ properties, ∃ n, fieldAt site p.1 p.2 = .ok n) :
    List.Forall₂ Visit.Makes ((visits site properties).filter fun v => !v.isOpened)
      (lastingFields (properties.flatMap (fieldOf site))) := by
  have hvisits := forall₂_visits hok
  rw [hs] at hvisits
  rw [lastingFields, unopened, List.forall₂_map_right_iff]
  refine (List.rel_filter (R := Visit.MakesMarked) ?_ hvisits).imp fun v m h => h.2
  intro v m h
  dsimp only
  rw [h.1]

end EntityCatalog
