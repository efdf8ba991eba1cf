import EntityCatalog.Proofs.Column.Visits

/-!
# The nodes that inference comes to

Inference goes from a node to the properties of an object and to the items of an array, one step at
a time, until no level is left.  Where it goes is a matter of the schema alone: `StepsTo` is one
step, `Reaches` are many, and `reached` lists the nodes that are at most so many steps away, each
with the steps (`mem_reached_iff`).

A step has two more readings.  As a move of the site it says where the value stands
(`scope_follow_of_mem`): the first step into the items of an array changes the scope for good, and
later ones leave it as it is.  And the nodes to which a property leads are the visits of inference,
so the columns at any depth are those of such nodes, one by one and in order (`forall₂_reached`).
-/

namespace EntityCatalog

/-! ## Steps as moves of the site -/

/-- The key of a step, if it goes to a property. -/
def Step.key? : Step → Option String
  | .property key => some key
  | .items => none

/-- The place one step further in. -/
def Site.step (site : Site) : Step → Site
  | .property key => site.property key
  | .items => site.elements

/-- The place that steps lead to. -/
def Site.follow (site : Site) (steps : List Step) : Site := steps.foldl Site.step site

/-- The keys of the steps before the first into the items of an array. -/
def keysOutside : List Step → List String
  | .property key :: rest => key :: keysOutside rest
  | .items :: _ => []
  | [] => []

/-- The keys of the steps behind the first into the items of an array; further ones into items have
none. -/
def keysInside : List Step → List String
  | .property _ :: rest => keysInside rest
  | .items :: rest => rest.filterMap Step.key?
  | [] => []

theorem Site.sourceAlias_follow (site : Site) (steps : List Step) :
    (site.follow steps).sourceAlias = site.sourceAlias := by
  induction steps generalizing site with
  | nil => rfl
  | cons step rest ih =>
      rw [Site.follow, List.foldl_cons, ← Site.follow, ih]
      cases step <;> rfl

/-- Inside an array the array stays the same, whatever further arrays there are. -/
theorem Site.scope_follow_of_element {site : Site} {array keys : List String}
    (hs : site.scope = .element array keys) (steps : List Step) :
    (site.follow steps).scope = .element array (keys ++ steps.filterMap Step.key?) := by
  induction steps generalizing site keys with
  | nil => rw [List.filterMap_nil, List.append_nil, ← hs, Site.follow, List.foldl_nil]
  | cons step rest ih =>
      rw [Site.follow, List.foldl_cons, ← Site.follow]
      cases step with
      | property key =>
          have hone : (site.step (.property key)).scope = .element array (keys ++ [key]) := by
            rw [Site.step, Site.property, hs]
          rw [ih hone, List.append_assoc]
          rfl
      | items =>
          have hone : (site.step .items).scope = .element array keys := by
            rw [Site.step, Site.elements, hs]
          rw [ih hone]
          rfl

/-- Steps through keys alone stay in the document. -/
theorem Site.scope_follow_of_not_mem {site : Site} {keys : List String}
    (hs : site.scope = .document keys) {steps : List Step} (h : Step.items ∉ steps) :
    (site.follow steps).scope = .document (keys ++ steps.filterMap Step.key?) := by
  induction steps generalizing site keys with
  | nil => rw [List.filterMap_nil, List.append_nil, ← hs, Site.follow, List.foldl_nil]
  | cons step rest ih =>
      rw [Site.follow, List.foldl_cons, ← Site.follow]
      cases step with
      | property key =>
          have hone : (site.step (.property key)).scope = .document (keys ++ [key]) := by
            rw [Site.step, Site.property, hs]
          rw [ih hone (fun hmem => h (List.mem_cons_of_mem _ hmem)), List.append_assoc]
          rfl
      | items => exact absurd List.mem_cons_self h

/-- The first step into the items of an array makes its keys those of the array, and the later keys
those inside it. -/
theorem Site.scope_follow_of_mem {site : Site} {keys : List String}
    (hs : site.scope = .document keys) {steps : List Step} (h : Step.items ∈ steps) :
    (site.follow steps).scope = .element (keys ++ keysOutside steps) (keysInside steps) := by
  induction steps generalizing site keys with
  | nil => exact absurd h List.not_mem_nil
  | cons step rest ih =>
      rw [Site.follow, List.foldl_cons, ← Site.follow]
      cases step with
      | property key =>
          have hone : (site.step (.property key)).scope = .document (keys ++ [key]) := by
            rw [Site.step, Site.property, hs]
          have hrest : Step.items ∈ rest := by simpa using h
          rw [ih hone hrest, List.append_assoc]
          rfl
      | items =>
          have hone : (site.step .items).scope = .element keys [] := by
            rw [Site.step, Site.elements, hs]
          rw [Site.scope_follow_of_element hone, keysOutside, keysInside, List.append_nil,
            List.nil_append]

theorem keysInside_concat {steps : List Step} (h : Step.items ∈ steps) (key : String) :
    keysInside (steps ++ [.property key]) = keysInside steps ++ [key] := by
  induction steps with
  | nil => exact absurd h List.not_mem_nil
  | cons step rest ih =>
      cases step with
      | property _ => exact ih (by simpa using h)
      | items =>
          show (rest ++ [Step.property key]).filterMap Step.key? = _
          rw [List.filterMap_append]
          rfl

theorem keysOutside_concat {steps : List Step} (h : Step.items ∈ steps) (key : String) :
    keysOutside (steps ++ [.property key]) = keysOutside steps := by
  induction steps with
  | nil => exact absurd h List.not_mem_nil
  | cons step rest ih =>
      cases step with
      | property outer =>
          exact congrArg (outer :: ·) (ih (by simpa using h))
      | items => rfl

/-! ## Steps from node to node -/

/-- A step that inference takes from a node: to a property that is kept, of an object, or to the
items of an array. -/
inductive StepsTo (s : Schema) : Step → Schema → Prop
  | property {p : Property} : (requestedTag s).1 = .object → p ∈ s.properties?.getD [] →
      p.2.standing = .kept → StepsTo s (.property p.1) p.2
  | items {kind : ArrayKind} {items : Schema} : (requestedTag s).1 = .array kind →
      s.items? = some items → StepsTo s .items items

/-- Steps that inference takes from a node, one after the other. -/
inductive Reaches : Schema → List Step → Schema → Prop
  | refl {s : Schema} : Reaches s [] s
  | step {s s' s'' : Schema} {step : Step} {steps : List Step} :
      StepsTo s step s' → Reaches s' steps s'' → Reaches s (step :: steps) s''

/-- A node with the steps that lead to it. -/
structure Reached where
  steps : List Step
  schema : Schema

namespace Reached

/-- A node as it is reached from one step further out. -/
def under (step : Step) (r : Reached) : Reached := { r with steps := step :: r.steps }

/-- The property that the last step leads to, if it does not lead to items. -/
def property? (r : Reached) : Option Property :=
  (r.steps.getLast?.bind Step.key?).map fun key => (key, r.schema)

/-- The visit of that property, where the steps begin at a site. -/
def visit? (site : Site) (r : Reached) : Option Visit :=
  r.property?.map fun p => ⟨site.follow r.steps.dropLast, p⟩

end Reached

/-- The nodes below a node that are at most so many steps away, each before those below it. -/
def reachedBelow : (levels : Nat) → Schema → List Reached
  | 0, _ => []
  | levels + 1, s =>
      match (requestedTag s).1 with
      | .leaf _ => []
      | .object =>
          (s.properties?.getD []).flatMap fun p =>
            if p.2.standing = .kept then
              (⟨[], p.2⟩ :: reachedBelow levels p.2).map (.under (.property p.1))
            else []
      | .array _ =>
          match s.items? with
          | none => []
          | some items => (⟨[], items⟩ :: reachedBelow levels items).map (.under .items)

/-- The nodes that are at most so many steps away from a node, itself among them. -/
def reached (levels : Nat) (s : Schema) : List Reached := ⟨[], s⟩ :: reachedBelow levels s

theorem mem_reachedBelow_succ {levels : Nat} {s : Schema} {r : Reached} :
    r ∈ reachedBelow (levels + 1) s ↔
      ∃ step s', StepsTo s step s' ∧ ∃ r' ∈ reached levels s', r = r'.under step := by
  rw [reachedBelow]
  constructor
  · intro h
    split at h
    · exact absurd h List.not_mem_nil
    · rename_i htag
      obtain ⟨p, hp, hr⟩ := List.mem_flatMap.mp h
      split at hr
      · rename_i hk
        obtain ⟨r', hr', rfl⟩ := List.mem_map.mp hr
        exact ⟨_, _, .property htag hp hk, r', hr', rfl⟩
      · exact absurd hr List.not_mem_nil
    · rename_i kind htag
      split at h
      · exact absurd h List.not_mem_nil
      · rename_i items hitems
        obtain ⟨r', hr', rfl⟩ := List.mem_map.mp h
        exact ⟨_, _, .items htag hitems, r', hr', rfl⟩
  · rintro ⟨step, s', hstep, r', hr', rfl⟩
    cases hstep with
    | @property p htag hp hk =>
        rw [htag]
        refine List.mem_flatMap.mpr ⟨p, hp, ?_⟩
        rw [if_pos hk]
        exact List.mem_map_of_mem hr'
    | items htag hitems =>
        rw [htag]
        dsimp only
        rw [hitems]
        exact List.mem_map_of_mem hr'

/-- The list has the nodes that inference comes to in at most so many steps, and no others. -/
theorem mem_reached_iff {levels : Nat} {s : Schema} {r : Reached} :
    r ∈ reached levels s ↔ Reaches s r.steps r.schema ∧ r.steps.length ≤ levels := by
  induction levels generalizing s r with
  | zero =>
      constructor
      · intro h
        obtain rfl := List.mem_singleton.mp h
        exact ⟨.refl, Nat.le_refl _⟩
      · obtain ⟨steps, schema⟩ := r
        rintro ⟨h, hlength⟩
        obtain rfl := List.length_eq_zero_iff.mp (Nat.le_zero.mp hlength)
        cases h with
        | refl => exact List.mem_singleton.mpr rfl
  | succ levels ih =>
      constructor
      · intro h
        rcases List.mem_cons.mp h with rfl | h
        · exact ⟨.refl, Nat.zero_le _⟩
        · obtain ⟨step, s', hstep, r', hr', rfl⟩ := mem_reachedBelow_succ.mp h
          obtain ⟨hreach, hlength⟩ := ih.mp hr'
          exact ⟨.step hstep hreach, Nat.succ_le_succ hlength⟩
      · obtain ⟨steps, schema⟩ := r
        rintro ⟨h, hlength⟩
        cases h with
        | refl => exact List.mem_cons_self
        | @step _ s' _ step rest hstep hreach =>
            refine List.mem_cons_of_mem _ (mem_reachedBelow_succ.mpr ⟨step, s', hstep, ?_⟩)
            exact ⟨⟨rest, schema⟩, ih.mpr ⟨hreach, Nat.le_of_succ_le_succ hlength⟩, rfl⟩

/-! ## Nodes and columns -/

theorem Reached.visit?_under {site : Site} {step : Step} {r : Reached} (h : r.steps ≠ []) :
    (r.under step).visit? site = r.visit? (site.step step) := by
  rw [visit?, visit?, property?, property?, under, List.getLast?_cons_of_ne_nil h,
    List.dropLast_cons_of_ne_nil h]
  rfl

theorem steps_ne_nil_of_mem_reachedBelow {levels : Nat} {s : Schema} {r : Reached}
    (h : r ∈ reachedBelow levels s) : r.steps ≠ [] := by
  cases levels with
  | zero => exact absurd h List.not_mem_nil
  | succ levels =>
      obtain ⟨step, s', -, r', -, rfl⟩ := mem_reachedBelow_succ.mp h
      exact List.cons_ne_nil _ _

/-- What is visited at a node and below it, if that is reached by a step. -/
theorem filterMap_visit?_under (levels : Nat) (site : Site) (step : Step) (s : Schema) :
    ((reached levels s).map (.under step)).filterMap (Reached.visit? site)
      = (step.key?.map fun key => Visit.mk site (key, s)).toList
          ++ (reachedBelow levels s).filterMap (Reached.visit? (site.step step)) := by
  have hbelow : ((reachedBelow levels s).map (.under step)).filterMap (Reached.visit? site)
      = (reachedBelow levels s).filterMap (Reached.visit? (site.step step)) := by
    rw [List.filterMap_map]
    exact List.filterMap_congr fun r hr =>
      Reached.visit?_under (steps_ne_nil_of_mem_reachedBelow hr)
  rw [reached, List.map_cons, ← hbelow]
  cases step <;> rfl

/-- The visits of a node are the properties among the nodes below it. -/
theorem nodeVisits_eq_filterMap (levels : Nat) (site : Site) (s : Schema) :
    nodeVisits levels site s = (reachedBelow levels s).filterMap (Reached.visit? site) := by
  induction levels generalizing site s with
  | zero => rfl
  | succ levels ih =>
      rw [nodeVisits, reachedBelow]
      cases (requestedTag s).1 with
      | leaf _ => rfl
      | object =>
          dsimp only
          rw [List.filterMap_flatMap]
          refine List.flatMap_congr fun p _ => ?_
          split
          · have hone := filterMap_visit?_under levels site (.property p.1) p.2
            rw [reached] at hone
            rw [hone, ih]
            rfl
          · rfl
      | array _ =>
          dsimp only
          cases s.items? with
          | none => rfl
          | some items =>
              have hone := filterMap_visit?_under levels site .items items
              rw [reached] at hone
              rw [hone]
              exact ih site.elements items

mutual
theorem map_snd_marked :
    ∀ (t : DataType) (inDocument : Bool), (t.marked inDocument).map Prod.snd = t.innerFields
  | .leaf _, _ => rfl
  | .object properties, inDocument => map_snd_markedFields properties inDocument
  | .array _ item, _ => map_snd_marked item false

theorem map_snd_markedFields :
    ∀ (fs : List Field) (inDocument : Bool),
      (markedFields inDocument fs).map Prod.snd = allFields fs
  | [], _ => rfl
  | ⟨info, t⟩ :: rest, inDocument => by
      rw [markedFields, allFields, List.map_cons, List.map_append, map_snd_marked t inDocument,
        map_snd_markedFields rest inDocument]
end

theorem forall₂_filter_of_filterMap {α β γ : Type} {f : α → Option β} {R : β → γ → Prop} :
    ∀ {l : List α} {m : List γ}, List.Forall₂ R (l.filterMap f) m →
      List.Forall₂ (fun a c => ∃ b, f a = some b ∧ R b c) (l.filter fun a => (f a).isSome) m
  | [], m, h => by
      cases h
      exact .nil
  | a :: l, m, h => by
      rw [List.filterMap_cons] at h
      rw [List.filter_cons]
      cases hf : f a with
      | none =>
          rw [hf] at h
          exact forall₂_filter_of_filterMap h
      | some b =>
          rw [hf] at h
          cases h with
          | cons hb hrest => exact .cons ⟨b, hf, hb⟩ (forall₂_filter_of_filterMap hrest)

/-- The properties that inference comes to from a property, itself the first. -/
def propertiesReached (site : Site) (p : Property) : List Reached :=
  ((reached (site.property p.1).levels p.2).map (.under (.property p.1))).filter
    fun r => r.property?.isSome

theorem Reached.isSome_visit? (site : Site) (r : Reached) :
    (r.visit? site).isSome = r.property?.isSome := by
  rw [visit?, Option.isSome_map]

/-- The properties that inference comes to make the columns at any depth, one by one and in
order. -/
theorem forall₂_reached {site : Site} {p : Property} {n : Noted (Option Field)} {f : Field}
    (h : fieldAt site p.1 p.2 = .ok n) (hf : n.value = some f) :
    List.Forall₂ (fun r g => ∃ v, r.visit? site = some v ∧ v.Makes g) (propertiesReached site p)
      (allFields [f]) := by
  have hok : ∀ q ∈ [p], ∃ n, fieldAt site q.1 q.2 = .ok n :=
    List.forall_mem_singleton.mpr ⟨n, h⟩
  have hvisits := (forall₂_visits hok).imp fun v m hm => hm.2
  rw [visits, List.flatMap_singleton, if_pos (standing_of_value h hf), List.flatMap_singleton,
    fieldOf_of_ok h, hf, Option.toList_some, nodeVisits_eq_filterMap] at hvisits
  have hall : List.Forall₂ Visit.Makes
      (((reached (site.property p.1).levels p.2).map (.under (.property p.1))).filterMap
        (Reached.visit? site)) (allFields [f]) := by
    rw [filterMap_visit?_under, ← map_snd_markedFields [f] site.scope.isDocument,
      List.forall₂_map_right_iff]
    exact hvisits
  have hfilter := forall₂_filter_of_filterMap hall
  simp only [Reached.isSome_visit?] at hfilter
  exact hfilter

end EntityCatalog
