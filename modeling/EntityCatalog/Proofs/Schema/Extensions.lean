import EntityCatalog.Proofs.OrderedMap
import EntityCatalog.Proofs.Outcome
import EntityCatalog.Proofs.Schema.Keywords

/-!
# Extensions, key by key

What is wrong with the extensions of a node is answered key by key.  `flaw?` is what is wrong with
the value of one key, and all that is wrong is read off the keys one after the other (`ofSchema_eq`),
so what one of them says does not depend on the others.

It is the same with what they give.  A value that has not its shape gives nothing, as if the key had
none, so two nodes give the same if each key is spared (`given_of_spared`).
-/

namespace EntityCatalog

/-- Whether a finding is about extensions. -/
def Finding.isAboutExtensions : Finding → Bool
  | .unknownExtensions _ _ => true
  | .malformedIgnore _ _ => true
  | .malformedJoins _ => true
  | .malformedExtension _ _ _ => true
  | .malformedGetter _ _ _ => true
  | _ => false

namespace Extensions

/-! ## What is wrong with one extension -/

/-- What is wrong with a value that is to have a shape. -/
def typedFlaw {α : Type} (read : Shape.Reader α) (key property : String) (j : Json) :
    Option Finding :=
  (failure? (read .json j)).map (.malformedExtension key property)

/-- What is wrong with a value that is to give or remove an expression. -/
def getterFlaw (key property : String) : Json → Option Finding
  | .null => none
  | .string _ => none
  | found => some (.malformedGetter key property found)

/-- What is wrong with a value that is to be joins. -/
def joinsFlaw (_key _property : String) (j : Json) : Option Finding :=
  (failure? (Shape.list DeclaredJoin.read .json j)).map .malformedJoins

/-- The extensions whose values have a shape, in the order in which they are read, and what is wrong
with a value of each. -/
def shapes : List (String × ((key property : String) → Json → Option Finding)) :=
  [("x-fqm-joins-to", joinsFlaw),
   ("x-fqm-name", typedFlaw Shape.text),
   ("x-fqm-value-getter", getterFlaw),
   ("x-fqm-filter-value-getter", getterFlaw),
   ("x-fqm-value-function", getterFlaw),
   ("x-fqm-is-id-column", typedFlaw Shape.truth),
   ("x-fqm-value-source-api", typedFlaw ValueSourceApi.record.read),
   ("x-fqm-values", typedFlaw (Shape.list ValueLabel.record.read)),
   ("x-fqm-visible-by-default", typedFlaw Shape.truth),
   ("x-fqm-essential", typedFlaw Shape.truth),
   ("x-fqm-joins-to-raw", typedFlaw (Shape.list ResolvedJoin.read)),
   ("x-fqm-source", typedFlaw FieldSource.record.read)]

/-- The keys of the extensions whose values have a shape. -/
def shapedKeys : List String := shapes.map (·.1)

/-- What is wrong with the value of an extension, if the node has it and it has not its shape. -/
def flaw? (property : String) (s : Schema) (key : String) : Option Finding :=
  (shapes.lookup key).bind fun flaw => (s.keyword? key).bind (flaw key property)

/-- What is found at the extensions of a property's schema. -/
def findings (property : String) (s : Schema) : List Finding :=
  unknown ("property " ++ property) s ++ ignoreFindings property s
    ++ shapedKeys.filterMap (flaw? property s)

theorem isAboutExtensions_of_typedFlaw {α : Type} {read : Shape.Reader α} {key property : String}
    {j : Json} {f : Finding} (h : typedFlaw read key property j = some f) :
    f.isAboutExtensions = true := by
  obtain ⟨reason, -, rfl⟩ := Option.map_eq_some_iff.mp h
  rfl

theorem isAboutExtensions_of_getterFlaw {key property : String} {j : Json} {f : Finding}
    (h : getterFlaw key property j = some f) : f.isAboutExtensions = true := by
  unfold getterFlaw at h
  split at h
  · exact nomatch h
  · exact nomatch h
  · rw [← Option.some.inj h]
    rfl

theorem isAboutExtensions_of_joinsFlaw {key property : String} {j : Json} {f : Finding}
    (h : joinsFlaw key property j = some f) : f.isAboutExtensions = true := by
  obtain ⟨reason, -, rfl⟩ := Option.map_eq_some_iff.mp h
  rfl

theorem isAboutExtensions_of_flaw? {property : String} {s : Schema} {key : String} {f : Finding}
    (h : flaw? property s key = some f) : f.isAboutExtensions = true := by
  have hshapes : ∀ shape ∈ shapes, ∀ (key property : String) (j : Json) (f : Finding),
      shape.2 key property j = some f → f.isAboutExtensions = true := by
    simp only [shapes, List.forall_mem_cons, List.not_mem_nil, false_implies, implies_true, and_true]
    exact ⟨fun _ _ _ _ => isAboutExtensions_of_joinsFlaw, fun _ _ _ _ => isAboutExtensions_of_typedFlaw,
      fun _ _ _ _ => isAboutExtensions_of_getterFlaw, fun _ _ _ _ => isAboutExtensions_of_getterFlaw,
      fun _ _ _ _ => isAboutExtensions_of_getterFlaw, fun _ _ _ _ => isAboutExtensions_of_typedFlaw,
      fun _ _ _ _ => isAboutExtensions_of_typedFlaw, fun _ _ _ _ => isAboutExtensions_of_typedFlaw,
      fun _ _ _ _ => isAboutExtensions_of_typedFlaw, fun _ _ _ _ => isAboutExtensions_of_typedFlaw,
      fun _ _ _ _ => isAboutExtensions_of_typedFlaw, fun _ _ _ _ => isAboutExtensions_of_typedFlaw⟩
  obtain ⟨flaw, hflaw, hj⟩ := Option.bind_eq_some_iff.mp h
  obtain ⟨j, -, hf⟩ := Option.bind_eq_some_iff.mp hj
  exact hshapes _ (OrderedMap.mem_of_lookup hflaw) key property j f hf

theorem isAboutExtensions_of_mem_unknown {owner : String} {s : Schema} {f : Finding}
    (h : f ∈ unknown owner s) : f.isAboutExtensions = true := by
  unfold unknown at h
  split at h
  · exact absurd h List.not_mem_nil
  · rw [List.mem_singleton.mp h]
    rfl

theorem isAboutExtensions_of_mem_ignoreFindings {property : String} {s : Schema} {f : Finding}
    (h : f ∈ ignoreFindings property s) : f.isAboutExtensions = true := by
  unfold ignoreFindings at h
  split at h
  · rw [List.mem_singleton.mp h]
    rfl
  · exact absurd h List.not_mem_nil

/-- What is found at extensions is about extensions. -/
theorem isAboutExtensions_of_mem_findings {property : String} {s : Schema} {f : Finding}
    (h : f ∈ findings property s) : f.isAboutExtensions = true := by
  rcases List.mem_append.mp h with h | h
  · rcases List.mem_append.mp h with h | h
    · exact isAboutExtensions_of_mem_unknown h
    · exact isAboutExtensions_of_mem_ignoreFindings h
  · obtain ⟨key, -, hf⟩ := List.mem_filterMap.mp h
    exact isAboutExtensions_of_flaw? hf

theorem mem_shapedKeys_of_flaw? {property : String} {s : Schema} {key : String} {f : Finding}
    (h : flaw? property s key = some f) : key ∈ shapedKeys := by
  obtain ⟨flaw, hflaw, -⟩ := Option.bind_eq_some_iff.mp h
  exact List.mem_map_of_mem (OrderedMap.mem_of_lookup hflaw)

section Reading

variable {α : Type} (property : String) (s : Schema)

theorem typed_snd (read : Shape.Reader α) (key : String)
    (hkey : shapes.lookup key = some (typedFlaw read)) :
    (typed property s key read).2 = (flaw? property s key).toList := by
  rw [typed, flaw?, hkey, Option.bind_some]
  cases s.keyword? key with
  | none => rfl
  | some j =>
      dsimp only
      rw [Option.bind_some, typedFlaw]
      cases read .json j <;> rfl

theorem getter_snd (key : String) (hkey : shapes.lookup key = some getterFlaw) :
    (getter property s key).2 = (flaw? property s key).toList := by
  rw [getter, flaw?, hkey, Option.bind_some]
  cases s.keyword? key with
  | none => rfl
  | some j => cases j <;> rfl

theorem joins_snd : (joins s).2 = (flaw? property s "x-fqm-joins-to").toList := by
  have hkey : shapes.lookup "x-fqm-joins-to" = some joinsFlaw := rfl
  rw [joins, flaw?, hkey, Option.bind_some]
  cases s.keyword? "x-fqm-joins-to" with
  | none => rfl
  | some j =>
      dsimp only
      rw [Option.bind_some, joinsFlaw]
      cases Shape.list DeclaredJoin.read .json j <;> rfl

/-- The extensions that a node gives, besides its visibility. -/
def given (visibility : Option Visibility) : Extensions :=
  { name := (typed property s "x-fqm-name" Shape.text).1
    valueGetter := (getter property s "x-fqm-value-getter").1
    filterValueGetter := (getter property s "x-fqm-filter-value-getter").1
    valueFunction := (getter property s "x-fqm-value-function").1
    isIdColumn := (typed property s "x-fqm-is-id-column" Shape.truth).1
    valueSourceApi := (typed property s "x-fqm-value-source-api" ValueSourceApi.record.read).1
    values := (typed property s "x-fqm-values" (Shape.list ValueLabel.record.read)).1
    visibleByDefault := (typed property s "x-fqm-visible-by-default" Shape.truth).1
    visibility
    essential := (typed property s "x-fqm-essential" Shape.truth).1
    joinsTo := (joins s).1
    joinsToRaw := (typed property s "x-fqm-joins-to-raw" (Shape.list ResolvedJoin.read)).1
    source := (typed property s "x-fqm-source" FieldSource.record.read).1 }

/-- What is wrong with the keys that have a shape, written out. -/
theorem filterMap_flaw? :
    shapedKeys.filterMap (flaw? property s)
      = (joins s).2 ++ (typed property s "x-fqm-name" Shape.text).2
          ++ (getter property s "x-fqm-value-getter").2
          ++ (getter property s "x-fqm-filter-value-getter").2
          ++ (getter property s "x-fqm-value-function").2
          ++ (typed property s "x-fqm-is-id-column" Shape.truth).2
          ++ (typed property s "x-fqm-value-source-api" ValueSourceApi.record.read).2
          ++ (typed property s "x-fqm-values" (Shape.list ValueLabel.record.read)).2
          ++ (typed property s "x-fqm-visible-by-default" Shape.truth).2
          ++ (typed property s "x-fqm-essential" Shape.truth).2
          ++ (typed property s "x-fqm-joins-to-raw" (Shape.list ResolvedJoin.read)).2
          ++ (typed property s "x-fqm-source" FieldSource.record.read).2 := by
  rw [joins_snd property, typed_snd property s Shape.text "x-fqm-name" rfl,
    getter_snd property s "x-fqm-value-getter" rfl,
    getter_snd property s "x-fqm-filter-value-getter" rfl,
    getter_snd property s "x-fqm-value-function" rfl,
    typed_snd property s Shape.truth "x-fqm-is-id-column" rfl,
    typed_snd property s ValueSourceApi.record.read "x-fqm-value-source-api" rfl,
    typed_snd property s (Shape.list ValueLabel.record.read) "x-fqm-values" rfl,
    typed_snd property s Shape.truth "x-fqm-visible-by-default" rfl,
    typed_snd property s Shape.truth "x-fqm-essential" rfl,
    typed_snd property s (Shape.list ResolvedJoin.read) "x-fqm-joins-to-raw" rfl,
    typed_snd property s FieldSource.record.read "x-fqm-source" rfl]
  simp only [List.filterMap_eq_flatMap_toList, shapedKeys, shapes, List.map_cons, List.map_nil,
    List.flatMap_cons, List.flatMap_nil, List.append_nil, List.append_assoc]

/-- Unless the visibility does not exist, each extension is read by itself. -/
theorem ofSchema_eq :
    ofSchema property s
      = (visibility? property s).map fun v => (given property s v, findings property s) := by
  rw [ofSchema]
  simp only [findings, filterMap_flaw?, List.append_assoc, given]

end Reading

/-! ## What several nodes give alike -/

/-- A key that has the same value in two nodes, or has none in the second because that in the first
is malformed. -/
def Spared (property : String) (s s' : Schema) (key : String) : Prop :=
  s'.keyword? key = s.keyword? key ∨
    s'.keyword? key = none ∧ (flaw? property s key).isSome = true

section Reading

variable {α : Type} {property : String} {s s' : Schema} {key : String}

/-- What is read from a spared key is the same, if nothing is read from a malformed value. -/
theorem Spared.bind (h : Spared property s s' key) {read? : Json → Option α}
    (hread : ∀ j, s.keyword? key = some j → (flaw? property s key).isSome = true → read? j = none) :
    (s'.keyword? key).bind read? = (s.keyword? key).bind read? := by
  rcases h with h | ⟨habsent, hflaw⟩
  · rw [h]
  · rw [habsent]
    cases hj : s.keyword? key with
    | none => rfl
    | some j => exact (hread j hj hflaw).symm

/-- Nothing is read from a value that has not its shape. -/
theorem toOption_of_flaw? {read : Shape.Reader α} {flaw : Shape.Mismatch → Finding} {j : Json}
    (h : ((failure? (read .json j)).map flaw).isSome = true) : (read .json j).toOption = none := by
  cases hread : read .json j with
  | ok a =>
      rw [hread] at h
      exact nomatch h
  | error reason => rfl

theorem Spared.typed (h : Spared property s s' key) (read : Shape.Reader α)
    (hkey : shapes.lookup key = some (typedFlaw read)) :
    (typed property s' key read).1 = (typed property s key read).1 := by
  have htyped : ∀ s : Schema, (Extensions.typed property s key read).1
      = (s.keyword? key).bind fun j => (read .json j).toOption := by
    intro s
    rw [Extensions.typed]
    cases s.keyword? key with
    | none => rfl
    | some j =>
        dsimp only
        rw [Option.bind_some]
        cases read .json j <;> rfl
  rw [htyped, htyped]
  refine h.bind fun j hj hflaw => ?_
  rw [flaw?, hkey, hj] at hflaw
  exact toOption_of_flaw? hflaw

theorem Spared.joins (h : Spared property s s' "x-fqm-joins-to") : (joins s').1 = (joins s).1 := by
  have hkey : shapes.lookup "x-fqm-joins-to" = some joinsFlaw := rfl
  have hjoins : ∀ s : Schema, (Extensions.joins s).1
      = ((s.keyword? "x-fqm-joins-to").bind fun j =>
          (Shape.list DeclaredJoin.read .json j).toOption).getD [] := by
    intro s
    rw [Extensions.joins]
    cases s.keyword? "x-fqm-joins-to" with
    | none => rfl
    | some j =>
        dsimp only
        rw [Option.bind_some]
        cases Shape.list DeclaredJoin.read .json j <;> rfl
  rw [hjoins, hjoins, h.bind fun j hj hflaw => ?_]
  rw [flaw?, hkey, hj] at hflaw
  exact toOption_of_flaw? hflaw

/-- What a value does to an expression, if it gives or removes one. -/
def overrideOf? : Json → Option GetterOverride
  | .null => some .remove
  | .string expression => some (.replace expression)
  | _ => none

theorem Spared.getter (h : Spared property s s' key)
    (hkey : shapes.lookup key = some getterFlaw) :
    (getter property s' key).1 = (getter property s key).1 := by
  have hgetter : ∀ s : Schema, (Extensions.getter property s key).1
      = ((s.keyword? key).bind overrideOf?).getD .keep := by
    intro s
    rw [Extensions.getter]
    cases s.keyword? key with
    | none => rfl
    | some j => cases j <;> rfl
  rw [hgetter, hgetter, h.bind fun j hj hflaw => ?_]
  rw [flaw?, hkey, hj] at hflaw
  cases j with
  | null => exact nomatch hflaw
  | string _ => exact nomatch hflaw
  | bool _ => rfl
  | number _ => rfl
  | array _ => rfl
  | object _ => rfl

/-- Extensions that are read from spared keys are the same. -/
theorem given_of_spared (h : ∀ key ∈ shapedKeys, Spared property s s' key)
    (v : Option Visibility) : given property s' v = given property s v := by
  rw [given, given,
    (h "x-fqm-name" (by decide)).typed Shape.text rfl,
    (h "x-fqm-value-getter" (by decide)).getter rfl,
    (h "x-fqm-filter-value-getter" (by decide)).getter rfl,
    (h "x-fqm-value-function" (by decide)).getter rfl,
    (h "x-fqm-is-id-column" (by decide)).typed Shape.truth rfl,
    (h "x-fqm-value-source-api" (by decide)).typed ValueSourceApi.record.read rfl,
    (h "x-fqm-values" (by decide)).typed (Shape.list ValueLabel.record.read) rfl,
    (h "x-fqm-visible-by-default" (by decide)).typed Shape.truth rfl,
    (h "x-fqm-essential" (by decide)).typed Shape.truth rfl,
    (h "x-fqm-joins-to" (by decide)).joins,
    (h "x-fqm-joins-to-raw" (by decide)).typed (Shape.list ResolvedJoin.read) rfl,
    (h "x-fqm-source" (by decide)).typed FieldSource.record.read rfl]

end Reading

end Extensions

end EntityCatalog
