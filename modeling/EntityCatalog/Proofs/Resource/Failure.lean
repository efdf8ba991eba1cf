import EntityCatalog.Proofs.Column.Refusal
import EntityCatalog.Proofs.Resource.Provenance

/-!
# When a resource has no entity type

Assembly fails for three reasons, and each is looked for only where those before it are not met:
the root, the source, and the visibilities of the properties that inference visits.  The last is the
one that can stand deep in a schema.  An ignored or computed property, a reference, a type that is
given outright and the limit on nesting all hide what is behind them, so a visibility that does not
exist fails a resource exactly where a visit comes to it, and the first of them in the order of
`visits` is the one that is named.
-/

namespace EntityCatalog

/-- Whether the root of a schema is an object that declares properties. -/
def Schema.Declares (s : Schema) (properties : List Property) : Prop :=
  s.typeKeyword? = some "object" ∧ s.properties? = some properties

theorem Schema.rootProperties?_eq_some_iff {s : Schema} {properties : List Property} :
    s.rootProperties? = some properties ↔ s.Declares properties := by
  unfold rootProperties? Declares
  split
  · rename_i htype
    exact ⟨fun h => ⟨htype, h⟩, fun h => h.2⟩
  · rename_i htype
    exact ⟨nofun, fun h => absurd h.1 htype⟩

theorem Schema.rootProperties?_eq_none_iff {s : Schema} :
    s.rootProperties? = none ↔ s.typeKeyword? ≠ some "object" ∨ s.properties? = none := by
  unfold rootProperties?
  split
  · rename_i htype
    exact ⟨Or.inr, fun h => h.resolve_left fun hne => hne htype⟩
  · rename_i htype
    exact ⟨fun _ => Or.inl htype, fun _ => rfl⟩

namespace ResourceConfig

/-- The reason for which a resource is not assembled.  A reason applies only where the root, and
then the source, have passed. -/
inductive FailsBy (r : ResourceConfig) (schema : Json) (m : ModuleConfig) : AssemblyFailure → Prop
  | invalidRoot :
      (Schema.ofJson schema).typeKeyword? ≠ some "object" ∨
          (Schema.ofJson schema).properties? = none →
        FailsBy r schema m (.invalidRoot r.schema)
  | source {properties : List Property} {e : SourceError} :
      (Schema.ofJson schema).Declares properties →
        resolveSource r.source m.sources m.sourceMap = .error e → FailsBy r schema m (.source e)
  /-- The first of the visited properties that ask for a visibility that does not exist. -/
  | visibility {properties : List Property} {source : EntitySource} {before after : List Visit}
      {v : Visit} {value : Json} :
      (Schema.ofJson schema).Declares properties →
        resolveSource r.source m.sources m.sourceMap = .ok source →
          visits (r.site m source) properties = before ++ v :: after →
            (∀ u ∈ before, ∀ j, ¬ u.property.Misasks j) → v.property.Misasks value →
              FailsBy r schema m (.visibility ⟨v.property.1, Schema.word value⟩)

theorem failure?_assemble (r : ResourceConfig) (schema : Json) (m : ModuleConfig) :
    failure? (r.assemble schema m)
      = match (Schema.ofJson schema).rootProperties? with
        | none => some (.invalidRoot r.schema)
        | some properties =>
            match resolveSource r.source m.sources m.sourceMap with
            | .error e => some (.source e)
            | .ok source =>
                ((visits (r.site m source) properties).findSome? Visit.failure?).map
                  .visibility := by
  rw [assemble]
  cases (Schema.ofJson schema).rootProperties? with
  | none => rfl
  | some properties =>
      dsimp only
      cases resolveSource r.source m.sources m.sourceMap with
      | error e => rfl
      | ok source =>
          dsimp only
          rw [← failure?_inferColumns]
          cases inferColumns (r.site m source) properties <;> rfl

/-- A visit that does not fail asks for no visibility that does not exist. -/
theorem failure?_visit_eq_none_iff {v : Visit} :
    v.failure? = none ↔ ∀ value, ¬ v.property.Misasks value := by
  constructor
  · intro h value hvalue
    rw [Visit.failure?_eq_some_iff.mpr ⟨value, hvalue, rfl⟩] at h
    exact absurd h (by simp)
  · intro h
    refine Option.eq_none_iff_forall_ne_some.mpr fun e he => ?_
    obtain ⟨value, hvalue, -⟩ := Visit.failure?_eq_some_iff.mp he
    exact h value hvalue

theorem assemble_eq_error_iff {r : ResourceConfig} {schema : Json} {m : ModuleConfig}
    {e : AssemblyFailure} : r.assemble schema m = .error e ↔ r.FailsBy schema m e := by
  rw [← failure?_eq_some_iff, failure?_assemble]
  constructor
  · intro h
    split at h
    · rename_i hroot
      rw [← Option.some.inj h]
      exact .invalidRoot (Schema.rootProperties?_eq_none_iff.mp hroot)
    · rename_i properties hroot
      have hdeclares := Schema.rootProperties?_eq_some_iff.mp hroot
      split at h
      · rename_i reason hsource
        rw [← Option.some.inj h]
        exact .source hdeclares hsource
      · rename_i source hsource
        obtain ⟨reason, hfirst, rfl⟩ := Option.map_eq_some_iff.mp h
        obtain ⟨before, v, after, hvisits, hv, hbefore⟩ := List.findSome?_eq_some_iff.mp hfirst
        obtain ⟨value, hvalue, rfl⟩ := Visit.failure?_eq_some_iff.mp hv
        exact .visibility hdeclares hsource hvisits
          (fun u hu => failure?_visit_eq_none_iff.mp (hbefore u hu)) hvalue
  · intro h
    cases h with
    | invalidRoot hroot => rw [Schema.rootProperties?_eq_none_iff.mpr hroot]
    | source hdeclares hsource =>
        rw [Schema.rootProperties?_eq_some_iff.mpr hdeclares]
        dsimp only
        rw [hsource]
    | @visibility properties source before after v value hdeclares hsource hvisits hbefore hvalue =>
        have hfirst : (visits (r.site m source) properties).findSome? Visit.failure?
            = some ⟨v.property.1, Schema.word value⟩ := by
          refine List.findSome?_eq_some_iff.mpr ⟨before, v, after, hvisits, ?_, ?_⟩
          · exact Visit.failure?_eq_some_iff.mpr ⟨value, hvalue, rfl⟩
          · exact fun u hu => failure?_visit_eq_none_iff.mpr (hbefore u hu)
        rw [Schema.rootProperties?_eq_some_iff.mpr hdeclares]
        dsimp only
        rw [hsource]
        dsimp only
        rw [hfirst]
        rfl

theorem exists_assemble_eq_ok_iff {r : ResourceConfig} {schema : Json} {m : ModuleConfig} :
    (∃ a, r.assemble schema m = .ok a) ↔
      ∃ properties source, (Schema.ofJson schema).Declares properties ∧
        resolveSource r.source m.sources m.sourceMap = .ok source ∧
        ∀ v, IsVisited (r.site m source) properties v → ∀ value, ¬ v.property.Misasks value := by
  rw [← failure?_eq_none_iff, failure?_assemble]
  constructor
  · intro h
    split at h
    · exact absurd h (by simp)
    · rename_i properties hroot
      split at h
      · exact absurd h (by simp)
      · rename_i source hsource
        refine ⟨properties, source, Schema.rootProperties?_eq_some_iff.mp hroot, hsource, ?_⟩
        intro v hv
        have hnone := List.findSome?_eq_none_iff.mp (Option.map_eq_none_iff.mp h)
        exact failure?_visit_eq_none_iff.mp (hnone v (mem_visits_iff.mpr hv))
  · rintro ⟨properties, source, hdeclares, hsource, hvisits⟩
    rw [Schema.rootProperties?_eq_some_iff.mpr hdeclares]
    dsimp only
    rw [hsource, Option.map_eq_none_iff, List.findSome?_eq_none_iff]
    intro v hv
    exact failure?_visit_eq_none_iff.mpr (hvisits v (mem_visits_iff.mp hv))

/-- **A resource fails for one of three reasons, or is assembled.**  Its root declares no
properties; or else its source leads nowhere; or else a visited property asks for a visibility that
does not exist, and the first such property is named with what it asks for.  In every other case
there is an entity type. -/
theorem assemble_outcome (r : ResourceConfig) (schema : Json) (m : ModuleConfig) :
    (∀ e, r.assemble schema m = .error e ↔ r.FailsBy schema m e) ∧
      ((∃ a, r.assemble schema m = .ok a) ↔
        ∃ properties source, (Schema.ofJson schema).Declares properties ∧
          resolveSource r.source m.sources m.sourceMap = .ok source ∧
          ∀ v, IsVisited (r.site m source) properties v →
            ∀ value, ¬ v.property.Misasks value) :=
  ⟨fun _ => assemble_eq_error_iff, exists_assemble_eq_ok_iff⟩

/-! A property inside an array comes before a later one of the root, and one that is left out does not
count. -/

example :
    failure? (user.assemble
      (.object
        [("type", .string "object"),
         ("properties", .object
           [("draft", .object
              [("x-fqm-ignore", .bool true), ("x-fqm-visibility", .string "nobody")]),
            ("tags", .object
              [("type", .string "array"),
               ("items", .object
                 [("type", .string "object"),
                  ("properties", .object
                    [("label", .object [("x-fqm-visibility", .string "staff")])])])]),
            ("note", .object [("x-fqm-visibility", .string "nobody")])])]) users)
      = some (.visibility ⟨"label", "staff"⟩) := by
  decide +kernel

end ResourceConfig

end EntityCatalog
