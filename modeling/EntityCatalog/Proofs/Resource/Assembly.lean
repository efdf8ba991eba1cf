import EntityCatalog.Resource

/-!
# What assembly needs and what it gives

Assembly fails for one of three reasons, and where it does not, all three parts are there: a root
with properties, a source, and columns.  `assemble_eq_ok` says so once, so that a statement about an
entity type begins with its parts and not with the function that puts them together.
-/

namespace EntityCatalog

theorem sourceAlias_of_resolveSource {key : String} {sources : List DeclaredSource}
    {renames : OrderedMap String} {source : EntitySource}
    (h : resolveSource key sources renames = .ok source) : source.sourceAlias = key := by
  unfold resolveSource at h
  split at h
  · rw [← Except.ok.inj h]
  · exact absurd h (by simp)
  · exact absurd h (by simp)

theorem AssemblyFailure.severity_issue (e : AssemblyFailure) : e.issue.severity = .error := rfl

theorem AssemblyFailure.kind_issue (e : AssemblyFailure) :
    e.issue.kind = .schema ∨ e.issue.kind = .config := by
  cases e with
  | invalidRoot path => exact Or.inl rfl
  | source reason => exact Or.inr rfl
  | visibility reason => exact Or.inl rfl

namespace ResourceConfig

/-- A resource that is assembled has a root with properties, a source and columns for the
properties; its entity type is made of them, and what is found on the way is reported with it. -/
theorem assemble_eq_ok {r : ResourceConfig} {schema : Json} {m : ModuleConfig} {a : Assembled}
    (h : r.assemble schema m = .ok a) :
    ∃ properties source inferred, (Schema.ofJson schema).rootProperties? = some properties ∧
      resolveSource r.source m.sources m.sourceMap = .ok source ∧
      inferColumns (r.site m source) properties = .ok inferred ∧
      a = ⟨r.entityType m source (r.editedColumns (r.flatColumns source inferred.value)).1,
        inferred.findings.map Located.issue
          ++ (r.editedColumns (r.flatColumns source inferred.value)).2.map EditFailure.issue⟩ := by
  unfold assemble at h
  split at h
  · exact absurd h (by simp)
  · rename_i properties hroot
    split at h
    · exact absurd h (by simp)
    · rename_i source hsource
      split at h
      · exact absurd h (by simp)
      · rename_i inferred hinf
        refine ⟨properties, source, inferred, hroot, hsource, hinf, ?_⟩
        cases hedited : r.editedColumns (r.flatColumns source inferred.value) with
        | mk columns failures =>
            rw [hedited] at h
            exact (Except.ok.inj h).symm

theorem name_of_assemble {r : ResourceConfig} {schema : Json} {m : ModuleConfig} {a : Assembled}
    (h : r.assemble schema m = .ok a) :
    a.entityType.name = Naming.qualifiedName m.metadata.moduleName r.name ∧
      a.entityType.id = EntityType.idOf m.metadata.moduleName r.name := by
  obtain ⟨properties, source, inferred, -, -, -, rfl⟩ := assemble_eq_ok h
  exact ⟨rfl, rfl⟩

/-- What is reported with an entity type is no error. -/
theorem warning_of_mem_issues {r : ResourceConfig} {schema : Json} {m : ModuleConfig}
    {a : Assembled} (h : r.assemble schema m = .ok a) {issue : Issue} (hi : issue ∈ a.issues) :
    issue.severity = .warning := by
  obtain ⟨properties, source, inferred, -, -, -, rfl⟩ := assemble_eq_ok h
  rcases List.mem_append.mp hi with hi | hi
  · obtain ⟨finding, -, rfl⟩ := List.mem_map.mp hi
    rfl
  · obtain ⟨failure, -, rfl⟩ := List.mem_map.mp hi
    rfl

theorem kind_of_mem_issues {r : ResourceConfig} {schema : Json} {m : ModuleConfig}
    {a : Assembled} (h : r.assemble schema m = .ok a) {issue : Issue} (hi : issue ∈ a.issues) :
    issue.kind = .schema ∨ issue.kind = .config := by
  obtain ⟨properties, source, inferred, -, -, -, rfl⟩ := assemble_eq_ok h
  rcases List.mem_append.mp hi with hi | hi
  · obtain ⟨finding, -, rfl⟩ := List.mem_map.mp hi
    exact Or.inl rfl
  · obtain ⟨failure, -, rfl⟩ := List.mem_map.mp hi
    exact Or.inr rfl

end ResourceConfig

end EntityCatalog
