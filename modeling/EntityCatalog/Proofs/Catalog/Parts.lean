import EntityCatalog.Catalog.Basic
import EntityCatalog.Proofs.Join.Resolution
import EntityCatalog.Proofs.Resource.Assembly

/-!
# The parts of a catalog

A catalog is made in one step, but what can be said about it is said about its parts: the entity
types of the batch as they are assembled, the resolver that rewrites their joins, and the three
groups of diagnostics.  The lemmas here take a catalog apart, so that no later proof opens
`compile`.
-/

namespace EntityCatalog

/-! ## Modules -/

namespace CatalogModule

/-- The qualified name of a resource of the module. -/
def nameOf (m : CatalogModule) (r : ResourceConfig) : String :=
  Naming.qualifiedName m.metadata.moduleName r.name

/-- A resource has an entity type iff its schema is there and it can be assembled from that. -/
theorem assemble_eq_ok_iff {m : CatalogModule} {r : ResourceConfig} {a : Assembled} :
    m.assemble r = .ok a ↔
      ∃ schema, m.schemas.get? r.schema = some schema ∧ r.assemble schema m.config = .ok a := by
  unfold assemble
  cases m.schemas.get? r.schema with
  | none => simp
  | some schema =>
      cases h : r.assemble schema m.config with
      | error e => simp [h, Except.mapError]
      | ok b => simp [h, Except.mapError]

/-- An entity type carries the name and the identifier of its resource. -/
theorem name_of_assemble {m : CatalogModule} {r : ResourceConfig} {a : Assembled}
    (h : m.assemble r = .ok a) :
    a.entityType.name = m.nameOf r ∧
      a.entityType.id = EntityType.idOf m.metadata.moduleName r.name := by
  obtain ⟨schema, -, ha⟩ := assemble_eq_ok_iff.mp h
  exact ResourceConfig.name_of_assemble ha

theorem entityType?_eq_some_iff {m : CatalogModule} {r : ResourceConfig} {e : EntityType} :
    m.entityType? r = some e ↔ ∃ a, m.assemble r = .ok a ∧ a.entityType = e := by
  unfold entityType?
  cases m.assemble r with
  | error issue => simp
  | ok a => simp

theorem exists_resource_of_mem {m : CatalogModule} {e : EntityType} (h : e ∈ m.entityTypes) :
    ∃ r ∈ m.config.entityTypes, e.name = m.nameOf r := by
  obtain ⟨r, hr, he⟩ := List.mem_filterMap.mp h
  obtain ⟨a, ha, rfl⟩ := entityType?_eq_some_iff.mp he
  exact ⟨r, hr, (name_of_assemble ha).1⟩

end CatalogModule

namespace Catalog

/-! ## Entity types -/

/-- The entity types of a batch before the first join is resolved. -/
def assembled (modules : List CatalogModule) : List EntityType :=
  modules.flatMap CatalogModule.entityTypes

/-- Whether force mode is on: it is asked for, or one of the modules asks for it. -/
def isForced (modules : List CatalogModule) (force : Bool) : Bool :=
  force || modules.any (·.config.forceGenerateJoins)

/-- What resolves the joins of a batch. -/
def resolver (modules : List CatalogModule) (force : Bool) : JoinResolver :=
  ⟨EntityIndex.ofEntityTypes (assembled modules), isForced modules force⟩

theorem compile_entityTypes (modules : List CatalogModule) (force : Bool) :
    (compile modules force).entityTypes
      = (assembled modules).map (resolver modules force).entityType :=
  rfl

/-! ## Diagnostics -/

/-- What is reported about joins, each diagnostic under the module that owns the entity type. -/
def joinDiagnostics (modules : List CatalogModule) (force : Bool) : List Diagnostic :=
  ((assembled modules).flatMap (resolver modules force).diagnostics).map
    (inOwner modules (Owners.ofModules modules))

/-- The modules of a batch, each with the labels of the entity types that it owns. -/
def expectedLabels (modules : List CatalogModule) (force : Bool) :
    List (CatalogModule × Labels) :=
  modules.zipIdx.map fun a =>
    (a.1, ownedLabels (Owners.ofModules modules) (compile modules force).entityTypes a.2)

theorem compile_diagnostics (modules : List CatalogModule) (force : Bool) :
    (compile modules force).diagnostics
      = modules.flatMap CatalogModule.diagnostics ++ joinDiagnostics modules force
          ++ (expectedLabels modules force).flatMap fun x => labelDiagnostics x.1 x.2 :=
  rfl

/-! ## Labels -/

theorem compile_labels (modules : List CatalogModule) (force : Bool) :
    (compile modules force).labels
      = (expectedLabels modules force).foldl (fun all x => all.extend x.2) OrderedMap.empty :=
  rfl

theorem compile_locales (modules : List CatalogModule) (force : Bool) :
    (compile modules force).locales
      = (expectedLabels modules force).foldl (fun locales x => addLocales x.1 x.2 locales)
          OrderedMap.empty :=
  rfl

/-- What is reported about one of the label files of a module. -/
def fileIssues (m : CatalogModule) (expected : Labels) (file : String × Labels) : List Issue :=
  let provided := Label.provided file.2 m.metadata.moduleName expected.keys
  (Label.extraIssue? (Label.extra file.2 m.metadata.moduleName expected.keys)).toList
    ++ if file.1 = Label.referenceLocale then
        (Label.missingIssue? (Label.missing expected provided)).toList
      else []

theorem labelDiagnostics_eq (m : CatalogModule) (expected : Labels) :
    labelDiagnostics m expected
      = (m.labels.entries.flatMap (fileIssues m expected)).map fun issue =>
          { issue, metadata := some m.metadata } :=
  rfl

theorem warning_of_mem_fileIssues {m : CatalogModule} {expected : Labels}
    {file : String × Labels} {issue : Issue} (h : issue ∈ fileIssues m expected file) :
    issue.severity = .warning := by
  have hextra : ∀ {keys}, issue ∈ (Label.extraIssue? keys).toList → issue.severity = .warning := by
    intro keys hk
    unfold Label.extraIssue? at hk
    split at hk
    · exact absurd hk (by simp)
    · rw [List.mem_singleton.mp hk]
  have hmissing : ∀ {keys}, issue ∈ (Label.missingIssue? keys).toList →
      issue.severity = .warning := by
    intro keys hk
    unfold Label.missingIssue? at hk
    split at hk
    · exact absurd hk (by simp)
    · rw [List.mem_singleton.mp hk]
  rcases List.mem_append.mp h with h | h
  · exact hextra h
  · split at h
    · exact hmissing h
    · exact absurd h List.not_mem_nil

/-! ## Diagnostics of joins -/

/-- Only the metadata of a join's diagnostic change, to those of the owner if there is one. -/
theorem inOwner_eq (modules : List CatalogModule) (owners : Owners) (d : Diagnostic) :
    inOwner modules owners d
      = { d with
          metadata :=
            (((d.entityType.bind owners.get?).bind (modules[·]?)).map CatalogModule.metadata).or
              d.metadata } := by
  unfold inOwner
  cases (d.entityType.bind owners.get?).bind (modules[·]?) with
  | none => rfl
  | some owner => rfl

@[simp] theorem inOwner_issue (modules : List CatalogModule) (owners : Owners) (d : Diagnostic) :
    (inOwner modules owners d).issue = d.issue := by
  rw [inOwner_eq]

@[simp] theorem inOwner_entityType (modules : List CatalogModule) (owners : Owners)
    (d : Diagnostic) : (inOwner modules owners d).entityType = d.entityType := by
  rw [inOwner_eq]

end Catalog

end EntityCatalog
