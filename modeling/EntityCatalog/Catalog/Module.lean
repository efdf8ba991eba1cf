import EntityCatalog.Label.Default
import EntityCatalog.Resource

/-!
A module as it goes into a catalog, and the entity types of its resources.

A resource whose schema is not there, or that cannot be assembled, has no entity type and is
reported.  It does nothing to the other resources.
-/

namespace EntityCatalog

/-- A module with all that its configuration refers to. -/
structure CatalogModule where
  config : ModuleConfig
  /-- The schemas, by their path inside the module. -/
  schemas : OrderedMap Json := OrderedMap.empty
  /-- The labels that the module writes, by locale. -/
  labels : OrderedMap Labels := OrderedMap.empty

namespace CatalogModule

/-- Who owns the module, and its name. -/
def metadata (m : CatalogModule) : ModuleMetadata := m.config.metadata

/-- An issue of an entity type of the module. -/
def diagnostic (m : CatalogModule) (entity : String) (issue : Issue) : Diagnostic :=
  { issue, entityType := some entity, metadata := some m.metadata }

/-- The issue of a resource whose schema is not there. -/
def schemaIssue (path : String) : Issue :=
  ⟨.error, .config, "Schema " ++ path ++ " was not provided"⟩

/-- The entity type of a resource, or the issue that says why there is none. -/
def assemble (m : CatalogModule) (r : ResourceConfig) : Except Issue Assembled :=
  match m.schemas.get? r.schema with
  | none => .error (schemaIssue r.schema)
  | some schema => (r.assemble schema m.config).mapError AssemblyFailure.issue

/-- The entity type of a resource, if it has one. -/
def entityType? (m : CatalogModule) (r : ResourceConfig) : Option EntityType :=
  match m.assemble r with
  | .ok a => some a.entityType
  | .error _ => none

/-- What is reported about a resource. -/
def resourceDiagnostics (m : CatalogModule) (r : ResourceConfig) : List Diagnostic :=
  let issues := match m.assemble r with
    | .ok a => a.issues
    | .error issue => [issue]
  issues.map (m.diagnostic (Naming.qualifiedName m.metadata.moduleName r.name))

/-- The entity types of the module, whose joins are not resolved yet. -/
def entityTypes (m : CatalogModule) : List EntityType :=
  m.config.entityTypes.filterMap m.entityType?

/-- What is reported about the resources of the module. -/
def diagnostics (m : CatalogModule) : List Diagnostic :=
  m.config.entityTypes.flatMap m.resourceDiagnostics

end CatalogModule

end EntityCatalog
