import EntityCatalog.Column.Edit
import EntityCatalog.Column.Flatten
import EntityCatalog.Column.Inference
import EntityCatalog.Config.Basic
import EntityCatalog.Source.Resolution

/-!
The entity type of a resource.

A resource is assembled from its schema and its configuration: the columns of the root's
properties, the column for the whole document, then the flat form of them all, then the edits.
Joins keep the names of their targets, because those may belong to modules that come later.

There are three reasons to fail, and they are looked for in this order: the root of the schema
declares no properties, the source of the resource leads nowhere, or a property asks for a
visibility that does not exist.
-/

namespace EntityCatalog

/-! ## Failures -/

/-- Why a resource has no entity type. -/
inductive AssemblyFailure where
  /-- The root of the schema is no object with properties. -/
  | invalidRoot (path : String)
  /-- The source leads nowhere. -/
  | source (reason : SourceError)
  /-- A property asks for a visibility that does not exist. -/
  | visibility (reason : InvalidVisibility)
deriving DecidableEq, Repr

namespace AssemblyFailure

/-- The reason in words. -/
def message : AssemblyFailure → String
  | invalidRoot path => "Schema " ++ path ++ " must be an object with properties"
  | source reason => reason.message
  | visibility reason => reason.message

/-- What the failure is about. -/
def kind : AssemblyFailure → IssueKind
  | invalidRoot _ => .schema
  | source _ => .config
  | visibility _ => .schema

/-- The failure as it is reported. -/
def issue (e : AssemblyFailure) : Issue := ⟨.error, e.kind, e.message⟩

end AssemblyFailure

/-! ## Parts -/

/-- The name of the column for the whole document. -/
def jsonbName : String := "jsonb"

/-- The column for the whole document of a source. -/
def jsonbColumn (sourceAlias : String) : Field :=
  { Field.plain jsonbName (.leaf .string) with
    queryable := false
    valueGetter := some (":" ++ sourceAlias ++ ".jsonb::text") }

/-- A finding as it is reported. -/
def Located.issue (l : Located) : Issue := ⟨.warning, .schema, l.message⟩

/-- The properties of the root of a schema, if it is an object that declares some. -/
def Schema.rootProperties? (s : Schema) : Option (List (String × Schema)) :=
  if s.typeKeyword? = some "object" then s.properties? else none

/-- The columns of the root's properties, before any of them is opened. -/
def inferColumns (site : Site) : List (String × Schema) → Inference (List Field)
  | [] => .ok ⟨[], []⟩
  | (key, s) :: rest =>
      match fieldAt site key s with
      | .error e => .error e
      | .ok field =>
          match inferColumns site rest with
          | .error e => .error e
          | .ok fields =>
              .ok ⟨field.value.toList ++ fields.value, field.findings ++ fields.findings⟩

/-! ## Assembly -/

/-- An entity type with what was found while it was made. -/
structure Assembled where
  entityType : EntityType
  issues : List Issue
deriving Repr

namespace ResourceConfig

/-- The place of the root of a resource's schema. -/
def site (r : ResourceConfig) (m : ModuleConfig) (source : EntitySource) : Site :=
  { sourceAlias := source.sourceAlias
    schemaPrefix := m.schemaPrefix
    legacyIndexStyle := r.legacyIndexStyle }

/-- The flat columns, of which `inferred` are those of the root's properties. -/
def flatColumns (r : ResourceConfig) (source : EntitySource) (inferred : List Field) :
    List Field :=
  let document := if r.includesJsonbField then [jsonbColumn source.sourceAlias] else []
  restrictElements (flatten (inferred ++ document))

/-- The columns after the edits of a resource, with the edits that failed. -/
def editedColumns (r : ResourceConfig) (columns : List Field) : List Field × List EditFailure :=
  let overridden := overrideColumns (addColumns columns r.fieldAdditions) r.fieldOverrides
  let excluded := excludeColumns overridden.1 r.fieldExclusions
  (excluded.1, overridden.2 ++ excluded.2)

/-- The entity type of a resource with the given source and columns. -/
def entityType (r : ResourceConfig) (m : ModuleConfig) (source : EntitySource)
    (columns : List Field) : EntityType :=
  { id := EntityType.idOf m.metadata.moduleName r.name
    name := Naming.qualifiedName m.metadata.moduleName r.name
    isPrivate := r.isPrivate
    sources := [source]
    requiredPermissions := r.permissions
    defaultSort := [r.sort]
    columns }

/-- Makes the entity type of a module's resource. -/
def assemble (r : ResourceConfig) (schema : Json) (m : ModuleConfig) :
    Except AssemblyFailure Assembled :=
  match (Schema.ofJson schema).rootProperties? with
  | none => .error (.invalidRoot r.schema)
  | some properties =>
      match resolveSource r.source m.sources m.sourceMap with
      | .error e => .error (.source e)
      | .ok source =>
          match inferColumns (r.site m source) properties with
          | .error e => .error (.visibility e)
          | .ok inferred =>
              let (columns, failures) := r.editedColumns (r.flatColumns source inferred.value)
              .ok ⟨r.entityType m source columns,
                inferred.findings.map Located.issue ++ failures.map EditFailure.issue⟩

end ResourceConfig

end EntityCatalog
