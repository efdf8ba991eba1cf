import EntityCatalog.Catalog.Module
import EntityCatalog.Join.Resolution
import EntityCatalog.Label.Locale

/-!
The catalog of a batch of modules.

Every resource of every module is assembled before the first join is resolved, because a join may
lead to any of them.  Labels come last.  Where two modules have an entity type of one name, the
later module owns it: its joins are reported as that module's, and that module labels it.
-/

namespace EntityCatalog

/-- What comes of a batch of modules. -/
structure Catalog where
  entityTypes : List EntityType
  diagnostics : List Diagnostic
  /-- The labels that entity types have by themselves. -/
  labels : Labels
  /-- The labels by locale, as far as modules provide some. -/
  locales : OrderedMap Labels

namespace Catalog

/-- Whether there is an error among the diagnostics. -/
def hasErrors (c : Catalog) : Bool := c.diagnostics.any (·.severity == .error)

/-- The first entity type with a name. -/
def entityType? (c : Catalog) (name : String) : Option EntityType :=
  c.entityTypes.find? (·.name == name)

/-! ## Owners -/

/-- The places in a batch of the modules that own entity types, by the names of these. -/
abbrev Owners := OrderedMap Nat

/-- The owners of the entity types of a batch. -/
def Owners.ofModules (modules : List CatalogModule) : Owners :=
  OrderedMap.ofList <|
    modules.zipIdx.flatMap fun (m, place) => m.entityTypes.map fun e => (e.name, place)

/-- The diagnostic of a join as one of the module that owns the entity type. -/
def inOwner (modules : List CatalogModule) (owners : Owners) (d : Diagnostic) : Diagnostic :=
  match (d.entityType.bind owners.get?).bind (modules[·]?) with
  | some owner => { d with metadata := some owner.metadata }
  | none => d

/-! ## Labels -/

/-- The labels of some entity types. -/
def labelsOf (es : List EntityType) : Labels :=
  es.foldl (fun labels e => labels.extend e.labels) OrderedMap.empty

/-- The labels of the entity types that the module at a place owns. -/
def ownedLabels (owners : Owners) (es : List EntityType) (place : Nat) : Labels :=
  labelsOf (es.filter fun e => owners.get? e.name == some place)

/-- What is reported about the labels that a module provides, of those that are expected. -/
def labelDiagnostics (m : CatalogModule) (expected : Labels) : List Diagnostic :=
  let issues := m.labels.entries.flatMap fun (locale, external) =>
    let provided := Label.provided external m.metadata.moduleName expected.keys
    (Label.extraIssue? (Label.extra external m.metadata.moduleName expected.keys)).toList
      ++ if locale = Label.referenceLocale then
          (Label.missingIssue? (Label.missing expected provided)).toList
        else []
  issues.map fun issue => { issue, metadata := some m.metadata }

/-- The labels by locale with those of a module written over them. -/
def addLocales (m : CatalogModule) (expected : Labels) (locales : OrderedMap Labels) :
    OrderedMap Labels :=
  m.labels.entries.foldl
    (fun locales (locale, external) =>
      let provided := Label.provided external m.metadata.moduleName expected.keys
      let texts := ((locales.get? locale).getD OrderedMap.empty).extend
        (Label.merge expected provided)
      locales.insert locale texts)
    locales

/-! ## Batches -/

/-- Makes the catalog of some modules.  Force mode is on if it is asked for, here or by one of the
modules. -/
def compile (modules : List CatalogModule) (force : Bool) : Catalog :=
  let owners := Owners.ofModules modules
  let (entityTypes, joinDiagnostics) :=
    resolveJoins (modules.flatMap CatalogModule.entityTypes)
      (force || modules.any (·.config.forceGenerateJoins))
  let expected := modules.zipIdx.map fun (m, place) =>
    (m, ownedLabels owners entityTypes place)
  { entityTypes
    diagnostics :=
      modules.flatMap CatalogModule.diagnostics
        ++ joinDiagnostics.map (inOwner modules owners)
        ++ expected.flatMap fun (m, labels) => labelDiagnostics m labels
    labels := expected.foldl (fun all (_, labels) => all.extend labels) OrderedMap.empty
    locales :=
      expected.foldl (fun locales (m, labels) => addLocales m labels locales) OrderedMap.empty }

end Catalog

end EntityCatalog
