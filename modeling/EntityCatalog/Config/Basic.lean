import EntityCatalog.EntityType.Basic
import EntityCatalog.Json.Value
import EntityCatalog.Source.Basic

/-!
The configuration of a module: who owns it, what it reads from, and the resources for which entity
types are made.
-/

namespace EntityCatalog

/-- A resource for which an entity type is made. -/
structure ResourceConfig where
  name : String
  isPrivate : Bool := false
  /-- The key of the source it reads from. -/
  source : String
  /-- The path of its schema, inside the module. -/
  schema : String
  permissions : List String := []
  sort : SortKey := ⟨"id", "ASC"⟩
  /-- Whether texts are compared without accents and case, as the older indexes do. -/
  legacyIndexStyle : Bool := false
  /-- Whether a column for the whole document is added; it is where nothing is said. -/
  includeJsonbField : Option Bool := none
  /-- Columns that are added, or put in the place of others. -/
  fieldAdditions : List Field := []
  fieldExclusions : List String := []
  /-- Members to be written over those of a column, under the column's name. -/
  fieldOverrides : OrderedMap Json := OrderedMap.empty
deriving Repr

/-- Whether a column for the whole document is added. -/
def ResourceConfig.includesJsonbField (r : ResourceConfig) : Bool := r.includeJsonbField.getD true

/-- The configuration of a module. -/
structure ModuleConfig where
  metadata : ModuleMetadata
  sources : List DeclaredSource
  /-- The renames of sources. -/
  sourceMap : OrderedMap String := OrderedMap.empty
  /-- Whether joins to entity types that do not exist are given a placeholder. -/
  forceGenerateJoins : Bool := false
  entityTypes : List ResourceConfig := []
deriving Repr

namespace ModuleConfig

/-- The first resource with a name. -/
def resource? (c : ModuleConfig) (name : String) : Option ResourceConfig :=
  c.entityTypes.find? (·.name == name)

/-- The schema of the module's objects in the database. -/
def schemaPrefix (c : ModuleConfig) : String :=
  Text.dashesToUnderscores ("$\x7btenant_id\x7d_" ++ c.metadata.moduleName)

/-- The configuration with every source renamed to its view. -/
def withViewNames (c : ModuleConfig) : ModuleConfig :=
  { c with sourceMap := c.sourceMap.extend (viewNames c.sources c.metadata) }

end ModuleConfig

end EntityCatalog
