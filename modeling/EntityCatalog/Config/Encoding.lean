import EntityCatalog.Config.Basic
import EntityCatalog.EntityType.Encoding

/-!
The JSON form of a configuration, as it is written.  Every member is written, also one without a
value.
-/

namespace EntityCatalog

open Json (string array object)

/-- A module's metadata. -/
def ModuleMetadata.toJson (m : ModuleMetadata) : Json :=
  object
    (member "team" (string m.team)
      ++ member "domain" (string m.domain.name)
      ++ member "module" (string m.moduleName))

/-- A declared source. -/
def DeclaredSource.toJson : DeclaredSource → Json
  | .table n t => object (member "name" (string n) ++ member "table" (string t))
  | .query n sql deps =>
      object
        (member "name" (string n)
          ++ member "sql" (string sql)
          ++ member "deps" (array (deps.map string)))

/-- A column to sort by, as a pair. -/
def SortKey.toPair (s : SortKey) : Json := array [string s.columnName, string s.direction]

/-- A resource. -/
def ResourceConfig.toJson (r : ResourceConfig) : Json :=
  object
    (member "name" (string r.name)
      ++ member "private" (.bool r.isPrivate)
      ++ member "source" (string r.source)
      ++ member "schema" (string r.schema)
      ++ member "permissions" (array (r.permissions.map string))
      ++ member "sort" r.sort.toPair
      ++ member "useRmbIndexStyle" (.bool r.legacyIndexStyle)
      ++ member "includeJsonbField"
          (match r.includeJsonbField with
           | some b => .bool b
           | none => .null)
      ++ member "fieldAdditions" (array (fieldsToJson r.fieldAdditions))
      ++ member "fieldExclusions" (array (r.fieldExclusions.map string))
      ++ member "fieldOverrides" (object r.fieldOverrides.entries))

/-- A configuration. -/
def ModuleConfig.toJson (c : ModuleConfig) : Json :=
  object
    (member "metadata" c.metadata.toJson
      ++ member "sources" (array (c.sources.map DeclaredSource.toJson))
      ++ member "sourceMap" (object (c.sourceMap.entries.map fun e => (e.1, string e.2)))
      ++ member "forceGenerateJoins" (.bool c.forceGenerateJoins)
      ++ member "entityTypes" (array (c.entityTypes.map ResourceConfig.toJson)))

end EntityCatalog
