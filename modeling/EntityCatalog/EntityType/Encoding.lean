import EntityCatalog.EntityType.Basic
import EntityCatalog.Json.Value

/-!
The JSON form of columns, joins and entity types, as it is written.

Members stand in the order of declaration.  A member without a value is left out; so is the empty
list of declared joins.
-/

namespace EntityCatalog

open Json (string array object)

/-! ## Parts -/

/-- A member that is always written. -/
def member (name : String) (value : Json) : List (String × Json) := [(name, value)]

/-- A member that is written if it has a value. -/
def member? (name : String) (value : Option Json) : List (String × Json) :=
  match value with
  | some j => [(name, j)]
  | none => []

/-- The written name of a direction. -/
def JoinDirection.name : JoinDirection → String
  | .inner => "inner"
  | .left => "left"
  | .right => "right"
  | .full => "full"

/-- The members that write a condition. -/
def JoinCondition.members (c : JoinCondition) : List (String × Json) :=
  member "type" (string c.tag) ++
    match c with
    | .custom sql => member "sql" (string sql)
    | _ => []

/-- A condition by itself. -/
def JoinCondition.toJson (c : JoinCondition) : Json := object c.members

/-- A declared join. -/
def DeclaredJoin.toJson (j : DeclaredJoin) : Json :=
  object
    (member "targetModule" (string j.targetModule)
      ++ member "targetEntity" (string j.targetEntity)
      ++ member "targetField" (string j.targetField)
      ++ member? "direction" (j.direction.map fun d => string d.name)
      ++ (j.condition.map JoinCondition.members).getD [])

/-- A resolved join, with the members of its condition at the end. -/
def ResolvedJoin.toJson (j : ResolvedJoin) : Json :=
  object
    (member "targetId" (string j.targetId.render)
      ++ member "targetField" (string j.targetField)
      ++ member? "direction" (j.direction.map fun d => string d.name)
      ++ j.condition.members)

/-- A value with its label. -/
def ValueLabel.toJson (v : ValueLabel) : Json :=
  object (member "value" (string v.value) ++ member "label" (string v.label))

/-- Where values can be asked for. -/
def ValueSourceApi.toJson (v : ValueSourceApi) : Json :=
  object
    (member "path" (string v.path)
      ++ member "valueJsonPath" (string v.valueJsonPath)
      ++ member "labelJsonPath" (string v.labelJsonPath))

/-- The column that values come from. -/
def FieldSource.toJson (s : FieldSource) : Json :=
  object
    (member "columnName" (string s.columnName) ++ member "entityTypeId" (string s.entityTypeId))

/-! ## Columns -/

/-- The members of a column, where `dataType` is its type in JSON. -/
def ColumnInfo.members (c : ColumnInfo) (dataType : Json) : List (String × Json) :=
  member "name" (string c.name)
    ++ member "dataType" dataType
    ++ member? "sourceAlias" (c.sourceAlias.map string)
    ++ member? "isIdColumn" (c.isIdColumn.map .bool)
    ++ member "queryable" (.bool c.queryable)
    ++ member? "queryOnly" (c.queryOnly.map .bool)
    ++ member? "hidden" (c.hidden.map .bool)
    ++ member "visibleByDefault" (.bool c.visibleByDefault)
    ++ member? "essential" (c.essential.map .bool)
    ++ member? "valueGetter" (c.valueGetter.map string)
    ++ member? "filterValueGetter" (c.filterValueGetter.map string)
    ++ member? "valueFunction" (c.valueFunction.map string)
    ++ member? "values" (c.values.map fun vs => array (vs.map ValueLabel.toJson))
    ++ member? "valueSourceApi" (c.valueSourceApi.map ValueSourceApi.toJson)
    ++ member? "source" (c.source.map FieldSource.toJson)
    ++ member? "joinsTo" (c.joinsTo.map fun js => array (js.map ResolvedJoin.toJson))
    ++ (if c.declaredJoins.isEmpty then []
        else member "joinsToIntermediate" (array (c.declaredJoins.map DeclaredJoin.toJson)))

mutual
/-- A type. -/
def DataType.toJson : DataType → Json
  | .leaf t => object (member "dataType" (string (TypeTag.leaf t).name))
  | .object properties =>
      object
        (member "dataType" (string TypeTag.object.name)
          ++ member "properties" (array (fieldsToJson properties)))
  | .array kind item =>
      object
        (member "dataType" (string (TypeTag.array kind).name)
          ++ member "itemDataType" item.toJson)

/-- A column. -/
def Field.toJson : Field → Json
  | ⟨info, dataType⟩ => object (info.members dataType.toJson)

/-- Columns in order. -/
def fieldsToJson : List Field → List Json
  | [] => []
  | f :: rest => f.toJson :: fieldsToJson rest
end

/-- Columns in order, one by one. -/
theorem fieldsToJson_eq_map (fs : List Field) : fieldsToJson fs = fs.map Field.toJson := by
  induction fs with
  | nil => rfl
  | cons f rest ih => simp [fieldsToJson, ih]

/-! ## Entity types -/

/-- The written name of a kind of source. -/
def SourceKind.name : SourceKind → String
  | .db => "db"
  | .entityType => "entity-type"

/-- A source. -/
def EntitySource.toJson (s : EntitySource) : Json :=
  object
    (member "type" (string s.kind.name)
      ++ member "alias" (string s.sourceAlias)
      ++ member? "target" (s.target.map string))

/-- A column to sort by. -/
def SortKey.toJson (s : SortKey) : Json :=
  object (member "columnName" (string s.columnName) ++ member "direction" (string s.direction))

/-- An entity type. -/
def EntityType.toJson (e : EntityType) : Json :=
  object
    (member "id" (string e.id.render)
      ++ member "name" (string e.name)
      ++ member "private" (.bool e.isPrivate)
      ++ member "sources" (array (e.sources.map EntitySource.toJson))
      ++ member "requiredPermissions" (array (e.requiredPermissions.map string))
      ++ member "defaultSort" (array (e.defaultSort.map SortKey.toJson))
      ++ member "columns" (array (fieldsToJson e.columns)))

end EntityCatalog
