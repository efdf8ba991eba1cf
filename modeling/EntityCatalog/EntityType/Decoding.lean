import EntityCatalog.EntityType.Basic
import EntityCatalog.EntityType.Encoding
import EntityCatalog.Shape.Reader

/-!
Columns, joins and entity types read from JSON values.

Each shape is a `Record`.  A type is first read as it is written, a tag with an optional item type
and optional properties (`TypeForm`), and only then judged, so that what is wrong with the way it
is written is reported before what is wrong with its sense; the same holds of a declared join.
-/

namespace EntityCatalog

open Shape

/-! ## Joins -/

/-- The names of the directions. -/
def JoinDirection.choice : List (String × JoinDirection) :=
  [JoinDirection.inner, .left, .right, .full].map fun d => (d.name, d)

/-- A direction. -/
def JoinDirection.read : Reader JoinDirection := Shape.choice JoinDirection.choice

/-- The names of the conditions. -/
def JoinCondition.tags : List String := ["equality-simple", "equality-cast-uuid", "custom"]

/-- The condition with a tag, where `sql` reads what a condition of its own holds. -/
def JoinCondition.ofTag (tag : String) (sql : Except Mismatch String) :
    Except Mismatch JoinCondition :=
  if tag = "equality-simple" then .ok .equalitySimple
  else if tag = "equality-cast-uuid" then .ok .equalityCastUuid
  else if tag = "custom" then sql.map .custom
  else .error (.unknownChoice tag JoinCondition.tags)

/-- The text under `sql`. -/
def sqlMember (d : Dialect) (members : List (String × Json)) : Except Mismatch String :=
  match members.lookup "sql" with
  | some j => text d j
  | none => .error (.missing "sql")

/-- A condition whose members stand by themselves, or in an array behind the tag. -/
def JoinCondition.read : Reader JoinCondition
  | d, .object members =>
      match members.lookup "type" with
      | none => .error (.missing "type")
      | some (.string tag) => ofTag tag (sqlMember d members)
      | some j => .error (.kind j "variant identifier")
  | _, .array [] => .error (.missing "type")
  | d, .array (.string tag :: rest) => do
      let condition ← ofTag tag <|
        match rest with
        | [] => .error (.length 0 "struct variant JoinCondition::Custom with 1 element")
        | j :: _ => text d j
      let taken := if tag = "custom" then 1 else 0
      if rest.length ≤ taken then return condition
      else
        throw <| .length rest.length
          (if taken = 1 then "1 element in sequence" else "0 elements in sequence")
  | _, .array (j :: _) => .error (.kind j "variant identifier")
  | _, j => .error (.kind j "internally tagged enum JoinCondition")

/-- A condition whose members stand among others.  In JSON its tag may also be given by its place
in the list of tags. -/
def JoinCondition.readAmong (d : Dialect) (members : List (String × Json)) :
    Except Mismatch JoinCondition :=
  match members.lookup "type" with
  | none => .error (.missing "type")
  | some (.string tag) => ofTag tag (sqlMember d members)
  | some (.number (.integer i)) =>
      let j := Json.number (.integer i)
      if i < 0 || d = .toml then .error (.kind j "variant identifier")
      else
        match tags[i.toNat]? with
        | some tag => ofTag tag (sqlMember d members)
        | none => .error (.value j "variant index 0 <= i < 3")
  | some j => .error (.kind j "variant identifier")

/-- A declared join as it is written. -/
structure JoinForm where
  targetModule : String
  targetEntity : String
  targetField : String
  direction : Option JoinDirection
  kind : Option String
  sql : Option String

/-- The shape of a declared join. -/
def JoinForm.record : Record JoinForm where
  title := "JoinSpec"
  blank := ⟨"", "", "", none, none, none⟩
  closed := true
  slots :=
    [.needed "targetModule" text fun f v => { f with targetModule := v },
     .needed "targetEntity" text fun f v => { f with targetEntity := v },
     .needed "targetField" text fun f v => { f with targetField := v },
     .free "direction" (optional JoinDirection.read) fun f v => { f with direction := v },
     .free "type" (optional text) fun f v => { f with kind := v },
     .free "sql" (optional text) fun f v => { f with sql := v }]

/-- The condition that a declared join asks for.  The text of a condition is passed over where the
kind has none. -/
def JoinForm.condition (f : JoinForm) : Except Mismatch (Option JoinCondition) :=
  match f.kind with
  | none => .ok none
  | some "equality-simple" => .ok (some .equalitySimple)
  | some "equality-cast-uuid" => .ok (some .equalityCastUuid)
  | some "custom" =>
      match f.sql with
      | some sql => .ok (some (.custom sql))
      | none => .error .customWithoutSql
  | some other => .error (.joinKind other)

/-- A declared join. -/
def DeclaredJoin.read : Reader DeclaredJoin := fun d j => do
  let f ← JoinForm.record.read d j
  let condition ← f.condition
  return { targetModule := f.targetModule, targetEntity := f.targetEntity,
           targetField := f.targetField, direction := f.direction, condition }

/-- The members of a resolved join that are not its condition's. -/
def ResolvedJoin.record : Record ResolvedJoin where
  title := "ResolvedJoin"
  blank := ⟨default, "", none, .equalitySimple⟩
  closed := false
  slots :=
    [.needed "targetId" uuid fun r v => { r with targetId := v },
     .needed "targetField" text fun r v => { r with targetField := v },
     .free "direction" (optional JoinDirection.read) fun r v => { r with direction := v }]

/-- A resolved join, in the form of an object only.  The members that may be its condition's are
taken as they are before one of them is read. -/
def ResolvedJoin.read : Reader ResolvedJoin
  | d, .object members => do
      let r ← record.readObject d members
      let others := members.filter fun m => !record.names.contains m.1
      let _ ← anything d (.object others)
      let condition ← JoinCondition.readAmong d others
      return { r with condition }
  | _, j => .error (.kind j "struct ResolvedJoin")

/-! ## Parts of columns -/

/-- The shape of a value with its label. -/
def ValueLabel.record : Record ValueLabel where
  title := "ValueLabel"
  blank := ⟨"", ""⟩
  closed := false
  slots :=
    [.needed "value" text fun r v => { r with value := v },
     .needed "label" text fun r v => { r with label := v }]

/-- The shape of a place where values can be asked for. -/
def ValueSourceApi.record : Record ValueSourceApi where
  title := "ValueSourceApi"
  blank := ⟨"", "", ""⟩
  closed := false
  slots :=
    [.needed "path" text fun r v => { r with path := v },
     .needed "valueJsonPath" text fun r v => { r with valueJsonPath := v },
     .needed "labelJsonPath" text fun r v => { r with labelJsonPath := v }]

/-- The shape of a column that values come from. -/
def FieldSource.record : Record FieldSource where
  title := "FieldSource"
  blank := ⟨"", ""⟩
  closed := false
  slots :=
    [.needed "columnName" text fun r v => { r with columnName := v },
     .needed "entityTypeId" text fun r v => { r with entityTypeId := v }]

/-! ## Columns -/

/-- A tag. -/
def TypeTag.read : Reader TypeTag := Shape.choice (TypeTag.all.map fun t => (t.name, t))

/-- A type as it is written. -/
inductive TypeForm where
  | mk (tag : TypeTag) (item : Option TypeForm) (properties : Option (List Field))

namespace TypeForm

/-- The tag. -/
def tag : TypeForm → TypeTag
  | .mk t _ _ => t

/-- The shape of a type, whose parts are read by the readers given. -/
def record (item : Reader TypeForm) (field : Reader Field) : Record TypeForm where
  title := "DataTypeRepr"
  blank := .mk (.leaf .string) none none
  closed := true
  slots :=
    [.needed "dataType" TypeTag.read fun (.mk _ i ps) t => .mk t i ps,
     .free "itemDataType" (optional item) fun (.mk t _ ps) i => .mk t i ps,
     .free "properties" (optional (list field)) fun (.mk t i _) ps => .mk t i ps]

/-- The type that is written.  An object without properties has none, an array without an item
type holds texts, and what the tag has no use for is passed over, but not by a scalar. -/
def type : TypeForm → Except Mismatch DataType
  | .mk .object _ properties => .ok (.object (properties.getD []))
  | .mk (.array kind) none _ => .ok (.array kind (.leaf .string))
  | .mk (.array kind) (some item) _ => item.type.map (.array kind)
  | .mk (.leaf t) none none => .ok (.leaf t)
  | .mk (.leaf t) _ _ => .error (.nestedInScalar (TypeTag.leaf t).name)

end TypeForm

/-- The shape of a column, whose type is read by the reader given. -/
def Field.record (type : Reader DataType) : Record Field where
  title := "Field"
  blank := { name := "", dataType := .leaf .string }
  closed := true
  slots :=
    [.needed "name" text fun f v => { f with name := v },
     .needed "dataType" type fun f v => { f with dataType := v },
     .free "sourceAlias" (optional text) fun f v => { f with sourceAlias := v },
     .free "isIdColumn" (optional truth) fun f v => { f with isIdColumn := v },
     .free "queryable" truth fun f v => { f with queryable := v },
     .free "queryOnly" (optional truth) fun f v => { f with queryOnly := v },
     .free "hidden" (optional truth) fun f v => { f with hidden := v },
     .free "visibleByDefault" truth fun f v => { f with visibleByDefault := v },
     .free "essential" (optional truth) fun f v => { f with essential := v },
     .free "valueGetter" (optional text) fun f v => { f with valueGetter := v },
     .free "filterValueGetter" (optional text) fun f v => { f with filterValueGetter := v },
     .free "valueFunction" (optional text) fun f v => { f with valueFunction := v },
     .free "values" (optional (list ValueLabel.record.read)) fun f v => { f with values := v },
     .free "valueSourceApi" (optional ValueSourceApi.record.read)
       fun f v => { f with valueSourceApi := v },
     .free "source" (optional FieldSource.record.read) fun f v => { f with source := v },
     .free "joinsTo" (optional (list ResolvedJoin.read)) fun f v => { f with joinsTo := v },
     .free "joinsToIntermediate" (list DeclaredJoin.read)
       fun f v => { f with declaredJoins := v }]

mutual
/-- A written type of at most `levels` levels. -/
def TypeForm.readWithin : (levels : Nat) → Reader TypeForm
  | 0 => fun _ j => .error (.kind j "struct DataTypeRepr")
  | levels + 1 => (TypeForm.record (TypeForm.readWithin levels) (Field.readWithin levels)).read

/-- A column of at most `levels` levels. -/
def Field.readWithin : (levels : Nat) → Reader Field
  | 0 => fun _ j => .error (.kind j "struct Field")
  | levels + 1 =>
      (Field.record fun d j => (TypeForm.readWithin levels d j).bind TypeForm.type).read
end

/-- A type. -/
def DataType.read : Reader DataType :=
  fun d j => (TypeForm.readWithin j.depth d j).bind TypeForm.type

/-- A column. -/
def Field.read : Reader Field := fun d j => Field.readWithin j.depth d j

/-! ## Entity types -/

/-- A kind of source. -/
def SourceKind.read : Reader SourceKind :=
  Shape.choice ([SourceKind.db, .entityType].map fun k => (k.name, k))

/-- The shape of a source. -/
def EntitySource.record : Record EntitySource where
  title := "EntitySource"
  blank := ⟨.db, "", none⟩
  closed := false
  slots :=
    [.needed "type" SourceKind.read fun r v => { r with kind := v },
     .needed "alias" text fun r v => { r with sourceAlias := v },
     .free "target" (optional text) fun r v => { r with target := v }]

/-- The shape of a column to sort by. -/
def SortKey.record : Record SortKey where
  title := "SortSpec"
  blank := ⟨"", ""⟩
  closed := false
  slots :=
    [.needed "columnName" text fun r v => { r with columnName := v },
     .needed "direction" text fun r v => { r with direction := v }]

/-- The shape of an entity type. -/
def EntityType.record : Record EntityType where
  title := "EntityType"
  blank := ⟨default, "", false, [], [], [], []⟩
  closed := false
  slots :=
    [.needed "id" uuid fun r v => { r with id := v },
     .needed "name" text fun r v => { r with name := v },
     .free "private" truth fun r v => { r with isPrivate := v },
     .needed "sources" (list EntitySource.record.read) fun r v => { r with sources := v },
     .needed "requiredPermissions" (list text) fun r v => { r with requiredPermissions := v },
     .needed "defaultSort" (list SortKey.record.read) fun r v => { r with defaultSort := v },
     .needed "columns" (list Field.read) fun r v => { r with columns := v }]

end EntityCatalog
