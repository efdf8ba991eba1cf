import EntityCatalog.Join.Basic

/-!
Columns and their types.

A type is a leaf, an object whose properties are columns of their own, or an array of one of two
flavours.  Types and columns are therefore one mutual family; what a column carries besides its
type is gathered in `ColumnInfo`, so that recursions over the family name two parts only.
-/

namespace EntityCatalog

/-! ## Tags -/

/-- The types that nest nothing. -/
inductive LeafType where
  | string
  | date
  | dateTime
  | rangedUuid
  | openUuid
  | stringUuid
  | boolean
  | integer
  | number
  | enumeration
deriving DecidableEq, Repr

/-- The two flavours of arrays. -/
inductive ArrayKind where
  | plain
  | jsonb
deriving DecidableEq, Repr

/-- A type without what it nests. -/
inductive TypeTag where
  | leaf (type : LeafType)
  | object
  | array (kind : ArrayKind)
deriving DecidableEq, Repr

/-- The written name of a tag. -/
def TypeTag.name : TypeTag → String
  | .leaf .string => "stringType"
  | .leaf .date => "dateType"
  | .leaf .dateTime => "dateTimeType"
  | .leaf .rangedUuid => "rangedUUIDType"
  | .leaf .openUuid => "openUUIDType"
  | .leaf .stringUuid => "stringUUIDType"
  | .leaf .boolean => "booleanType"
  | .leaf .integer => "integerType"
  | .leaf .number => "numberType"
  | .leaf .enumeration => "enumType"
  | .object => "objectType"
  | .array .plain => "arrayType"
  | .array .jsonb => "jsonbArrayType"

/-- All tags. -/
def TypeTag.all : List TypeTag :=
  [.leaf .string, .leaf .date, .leaf .dateTime, .leaf .rangedUuid, .leaf .openUuid,
   .leaf .stringUuid, .leaf .boolean, .leaf .integer, .leaf .number, .leaf .enumeration,
   .object, .array .plain, .array .jsonb]

theorem TypeTag.mem_all (t : TypeTag) : t ∈ all := by
  cases t with
  | leaf t => cases t <;> decide
  | object => decide
  | array k => cases k <;> decide

/-- The tag with a written name. -/
def TypeTag.ofName? (name : String) : Option TypeTag := all.find? (·.name == name)

/-! ## Types and columns -/

/-- One of the values that a column offers, with its label. -/
structure ValueLabel where
  value : String
  label : String
deriving DecidableEq, Repr

/-- Where the possible values of a column can be asked for. -/
structure ValueSourceApi where
  path : String
  valueJsonPath : String
  labelJsonPath : String
deriving DecidableEq, Repr

/-- The column of another entity type from which a column's values come. -/
structure FieldSource where
  columnName : String
  entityTypeId : String
deriving DecidableEq, Repr

/-- What a column carries besides its type. -/
structure ColumnInfo where
  name : String
  /-- The source that the getters are written against. -/
  sourceAlias : Option String := none
  isIdColumn : Option Bool := none
  queryable : Bool := true
  queryOnly : Option Bool := none
  hidden : Option Bool := none
  visibleByDefault : Bool := false
  essential : Option Bool := none
  valueGetter : Option String := none
  filterValueGetter : Option String := none
  valueFunction : Option String := none
  values : Option (List ValueLabel) := none
  valueSourceApi : Option ValueSourceApi := none
  source : Option FieldSource := none
  /-- The joins whose target is known by its identifier. -/
  joinsTo : Option (List ResolvedJoin) := none
  /-- The joins whose target is still known by its name. -/
  declaredJoins : List DeclaredJoin := []
deriving DecidableEq, Repr

mutual
/-- The type of a column. -/
inductive DataType where
  | leaf (type : LeafType)
  | object (properties : List Field)
  | array (kind : ArrayKind) (item : DataType)

/-- A column of an entity type, or a property of an object type. -/
structure Field extends ColumnInfo where
  dataType : DataType
end

deriving instance Repr for DataType, Field
deriving instance BEq for DataType, Field

namespace DataType

instance : Inhabited DataType := ⟨.leaf .string⟩

/-- The type without what it nests. -/
def tag : DataType → TypeTag
  | .leaf t => .leaf t
  | .object _ => .object
  | .array k _ => .array k

/-- Whether the type is an object. -/
def isObject : DataType → Bool
  | .object _ => true
  | _ => false

/-- The type of the items, for an array. -/
def item? : DataType → Option DataType
  | .array _ item => some item
  | _ => none

/-- Whether the type is an array of objects. -/
def isArrayOfObjects (t : DataType) : Bool := t.item?.any isObject

/-- The properties, for an object. -/
def properties? : DataType → Option (List Field)
  | .object properties => some properties
  | _ => none

/-- The condition of a join from a column of this type that gives none: identifiers in a range
are compared as such, everything else as it stands. -/
def joinCondition (t : DataType) : JoinCondition :=
  match t with
  | .leaf .rangedUuid => .equalityCastUuid
  | _ => .equalitySimple

end DataType

/-- The flavour of array that a tag asks for, the second one unless it names the first. -/
def TypeTag.arrayKind : TypeTag → ArrayKind
  | .array k => k
  | _ => .jsonb

namespace Field

/-- A column that can be queried unless it is an object, and carries nothing else. -/
def plain (name : String) (dataType : DataType) : Field :=
  { name, dataType, queryable := !dataType.isObject }

instance : Inhabited Field := ⟨plain "" default⟩

/-- Whether the column identifies its row. -/
def isId (f : Field) : Bool := f.isIdColumn.getD false

end Field

end EntityCatalog
