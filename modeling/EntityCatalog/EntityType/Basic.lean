import EntityCatalog.Column.Basic

/-!
Entity types: the compiled form of a resource.
-/

namespace EntityCatalog

/-- What stands behind a source. -/
inductive SourceKind where
  | db
  | entityType
deriving DecidableEq, Repr

/-- A source that the getters of an entity type refer to by its alias. -/
structure EntitySource where
  kind : SourceKind
  sourceAlias : String
  target : Option String := none
deriving DecidableEq, Repr

/-- A column to sort by, and the direction. -/
structure SortKey where
  columnName : String
  direction : String
deriving DecidableEq, Repr

/-- A compiled resource. -/
structure EntityType where
  id : Uuid
  /-- The module's name in snake case, a double underscore, and the resource. -/
  name : String
  isPrivate : Bool := false
  sources : List EntitySource
  requiredPermissions : List String
  defaultSort : List SortKey
  columns : List Field
deriving Repr

namespace EntityType

/-- The namespace of the identifiers, so that a resource has the same one each time. -/
def idSpace : Uuid := Uuid.ofNat 0xdac5ff9d28e24ce8b498958f5d2ad3da

/-- The identifier of a module's resource. -/
def idOf (moduleName resource : String) : Uuid :=
  Uuid.ofName idSpace (moduleName ++ "/" ++ resource)

/-- The first column with a name. -/
def column? (e : EntityType) (name : String) : Option Field := e.columns.find? (·.name == name)

/-- What follows the last double underscore, if there is one. -/
def afterLastSeparator? : List Char → Option (List Char)
  | [] => none
  | c :: rest =>
      match afterLastSeparator? rest with
      | some tail => some tail
      | none =>
          match c, rest with
          | '_', '_' :: tail => some tail
          | _, _ => none

/-- The resource part of the name. -/
def resourceName (e : EntityType) : String :=
  match afterLastSeparator? e.name.toList with
  | some tail => String.ofList tail
  | none => e.name

end EntityType

end EntityCatalog
