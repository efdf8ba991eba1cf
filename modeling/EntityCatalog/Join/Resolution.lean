import EntityCatalog.Diagnostic.Basic
import EntityCatalog.EntityType.Basic
import EntityCatalog.Naming
import EntityCatalog.OrderedMap

/-!
Declared joins resolved to the identifiers of their targets.

All entity types of a batch are indexed by name first, so their order does not matter, except that
of two with one name the later is found.  Each declared join, on a column or on a property at any
depth, then becomes a resolved join or an issue, and in force mode, where the target does not exist
at all, both: a join to a placeholder and a warning.  No declared join remains.
-/

namespace EntityCatalog

/-! ## The index -/

/-- What is known of an entity type that joins may lead to. -/
structure JoinTarget where
  id : Uuid
  columnNames : List String
deriving DecidableEq, Repr

/-- The targets of a batch, by name. -/
abbrev EntityIndex := OrderedMap JoinTarget

/-- An entity type as a target. -/
def EntityType.joinTarget (e : EntityType) : JoinTarget := ⟨e.id, e.columns.map (·.name)⟩

/-- The index of some entity types. -/
def EntityIndex.ofEntityTypes (es : List EntityType) : EntityIndex :=
  OrderedMap.ofList (es.map fun e => (e.name, e.joinTarget))

/-! ## Single joins -/

/-- What is found where a join leads. -/
inductive JoinEnd where
  /-- An entity type that has the column. -/
  | found (id : Uuid)
  /-- An entity type without the column. -/
  | noField
  | noEntity
deriving DecidableEq, Repr

/-- What is found where a join leads. -/
def EntityIndex.joinEnd (index : EntityIndex) (j : DeclaredJoin) : JoinEnd :=
  match index.get? (Naming.qualifiedName j.targetModule j.targetEntity) with
  | some target => if j.targetField ∈ target.columnNames then .found target.id else .noField
  | none => .noEntity

/-- The identifier that stands for an entity type that does not exist. -/
def placeholderId : Uuid := Uuid.ofNat 0xdeadbeefdeadbeefdeadbeefdeadbeef

/-- A join to an entity type, from a column of a type. -/
def DeclaredJoin.to (j : DeclaredJoin) (id : Uuid) (source : DataType) : ResolvedJoin :=
  { targetId := id
    targetField := j.targetField
    direction := j.direction
    condition := j.condition.getD source.joinCondition }

/-- The message about a join that leads nowhere. -/
def DeclaredJoin.missingMessage (j : DeclaredJoin) (entity column : String) :
    MissingTarget → String
  | .entity =>
      "Entity type " ++ entity ++ " field " ++ column ++ " has a join to entity "
        ++ j.targetLabel ++ ", but it does not exist."
  | .field =>
      "Entity type " ++ entity ++ " field " ++ column ++ " has a join to field "
        ++ j.targetField ++ " in entity " ++ j.targetLabel ++ ", but no such field exists."

/-- The issue of a join that leads nowhere. -/
def DeclaredJoin.missingIssue (j : DeclaredJoin) (entity column : String) (severity : Severity)
    (missing : MissingTarget) : Issue :=
  { severity
    kind := .join column j.targetLabel j.targetField missing
    message := j.missingMessage entity column missing }

/-- How joins are resolved: against which targets, and whether in force mode. -/
structure JoinResolver where
  index : EntityIndex
  force : Bool

namespace JoinResolver

/-- What becomes of a join from a column of a type. -/
def resolve? (r : JoinResolver) (source : DataType) (j : DeclaredJoin) : Option ResolvedJoin :=
  match r.index.joinEnd j with
  | .found id => some (j.to id source)
  | .noField => none
  | .noEntity => if r.force then some (j.to placeholderId source) else none

/-- What is reported about a join from a column of an entity type. -/
def issue? (r : JoinResolver) (entity column : String) (j : DeclaredJoin) : Option Issue :=
  match r.index.joinEnd j with
  | .found _ => none
  | .noField => some (j.missingIssue entity column .error .field)
  | .noEntity =>
      some (j.missingIssue entity column (if r.force then .warning else .error) .entity)

/-! ## Columns -/

/-- A column with its own joins resolved, behind those that already were. -/
def column (r : JoinResolver) (info : ColumnInfo) (type : DataType) : ColumnInfo :=
  if info.declaredJoins.isEmpty then info
  else
    let joins := info.joinsTo.getD [] ++ info.declaredJoins.filterMap (r.resolve? type)
    { info with
      joinsTo := if joins.isEmpty then none else some joins
      declaredJoins := [] }

mutual
/-- A type with the joins of its properties resolved. -/
def type (r : JoinResolver) : DataType → DataType
  | .leaf t => .leaf t
  | .object properties => .object (r.fields properties)
  | .array kind item => .array kind (r.type item)

/-- Columns with their joins resolved, at every depth. -/
def fields (r : JoinResolver) : List Field → List Field
  | [] => []
  | ⟨info, t⟩ :: rest => ⟨r.column info t, r.type t⟩ :: r.fields rest
end

mutual
/-- What is reported about the joins of a type's properties. -/
def typeIssues (r : JoinResolver) (entity : String) : DataType → List Issue
  | .leaf _ => []
  | .object properties => r.fieldIssues entity properties
  | .array _ item => r.typeIssues entity item

/-- What is reported about the joins of columns, at every depth. -/
def fieldIssues (r : JoinResolver) (entity : String) : List Field → List Issue
  | [] => []
  | ⟨info, t⟩ :: rest =>
      info.declaredJoins.filterMap (r.issue? entity info.name) ++ r.typeIssues entity t
        ++ r.fieldIssues entity rest
end

/-- An entity type with its joins resolved. -/
def entityType (r : JoinResolver) (e : EntityType) : EntityType :=
  { e with columns := r.fields e.columns }

/-- What is reported about the joins of an entity type. -/
def diagnostics (r : JoinResolver) (e : EntityType) : List Diagnostic :=
  (r.fieldIssues e.name e.columns).map fun issue => { issue, entityType := some e.name }

end JoinResolver

/-! ## Batches -/

/-- The entity types of a batch with their joins resolved, with what is reported about them. -/
def resolveJoins (es : List EntityType) (force : Bool) : List EntityType × List Diagnostic :=
  let r : JoinResolver := ⟨EntityIndex.ofEntityTypes es, force⟩
  (es.map r.entityType, es.flatMap r.diagnostics)

end EntityCatalog
