import EntityCatalog.Proofs.Join.Resolution
import Mathlib.Data.List.Forall2

/-!
# What each declared join comes to

Resolution is two functions of the same list: `column` keeps what joins become, `fieldIssues` keeps
what is reported.  Read side by side they give every declared join of every column one outcome
(`JoinOutcome`), an entry and no issue, an issue and no entry, or, in force mode, both.  A column at
any depth is then accounted for by the outcomes of its own joins, and the batch by its columns
(`resolveJoins_accounted`).

An outcome does not speak of the index.  What a join finds is the last entity type of the batch with
the name that the join gives (`lastNamed?`), so a batch that has a name twice is covered.
-/

namespace EntityCatalog

/-! ## Targets -/

/-- The entity type of a batch that a join names. -/
def DeclaredJoin.target? (d : DeclaredJoin) (es : List EntityType) : Option EntityType :=
  lastNamed? es (Naming.qualifiedName d.targetModule d.targetEntity)

/-- What the index has under the name that a join gives. -/
theorem EntityIndex.get?_target (es : List EntityType) (d : DeclaredJoin) :
    (EntityIndex.ofEntityTypes es).get? (Naming.qualifiedName d.targetModule d.targetEntity)
      = (d.target? es).map EntityType.joinTarget :=
  get?_ofEntityTypes es _

/-- Where a join leads is read off the entity type that it names. -/
theorem EntityIndex.joinEnd_of_target? {es : List EntityType} {d : DeclaredJoin}
    {target : EntityType} (h : d.target? es = some target) :
    (EntityIndex.ofEntityTypes es).joinEnd d
      = if d.targetField ∈ target.columns.map (·.name) then .found target.id else .noField := by
  rw [joinEnd, get?_target, h]
  rfl

theorem EntityIndex.joinEnd_of_no_target? {es : List EntityType} {d : DeclaredJoin}
    (h : d.target? es = none) : (EntityIndex.ofEntityTypes es).joinEnd d = .noEntity := by
  rw [joinEnd, get?_target, h]
  rfl

/-! ## Outcomes -/

/-- What an entry has that a declared join of a column becomes: the identifier it leads to, the
join's own members and, where the join gives no condition, the one that goes with the type of the
column. -/
structure DeclaredJoin.Becomes (d : DeclaredJoin) (f : Field) (id : Uuid) (entry : ResolvedJoin) :
    Prop where
  targetId : entry.targetId = id
  targetField : entry.targetField = d.targetField
  direction : entry.direction = d.direction
  given : ∀ c, d.condition = some c → entry.condition = c
  rangedUuid : d.condition = none → f.dataType = .leaf .rangedUuid →
    entry.condition = .equalityCastUuid
  other : d.condition = none → f.dataType ≠ .leaf .rangedUuid → entry.condition = .equalitySimple

theorem joinCondition_of_ne {t : DataType} (h : t ≠ .leaf .rangedUuid) :
    t.joinCondition = .equalitySimple := by
  unfold DataType.joinCondition
  split
  · exact absurd rfl h
  · rfl

theorem DeclaredJoin.becomes_to (d : DeclaredJoin) (f : Field) (id : Uuid) :
    d.Becomes f id (d.to id f.dataType) where
  targetId := rfl
  targetField := rfl
  direction := rfl
  given c h := by rw [DeclaredJoin.to, h, Option.getD_some]
  rangedUuid h ht := by
    rw [DeclaredJoin.to, h, Option.getD_none, ht]
    rfl
  other h ht := by rw [DeclaredJoin.to, h, Option.getD_none, joinCondition_of_ne ht]

/-- What a declared join of a column comes to in a batch: what it adds to the column's joins, and
what is reported about it. -/
inductive JoinOutcome (es : List EntityType) (force : Bool) (entity : String) (f : Field)
    (d : DeclaredJoin) : Option ResolvedJoin × Option Issue → Prop
  | found {target : EntityType} {entry : ResolvedJoin} : d.target? es = some target →
      d.targetField ∈ target.columns.map (·.name) → d.Becomes f target.id entry →
      JoinOutcome es force entity f d (some entry, none)
  | noField {target : EntityType} : d.target? es = some target →
      d.targetField ∉ target.columns.map (·.name) →
      JoinOutcome es force entity f d (none, some (d.missingIssue entity f.name .error .field))
  | forced {entry : ResolvedJoin} : d.target? es = none → force = true →
      d.Becomes f placeholderId entry →
      JoinOutcome es force entity f d
        (some entry, some (d.missingIssue entity f.name .warning .entity))
  | noEntity : d.target? es = none → force = false →
      JoinOutcome es force entity f d (none, some (d.missingIssue entity f.name .error .entity))

namespace JoinResolver

/-- An entry and an issue of one join, as resolution makes them. -/
def outcome (r : JoinResolver) (entity : String) (f : Field) (d : DeclaredJoin) :
    Option ResolvedJoin × Option Issue :=
  (r.resolve? f.dataType d, r.issue? entity f.name d)

theorem joinOutcome_outcome (es : List EntityType) (force : Bool) (entity : String) (f : Field)
    (d : DeclaredJoin) :
    JoinOutcome es force entity f d
      ((JoinResolver.mk (EntityIndex.ofEntityTypes es) force).outcome entity f d) := by
  unfold outcome resolve? issue?
  dsimp only
  cases htarget : d.target? es with
  | some target =>
      rw [EntityIndex.joinEnd_of_target? htarget]
      by_cases hfield : d.targetField ∈ target.columns.map (·.name)
      · rw [if_pos hfield]
        exact .found htarget hfield (d.becomes_to f target.id)
      · rw [if_neg hfield]
        exact .noField htarget hfield
  | none =>
      rw [EntityIndex.joinEnd_of_no_target? htarget]
      cases force with
      | true => exact .forced htarget rfl (d.becomes_to f placeholderId)
      | false => exact .noEntity htarget rfl

end JoinResolver

/-- A join is added unless an error says why it is not. -/
theorem JoinOutcome.isSome_or_isError {es : List EntityType} {force : Bool} {entity : String}
    {f : Field} {d : DeclaredJoin} {o : Option ResolvedJoin × Option Issue}
    (h : JoinOutcome es force entity f d o) :
    (o.2.filter (·.isError)).isSome = !o.1.isSome := by
  cases h with
  | found => rfl
  | noField => rfl
  | forced => rfl
  | noEntity => rfl

/-! ## Columns -/

/-- What resolution makes of a column, with the outcomes of its declared joins. -/
structure ColumnAccount where
  column : Field
  outcomes : List (Option ResolvedJoin × Option Issue)

namespace ColumnAccount

/-- What is added to the column's joins. -/
def entries (a : ColumnAccount) : List ResolvedJoin := a.outcomes.filterMap (·.1)

/-- What is reported about the column's joins. -/
def issues (a : ColumnAccount) : List Issue := a.outcomes.filterMap (·.2)

end ColumnAccount

/-- A column is accounted for: each of its declared joins has one outcome, in order; what these add
follows the joins that it had, and the member is absent if there are none at all; a column without
declared joins keeps its joins, absent or empty as they are; and what is not added is an error. -/
structure Field.AccountedFor (es : List EntityType) (force : Bool) (entity : String)
    (before : Field) (a : ColumnAccount) : Prop where
  outcomes : List.Forall₂ (JoinOutcome es force entity before) before.declaredJoins a.outcomes
  declaredJoins : a.column.declaredJoins = []
  untouched : before.declaredJoins = [] → a.column.joinsTo = before.joinsTo
  joinsTo : before.declaredJoins ≠ [] →
    a.column.joinsTo
      = (some (before.joinsTo.getD [] ++ a.entries)).filter (!·.isEmpty)
  balance : a.entries.length + (a.issues.filter (·.isError)).length = before.declaredJoins.length

namespace JoinResolver

/-- The account of a column. -/
def account (r : JoinResolver) (entity : String) (f : Field) : ColumnAccount :=
  ⟨r.field f, f.declaredJoins.map (r.outcome entity f)⟩

variable (r : JoinResolver)

theorem entries_account (entity : String) (f : Field) :
    (r.account entity f).entries = f.declaredJoins.filterMap (r.resolve? f.dataType) := by
  rw [ColumnAccount.entries, account, List.filterMap_map]
  rfl

theorem issues_account (entity : String) (f : Field) :
    (r.account entity f).issues = r.ownIssues entity f := by
  rw [ColumnAccount.issues, account, List.filterMap_map]
  rfl

theorem joinsTo_of_declared {f : Field} (h : f.declaredJoins ≠ []) :
    (r.field f).joinsTo
      = (some (f.joinsTo.getD [] ++ f.declaredJoins.filterMap (r.resolve? f.dataType))).filter
          (!·.isEmpty) := by
  show (r.column f.toColumnInfo f.dataType).joinsTo = _
  rw [column, if_neg (by rwa [List.isEmpty_iff])]
  dsimp only
  split
  · rename_i hnone
    rw [Option.filter_some, hnone]
    rfl
  · rename_i hsome
    rw [Option.filter_some, Bool.eq_false_iff.mpr hsome]
    rfl

theorem joinsTo_of_no_declared {f : Field} (h : f.declaredJoins = []) :
    (r.field f).joinsTo = f.joinsTo := by
  show (r.column f.toColumnInfo f.dataType).joinsTo = _
  rw [column, if_pos (by rwa [List.isEmpty_iff])]

theorem accountedFor (es : List EntityType) (force : Bool) (entity : String) (f : Field) :
    f.AccountedFor es force entity
      ((JoinResolver.mk (EntityIndex.ofEntityTypes es) force).account entity f) := by
  have houtcome := joinOutcome_outcome es force entity f
  refine ⟨?_, field_declaredJoins _ f, joinsTo_of_no_declared _, fun h => ?_, ?_⟩
  · rw [account, List.forall₂_map_right_iff, List.forall₂_same]
    exact fun d _ => houtcome d
  · rw [entries_account]
    exact joinsTo_of_declared _ h
  · rw [entries_account, issues_account, ownIssues, List.filter_filterMap,
      List.length_filterMap_eq_countP, List.length_filterMap_eq_countP,
      List.length_eq_countP_add_countP fun d => (JoinResolver.resolve? _ f.dataType d).isSome]
    refine congrArg (_ + ·) (List.countP_congr fun d _ => ?_)
    have hone := (houtcome d).isSome_or_isError
    rw [outcome] at hone
    rw [hone]
    simp

end JoinResolver

/-! ## All but the joins -/

/-- What a column carries besides its joins. -/
def ColumnInfo.unjoined (info : ColumnInfo) : ColumnInfo :=
  { info with joinsTo := none, declaredJoins := [] }

mutual
/-- A type without the joins of its properties, at any depth. -/
def DataType.unjoined : DataType → DataType
  | .leaf t => .leaf t
  | .object properties => .object (fieldsUnjoined properties)
  | .array kind item => .array kind item.unjoined

/-- Columns without their joins, at any depth. -/
def fieldsUnjoined : List Field → List Field
  | [] => []
  | ⟨info, t⟩ :: rest => ⟨info.unjoined, t.unjoined⟩ :: fieldsUnjoined rest
end

/-- An entity type without the joins of its columns, at any depth. -/
def EntityType.unjoined (e : EntityType) : EntityType :=
  { e with columns := fieldsUnjoined e.columns }

namespace JoinResolver

variable (r : JoinResolver)

theorem unjoined_column (info : ColumnInfo) (t : DataType) :
    (r.column info t).unjoined = info.unjoined := by
  unfold column
  split
  · rfl
  · rfl

mutual
theorem unjoined_type : ∀ t : DataType, (r.type t).unjoined = t.unjoined
  | .leaf _ => rfl
  | .object properties => congrArg DataType.object (unjoined_fields properties)
  | .array kind item => congrArg (DataType.array kind) (unjoined_type item)

/-- Resolution changes nothing but joins. -/
theorem unjoined_fields : ∀ fs : List Field, fieldsUnjoined (r.fields fs) = fieldsUnjoined fs
  | [] => rfl
  | ⟨info, t⟩ :: rest => by
      rw [fields, fieldsUnjoined, fieldsUnjoined, unjoined_column, unjoined_type t,
        unjoined_fields rest]
end

end JoinResolver

/-! ## Batches -/

/-- What resolution makes of an entity type, with the accounts of its columns at any depth. -/
structure EntityAccount where
  entityType : EntityType
  columns : List ColumnAccount

/-- What is reported about the joins of an entity type. -/
def EntityAccount.diagnostics (a : EntityAccount) : List Diagnostic :=
  (a.columns.flatMap ColumnAccount.issues).map fun issue =>
    { issue, entityType := some a.entityType.name }

/-- An entity type is accounted for: each of its columns is, at any depth and each before what its
type holds, and nothing else of the entity type has changed. -/
structure EntityType.AccountedFor (es : List EntityType) (force : Bool) (before : EntityType)
    (a : EntityAccount) : Prop where
  columns : List.Forall₂ (Field.AccountedFor es force before.name) (allFields before.columns)
    a.columns
  after : allFields a.entityType.columns = a.columns.map (·.column)
  unjoined : a.entityType.unjoined = before.unjoined

namespace JoinResolver

/-- The account of an entity type. -/
def entityAccount (r : JoinResolver) (e : EntityType) : EntityAccount :=
  ⟨r.entityType e, (allFields e.columns).map (r.account e.name)⟩

theorem diagnostics_entityAccount (r : JoinResolver) (e : EntityType) :
    (r.entityAccount e).diagnostics = r.diagnostics e := by
  rw [EntityAccount.diagnostics, diagnostics, fieldIssues_eq, entityAccount, List.flatMap_map]
  simp only [issues_account]
  rfl

theorem entityAccountedFor (es : List EntityType) (force : Bool) (e : EntityType) :
    e.AccountedFor es force
      ((JoinResolver.mk (EntityIndex.ofEntityTypes es) force).entityAccount e) where
  columns := by
    rw [entityAccount, List.forall₂_map_right_iff, List.forall₂_same]
    exact fun f _ => accountedFor es force e.name f
  after := by
    rw [entityAccount, List.map_map]
    exact allFields_fields _ e.columns
  unjoined := congrArg (fun columns => { e with columns }) (unjoined_fields _ e.columns)

end JoinResolver

/-- **Every declared join is accounted for, and nothing but joins changes.**  The entity types of a
batch are accounted for one by one: at each column, at any depth, each declared join adds an entry
behind the joins that were there, or is reported, or both, as its target in the batch and the mode
decide.  What is reported stands in the order of the entity types, then of their columns at any
depth, then of the joins of a column, each time for the entity type that has the column. -/
theorem resolveJoins_accounted (es : List EntityType) (force : Bool) :
    ∃ accounts : List EntityAccount,
      List.Forall₂ (EntityType.AccountedFor es force) es accounts ∧
        (resolveJoins es force).1 = accounts.map (·.entityType) ∧
        (resolveJoins es force).2 = accounts.flatMap (·.diagnostics) := by
  refine ⟨es.map (JoinResolver.mk (EntityIndex.ofEntityTypes es) force).entityAccount, ?_, ?_, ?_⟩
  · rw [List.forall₂_map_right_iff, List.forall₂_same]
    exact fun e _ => JoinResolver.entityAccountedFor es force e
  · rw [List.map_map]
    rfl
  · rw [List.flatMap_map]
    exact List.flatMap_congr fun e _ => (JoinResolver.diagnostics_entityAccount _ e).symm

end EntityCatalog
