import EntityCatalog.Join.Resolution
import EntityCatalog.Proofs.Column.Depth
import EntityCatalog.Proofs.OrderedMap

/-!
# What resolution does to a column, and to all of them

Resolution rewrites a column without looking at its neighbours, so over a whole batch it is one map
over the columns at any depth (`allFields_fields`), and what it reports is read off those columns in
the same order (`fieldIssues_eq`).  All that is said about single joins then holds at every depth.

What is found where a join leads is a matter of the names in the batch.  The index has the last entity
type of each name (`EntityIndex.get?_ofEntityTypes`), and `joinEnd_found` turns its answer back into
an entity type of the batch.
-/

namespace EntityCatalog

/-! ## The index and the batch -/

/-- The entity type that a batch has under a name, the last one if there are several. -/
def lastNamed? (es : List EntityType) (name : String) : Option EntityType :=
  es.reverse.find? (·.name == name)

theorem mem_of_lastNamed? {es : List EntityType} {name : String} {e : EntityType}
    (h : lastNamed? es name = some e) : e ∈ es ∧ e.name = name :=
  ⟨List.mem_reverse.mp (List.mem_of_find?_eq_some h), by simpa using List.find?_some h⟩

theorem lastNamed?_eq_none_iff {es : List EntityType} {name : String} :
    lastNamed? es name = none ↔ name ∉ es.map (·.name) := by
  rw [lastNamed?, List.find?_eq_none, List.mem_map, not_exists]
  simp only [List.mem_reverse, beq_iff_eq, not_and]

theorem lookup_joinTarget (es : List EntityType) (name : String) :
    (es.map fun e => (e.name, e.joinTarget)).lookup name
      = (es.find? (·.name == name)).map EntityType.joinTarget := by
  induction es with
  | nil => rfl
  | cons e es ih =>
      rw [List.map_cons, List.lookup_cons, List.find?_cons, ih]
      by_cases hname : e.name = name
      · rw [hname, beq_self_eq_true]
        rfl
      · rw [beq_eq_false_iff_ne.mpr hname, beq_eq_false_iff_ne.mpr (Ne.symm hname)]

/-- The index finds the last entity type with a name. -/
theorem EntityIndex.get?_ofEntityTypes (es : List EntityType) (name : String) :
    (EntityIndex.ofEntityTypes es).get? name = (lastNamed? es name).map EntityType.joinTarget := by
  rw [ofEntityTypes, OrderedMap.get?_ofList, OrderedMap.lastValue?, ← List.map_reverse,
    lookup_joinTarget]
  rfl

theorem EntityIndex.exists_of_get? {es : List EntityType} {name : String} {target : JoinTarget}
    (h : (EntityIndex.ofEntityTypes es).get? name = some target) :
    ∃ e ∈ es, e.name = name ∧ e.joinTarget = target := by
  rw [get?_ofEntityTypes] at h
  obtain ⟨e, he, htarget⟩ := Option.map_eq_some_iff.mp h
  obtain ⟨hmem, hname⟩ := mem_of_lastNamed? he
  exact ⟨e, hmem, hname, htarget⟩

/-- A join that finds its target finds an entity type of the batch, which has the column. -/
theorem EntityIndex.joinEnd_found {es : List EntityType} {j : DeclaredJoin} {id : Uuid}
    (h : (EntityIndex.ofEntityTypes es).joinEnd j = .found id) :
    ∃ e ∈ es, e.name = Naming.qualifiedName j.targetModule j.targetEntity ∧ e.id = id ∧
      j.targetField ∈ e.columns.map (·.name) := by
  unfold EntityIndex.joinEnd at h
  split at h
  · rename_i target hget
    split at h
    · rename_i hfield
      obtain ⟨e, he, hname, rfl⟩ := exists_of_get? hget
      exact ⟨e, he, hname, JoinEnd.found.inj h, hfield⟩
    · exact absurd h (by simp)
  · exact absurd h (by simp)

namespace JoinResolver

variable (r : JoinResolver)

/-! ## One column -/

/-- A column with its joins resolved, and those in its type. -/
def field (f : Field) : Field := ⟨r.column f.toColumnInfo f.dataType, r.type f.dataType⟩

@[simp] theorem field_name (f : Field) : (r.field f).name = f.name := by
  show (r.column f.toColumnInfo f.dataType).name = f.name
  unfold column
  split
  · rfl
  · rfl

/-- No declared join remains. -/
@[simp] theorem field_declaredJoins (f : Field) : (r.field f).declaredJoins = [] := by
  show (r.column f.toColumnInfo f.dataType).declaredJoins = []
  unfold column
  split
  · rename_i h
    exact List.isEmpty_iff.mp h
  · rfl

/-- The joins of a column: those that it had, then those that its declared joins become. -/
theorem field_joinsTo (f : Field) :
    (r.field f).joinsTo.getD []
      = f.joinsTo.getD [] ++ f.declaredJoins.filterMap (r.resolve? f.dataType) := by
  show (r.column f.toColumnInfo f.dataType).joinsTo.getD [] = _
  unfold column
  split
  · rename_i h
    rw [List.isEmpty_iff.mp h, List.filterMap_nil, List.append_nil]
  · dsimp only
    split
    · rename_i h
      exact (List.isEmpty_iff.mp h).symm
    · rfl

/-! ## Columns at any depth -/

theorem fields_eq_map (fs : List Field) : r.fields fs = fs.map r.field := by
  induction fs with
  | nil => rfl
  | cons f fs ih =>
      cases f
      rw [fields, ih]
      rfl

theorem map_name_fields (fs : List Field) : (r.fields fs).map (·.name) = fs.map (·.name) := by
  rw [fields_eq_map, List.map_map]
  exact List.map_congr_left fun f _ => r.field_name f

mutual
theorem innerFields_type :
    ∀ t : DataType, (r.type t).innerFields = t.innerFields.map r.field
  | .leaf _ => rfl
  | .object properties => allFields_fields properties
  | .array _ item => innerFields_type item

/-- Resolution of a batch is the resolution of each column at any depth. -/
theorem allFields_fields :
    ∀ fs : List Field, allFields (r.fields fs) = (allFields fs).map r.field
  | [] => rfl
  | ⟨info, t⟩ :: rest => by
      rw [fields, allFields, allFields, innerFields_type t, allFields_fields rest, List.map_cons,
        List.map_append]
      rfl
end

/-- What is reported about the joins of a column itself. -/
def ownIssues (entity : String) (f : Field) : List Issue :=
  f.declaredJoins.filterMap (r.issue? entity f.name)

mutual
theorem typeIssues_eq (entity : String) :
    ∀ t : DataType, r.typeIssues entity t = t.innerFields.flatMap (r.ownIssues entity)
  | .leaf _ => rfl
  | .object properties => fieldIssues_eq entity properties
  | .array _ item => typeIssues_eq entity item

/-- What is reported about a batch is what is reported about each column at any depth. -/
theorem fieldIssues_eq (entity : String) :
    ∀ fs : List Field, r.fieldIssues entity fs = (allFields fs).flatMap (r.ownIssues entity)
  | [] => rfl
  | ⟨info, t⟩ :: rest => by
      rw [fieldIssues, allFields, typeIssues_eq entity t, fieldIssues_eq entity rest,
        List.flatMap_cons, List.flatMap_append, List.append_assoc]
      rfl
end

/-! ## One join -/

/-- A join becomes one to the entity type that is found or, in force mode and if there is none, one
to the placeholder. -/
theorem resolve?_eq_some_iff {source : DataType} {j : DeclaredJoin} {new : ResolvedJoin} :
    r.resolve? source j = some new ↔
      (∃ id, r.index.joinEnd j = .found id ∧ new = j.to id source) ∨
        (r.index.joinEnd j = .noEntity ∧ r.force = true ∧ new = j.to placeholderId source) := by
  unfold resolve?
  cases r.index.joinEnd j with
  | found id =>
      constructor
      · intro h
        exact Or.inl ⟨id, rfl, (Option.some.inj h).symm⟩
      · rintro (⟨id', hid, rfl⟩ | ⟨h, -⟩)
        · rw [JoinEnd.found.inj hid]
        · exact absurd h (by simp)
  | noField => simp
  | noEntity =>
      cases r.force with
      | true => simp [eq_comm]
      | false => simp

theorem issue?_of_noEntity {entity column : String} {j : DeclaredJoin}
    (h : r.index.joinEnd j = .noEntity) :
    r.issue? entity column j
      = some (j.missingIssue entity column (if r.force then .warning else .error) .entity) := by
  rw [issue?, h]

/-! ## Resolvers that agree -/

/-- Two resolvers that find the same under every name and are in the same mode.  The order of their
indexes may differ. -/
structure Agrees (r r' : JoinResolver) : Prop where
  get? : ∀ name, r.index.get? name = r'.index.get? name
  force : r.force = r'.force

namespace Agrees

variable {r r' : JoinResolver}

theorem joinEnd (h : r.Agrees r') (j : DeclaredJoin) : r.index.joinEnd j = r'.index.joinEnd j := by
  rw [EntityIndex.joinEnd, EntityIndex.joinEnd, h.get?]

theorem resolve? (h : r.Agrees r') : r.resolve? = r'.resolve? := by
  funext source j
  rw [JoinResolver.resolve?, JoinResolver.resolve?, h.joinEnd, h.force]

theorem issue? (h : r.Agrees r') : r.issue? = r'.issue? := by
  funext entity column j
  rw [JoinResolver.issue?, JoinResolver.issue?, h.joinEnd, h.force]

theorem column (h : r.Agrees r') : r.column = r'.column := by
  funext info t
  rw [JoinResolver.column, JoinResolver.column, h.resolve?]

mutual
theorem type (h : r.Agrees r') : ∀ t : DataType, r.type t = r'.type t
  | .leaf _ => rfl
  | .object properties => congrArg DataType.object (fields h properties)
  | .array kind item => congrArg (DataType.array kind) (type h item)

theorem fields (h : r.Agrees r') : ∀ fs : List Field, r.fields fs = r'.fields fs
  | [] => rfl
  | ⟨info, t⟩ :: rest => by
      rw [JoinResolver.fields, JoinResolver.fields, h.column, type h t, fields h rest]
end

theorem entityType (h : r.Agrees r') : r.entityType = r'.entityType := by
  funext e
  rw [JoinResolver.entityType, JoinResolver.entityType, h.fields]

theorem diagnostics (h : r.Agrees r') : r.diagnostics = r'.diagnostics := by
  funext e
  have hown : r.ownIssues e.name = r'.ownIssues e.name := by
    funext f
    rw [ownIssues, ownIssues, h.issue?]
  rw [JoinResolver.diagnostics, JoinResolver.diagnostics, fieldIssues_eq, fieldIssues_eq, hown]

end Agrees

end JoinResolver

end EntityCatalog
