import EntityCatalog.Proofs.Join.Resolution
import Mathlib.Data.List.Forall2

/-!
# What force mode changes

Force mode is one flag of the resolver, and it is looked at in two places: where a join becomes an
entry, and where its issue gets a severity.  Both are where the target does not exist at all.  So a
declared join has one outcome that does not depend on the mode (`lookup?`, an entry with a mark), and
the modes differ in what they take of it: force mode takes every entry, default mode those without
the mark (`resolve?_forced`, `resolve?_unforced`).

An entry of the placeholder may also be there before any join is resolved.  The mark is therefore
not read off the identifier: it belongs to the declared join.
-/

namespace EntityCatalog

/-! ## Targets that do not exist -/

/-- Whether a batch has no entity type under the name that a join gives. -/
def TargetMissing (es : List EntityType) (d : DeclaredJoin) : Prop :=
  Naming.qualifiedName d.targetModule d.targetEntity ∉ es.map (·.name)

instance (es : List EntityType) (d : DeclaredJoin) : Decidable (TargetMissing es d) :=
  inferInstanceAs (Decidable (_ ∉ _))

theorem EntityIndex.get?_eq_none_iff {es : List EntityType} {name : String} :
    (EntityIndex.ofEntityTypes es).get? name = none ↔ name ∉ es.map (·.name) := by
  rw [get?_ofEntityTypes, Option.map_eq_none_iff, lastNamed?_eq_none_iff]

/-- A join ends at nothing iff its target does not exist. -/
theorem EntityIndex.joinEnd_eq_noEntity_iff {es : List EntityType} {d : DeclaredJoin} :
    (EntityIndex.ofEntityTypes es).joinEnd d = .noEntity ↔ TargetMissing es d := by
  rw [TargetMissing, ← get?_eq_none_iff]
  unfold joinEnd
  cases (EntityIndex.ofEntityTypes es).get? _ with
  | none => simp
  | some target =>
      dsimp only
      split
      · simp
      · simp

/-! ## One outcome for both modes -/

/-- What a declared join of a column of a type comes to, marked if its target does not exist. -/
def EntityIndex.lookup? (index : EntityIndex) (source : DataType) (d : DeclaredJoin) :
    Option (ResolvedJoin × Bool) :=
  match index.joinEnd d with
  | .found id => some (d.to id source, false)
  | .noField => none
  | .noEntity => some (d.to placeholderId source, true)

/-- An issue as force mode reports it: that of a target that does not exist is no error. -/
def Issue.softened (i : Issue) : Issue :=
  match i.kind with
  | .join _ _ _ .entity => { i with severity := .warning }
  | _ => i

namespace JoinResolver

variable (index : EntityIndex)

theorem resolve?_forced (source : DataType) (d : DeclaredJoin) :
    (JoinResolver.mk index true).resolve? source d = (index.lookup? source d).map Prod.fst := by
  unfold resolve? EntityIndex.lookup?
  cases index.joinEnd d with
  | found id => rfl
  | noField => rfl
  | noEntity => rfl

theorem resolve?_unforced (source : DataType) (d : DeclaredJoin) :
    (JoinResolver.mk index false).resolve? source d
      = ((index.lookup? source d).filter (!·.2)).map Prod.fst := by
  unfold resolve? EntityIndex.lookup?
  cases index.joinEnd d with
  | found id => rfl
  | noField => rfl
  | noEntity => rfl

theorem issue?_forced (entity column : String) (d : DeclaredJoin) :
    (JoinResolver.mk index true).issue? entity column d
      = ((JoinResolver.mk index false).issue? entity column d).map Issue.softened := by
  unfold issue?
  cases index.joinEnd d with
  | found id => rfl
  | noField => rfl
  | noEntity => rfl

/-! ## Joins of one column -/

theorem joinsTo_forced (f : Field) :
    ((JoinResolver.mk index true).field f).joinsTo.getD []
      = f.joinsTo.getD [] ++ (f.declaredJoins.filterMap (index.lookup? f.dataType)).map Prod.fst := by
  have hone : (JoinResolver.mk index true).resolve? f.dataType
      = fun d => (index.lookup? f.dataType d).map Prod.fst :=
    funext (resolve?_forced index f.dataType)
  rw [field_joinsTo, List.map_filterMap, hone]

theorem joinsTo_unforced (f : Field) :
    ((JoinResolver.mk index false).field f).joinsTo.getD []
      = f.joinsTo.getD []
          ++ ((f.declaredJoins.filterMap (index.lookup? f.dataType)).filter (!·.2)).map Prod.fst := by
  have hone : (JoinResolver.mk index false).resolve? f.dataType
      = fun d => ((index.lookup? f.dataType d).filter (!·.2)).map Prod.fst :=
    funext (resolve?_unforced index f.dataType)
  rw [field_joinsTo, List.filter_filterMap, List.map_filterMap, hone]

/-- The marked entries are the placeholders of the joins whose targets do not exist, in order. -/
theorem marked_entries (es : List EntityType) (source : DataType) (ds : List DeclaredJoin) :
    ((ds.filterMap ((EntityIndex.ofEntityTypes es).lookup? source)).filter (·.2)).map Prod.fst
      = (ds.filter fun d => TargetMissing es d).map fun d => d.to placeholderId source := by
  induction ds with
  | nil => rfl
  | cons d ds ih =>
      by_cases hd : TargetMissing es d
      · have hend := EntityIndex.joinEnd_eq_noEntity_iff.mpr hd
        have hentry : (EntityIndex.ofEntityTypes es).lookup? source d
            = some (d.to placeholderId source, true) := by
          rw [EntityIndex.lookup?, hend]
        have hkeep : (d :: ds).filter (fun d => TargetMissing es d)
            = d :: ds.filter fun d => TargetMissing es d :=
          List.filter_cons_of_pos (decide_eq_true hd)
        rw [List.filterMap_cons_some hentry, List.filter_cons_of_pos rfl, List.map_cons, ih, hkeep,
          List.map_cons]
      · rw [List.filter_cons_of_neg (by simpa using hd), ← ih]
        -- whatever such a join comes to, it has no mark
        cases hend : (EntityIndex.ofEntityTypes es).joinEnd d with
        | noEntity => exact absurd (EntityIndex.joinEnd_eq_noEntity_iff.mp hend) hd
        | noField =>
            have hentry : (EntityIndex.ofEntityTypes es).lookup? source d = none := by
              rw [EntityIndex.lookup?, hend]
            rw [List.filterMap_cons_none hentry]
        | found id =>
            have hentry : (EntityIndex.ofEntityTypes es).lookup? source d
                = some (d.to id source, false) := by
              rw [EntityIndex.lookup?, hend]
            rw [List.filterMap_cons_some hentry, List.filter_cons_of_neg (by simp)]

end JoinResolver

/-- What force mode adds to a column that was `before`, between default mode and force mode: both
keep what was there, and of the entries behind it default mode has all but the marked ones, which
are the placeholders of the joins whose targets do not exist. -/
def PlaceholdersAdded (es : List EntityType) (before unforced forced : Field) : Prop :=
  ∃ entries : List (ResolvedJoin × Bool),
    forced.joinsTo.getD [] = before.joinsTo.getD [] ++ entries.map Prod.fst ∧
      unforced.joinsTo.getD []
        = before.joinsTo.getD [] ++ (entries.filter (!·.2)).map Prod.fst ∧
      (entries.filter (·.2)).map Prod.fst
        = (before.declaredJoins.filter fun d => TargetMissing es d).map fun d =>
            d.to placeholderId before.dataType

/-! ## All but the resolved joins -/

mutual
/-- A type without the resolved joins of its properties, at any depth. -/
def DataType.withoutJoins : DataType → DataType
  | .leaf t => .leaf t
  | .object properties => .object (fieldsWithoutJoins properties)
  | .array kind item => .array kind item.withoutJoins

/-- Columns without their resolved joins, at any depth. -/
def fieldsWithoutJoins : List Field → List Field
  | [] => []
  | ⟨info, t⟩ :: rest => ⟨{ info with joinsTo := none }, t.withoutJoins⟩ :: fieldsWithoutJoins rest
end

/-- An entity type without the resolved joins of its columns, at any depth. -/
def EntityType.withoutJoins (e : EntityType) : EntityType :=
  { e with columns := fieldsWithoutJoins e.columns }

namespace JoinResolver

theorem column_withoutJoins (r : JoinResolver) (info : ColumnInfo) (t : DataType) :
    { r.column info t with joinsTo := none } = { info with joinsTo := none, declaredJoins := [] } := by
  unfold column
  split
  · rename_i h
    rw [← List.isEmpty_iff.mp h]
  · rfl

mutual
theorem type_withoutJoins (r r' : JoinResolver) :
    ∀ t : DataType, (r.type t).withoutJoins = (r'.type t).withoutJoins
  | .leaf _ => rfl
  | .object properties => congrArg DataType.object (fields_withoutJoins r r' properties)
  | .array kind item => congrArg (DataType.array kind) (type_withoutJoins r r' item)

/-- However joins are resolved, the columns differ in nothing else. -/
theorem fields_withoutJoins (r r' : JoinResolver) :
    ∀ fs : List Field, fieldsWithoutJoins (r.fields fs) = fieldsWithoutJoins (r'.fields fs)
  | [] => rfl
  | ⟨info, t⟩ :: rest => by
      rw [fields, fields, fieldsWithoutJoins, fieldsWithoutJoins, column_withoutJoins,
        column_withoutJoins, type_withoutJoins r r' t, fields_withoutJoins r r' rest]
end

theorem entityType_withoutJoins (r r' : JoinResolver) (e : EntityType) :
    (r.entityType e).withoutJoins = (r'.entityType e).withoutJoins :=
  congrArg (fun columns => { e with columns }) (fields_withoutJoins r r' e.columns)

end JoinResolver

/-! ## Issues -/

/-- Two diagnostics of one declared join of a batch, as default mode and force mode report it.  They
are alike but for the severity: an error and a warning if the target does not exist, and an error
twice if it does and has not the column. -/
structure SeverityChange (es : List EntityType) (unforced forced : Diagnostic) : Prop where
  entityType : unforced.entityType = forced.entityType
  metadata : unforced.metadata = forced.metadata
  kind : unforced.issue.kind = forced.issue.kind
  message : unforced.issue.message = forced.issue.message
  severity : unforced.severity = .error
  cause : ∃ e ∈ es, ∃ f ∈ allFields e.columns, ∃ d ∈ f.declaredJoins,
    unforced.entityType = some e.name ∧
      (TargetMissing es d ∧ forced.severity = .warning ∧
          unforced.issue.kind = .join f.name d.targetLabel d.targetField .entity ∨
        ¬ TargetMissing es d ∧ forced.severity = .error ∧
          unforced.issue.kind = .join f.name d.targetLabel d.targetField .field)

namespace JoinResolver

theorem diagnostics_forced (index : EntityIndex) (e : EntityType) :
    (JoinResolver.mk index true).diagnostics e
      = ((JoinResolver.mk index false).diagnostics e).map fun d =>
          { d with issue := d.issue.softened } := by
  have hown : ∀ f, (JoinResolver.mk index true).ownIssues e.name f
      = ((JoinResolver.mk index false).ownIssues e.name f).map Issue.softened := by
    intro f
    have hone : (JoinResolver.mk index true).issue? e.name f.name
        = fun d => ((JoinResolver.mk index false).issue? e.name f.name d).map Issue.softened :=
      funext (issue?_forced index e.name f.name)
    rw [ownIssues, ownIssues, List.map_filterMap, hone]
  have hall : (JoinResolver.mk index true).fieldIssues e.name e.columns
      = ((JoinResolver.mk index false).fieldIssues e.name e.columns).map Issue.softened := by
    rw [fieldIssues_eq, fieldIssues_eq, List.map_flatMap]
    exact List.flatMap_congr fun f _ => hown f
  rw [diagnostics, diagnostics, hall, List.map_map, List.map_map]
  rfl

theorem severityChange_of_issue {es : List EntityType} {e : EntityType} (he : e ∈ es) {f : Field}
    (hf : f ∈ allFields e.columns) {d : DeclaredJoin} (hd : d ∈ f.declaredJoins) {issue : Issue}
    (h : (JoinResolver.mk (EntityIndex.ofEntityTypes es) false).issue? e.name f.name d
      = some issue) :
    SeverityChange es { issue, entityType := some e.name }
      { issue := issue.softened, entityType := some e.name } := by
  unfold issue? at h
  dsimp only at h
  cases hend : (EntityIndex.ofEntityTypes es).joinEnd d with
  | found id =>
      rw [hend] at h
      exact absurd h (by simp)
  | noField =>
      rw [hend] at h
      obtain rfl := Option.some.inj h
      have hthere : ¬ TargetMissing es d := by
        intro hmissing
        rw [EntityIndex.joinEnd_eq_noEntity_iff.mpr hmissing] at hend
        exact absurd hend (by simp)
      exact ⟨rfl, rfl, rfl, rfl, rfl, e, he, f, hf, d, hd, rfl, Or.inr ⟨hthere, rfl, rfl⟩⟩
  | noEntity =>
      rw [hend] at h
      obtain rfl := Option.some.inj h
      have hmissing := EntityIndex.joinEnd_eq_noEntity_iff.mp hend
      exact ⟨rfl, rfl, rfl, rfl, rfl, e, he, f, hf, d, hd, rfl, Or.inl ⟨hmissing, rfl, rfl⟩⟩

theorem severityChange_of_mem {es : List EntityType} {e : EntityType} (he : e ∈ es)
    {d : Diagnostic}
    (h : d ∈ (JoinResolver.mk (EntityIndex.ofEntityTypes es) false).diagnostics e) :
    SeverityChange es d { d with issue := d.issue.softened } := by
  obtain ⟨issue, hissue, rfl⟩ := List.mem_map.mp h
  rw [fieldIssues_eq] at hissue
  obtain ⟨f, hf, hissue⟩ := List.mem_flatMap.mp hissue
  obtain ⟨join, hjoin, hissue⟩ := List.mem_filterMap.mp hissue
  exact severityChange_of_issue he hf hjoin hissue

end JoinResolver

/-! ## Batches -/

/-- The columns of a batch, at any depth and in order. -/
def columnsOf (es : List EntityType) : List Field := es.flatMap fun e => allFields e.columns

theorem columnsOf_resolveJoins (es : List EntityType) (force : Bool) :
    columnsOf (resolveJoins es force).1
      = (columnsOf es).map (JoinResolver.mk (EntityIndex.ofEntityTypes es) force).field := by
  show (es.map _).flatMap _ = _
  rw [columnsOf, List.flatMap_map, List.map_flatMap]
  exact List.flatMap_congr fun e _ => JoinResolver.allFields_fields _ e.columns

/-- **Force mode adds placeholders and softens their errors, and does nothing else.**  The batches
that the two modes make are equal but for resolved joins; place by place, a column has in force mode
the joins that it has in default mode and, among them, the placeholders of those whose targets do
not exist; and the diagnostics are the same one by one but for the severity of those. -/
theorem resolveJoins_force (es : List EntityType) :
    (resolveJoins es false).1.map EntityType.withoutJoins
        = (resolveJoins es true).1.map EntityType.withoutJoins ∧
      ((columnsOf (resolveJoins es false).1).length = (columnsOf es).length ∧
        (columnsOf (resolveJoins es true).1).length = (columnsOf es).length ∧
        List.Forall₂ (fun before after => PlaceholdersAdded es before after.1 after.2)
          (columnsOf es)
          ((columnsOf (resolveJoins es false).1).zip (columnsOf (resolveJoins es true).1))) ∧
      List.Forall₂ (SeverityChange es) (resolveJoins es false).2 (resolveJoins es true).2 := by
  refine ⟨?_, ⟨?_, ?_, ?_⟩, ?_⟩
  · show (es.map _).map _ = (es.map _).map _
    rw [List.map_map, List.map_map]
    exact List.map_congr_left fun e _ => JoinResolver.entityType_withoutJoins _ _ e
  · rw [columnsOf_resolveJoins, List.length_map]
  · rw [columnsOf_resolveJoins, List.length_map]
  · rw [columnsOf_resolveJoins, columnsOf_resolveJoins, List.zip_map', List.forall₂_map_right_iff,
      List.forall₂_same]
    intro f _
    exact ⟨_, JoinResolver.joinsTo_forced _ f, JoinResolver.joinsTo_unforced _ f,
      JoinResolver.marked_entries es f.dataType f.declaredJoins⟩
  · have hforced : (resolveJoins es true).2
        = (resolveJoins es false).2.map fun d => { d with issue := d.issue.softened } := by
      show es.flatMap _ = (es.flatMap _).map _
      rw [List.map_flatMap]
      exact List.flatMap_congr fun e _ => JoinResolver.diagnostics_forced _ e
    rw [hforced, List.forall₂_map_right_iff, List.forall₂_same]
    intro d hd
    obtain ⟨e, he, hd⟩ := List.mem_flatMap.mp hd
    exact JoinResolver.severityChange_of_mem he hd

end EntityCatalog
