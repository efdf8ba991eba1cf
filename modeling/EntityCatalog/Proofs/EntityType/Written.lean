import EntityCatalog.EntityType.Decoding
import EntityCatalog.Proofs.Shape.Writing
import EntityCatalog.Proofs.Uuid.Printed

/-!
# Columns and entity types are read back as they are written

A column is read and written through shapes that are not its own: its type through a tag with an item
type and properties, a declared join through a kind and a text, a resolved join with the members of
its condition among its own.  Each time the written value is first read as such a form (`form`), and
the form is then judged; that the two together lead back is proved for the form.

Types and columns hold each other, and a reader goes down level by level.  `read_leaf`, `read_object`,
`read_array` and `Field.read_mk` are the steps, and the induction that puts them together only counts
levels: a value of so many levels is read by any reader that goes down so far.
-/

namespace EntityCatalog

open Shape
open Json (string array object)

/-! ## Joins -/

theorem inverts_direction : Inverts JoinDirection.read fun d => string d.name :=
  inverts_choice (fun d => by cases d <;> decide) (by decide)

theorem inverts_uuid : Inverts uuid fun u => string u.render := by
  intro u
  rw [uuid, Uuid.parse_render]
  rfl

/-- What a condition of its own holds. -/
def JoinCondition.sql? : JoinCondition → Option String
  | .custom sql => some sql
  | _ => none

theorem JoinCondition.members_eq (c : Option JoinCondition) :
    (c.map JoinCondition.members).getD []
      = member? "type" ((c.map JoinCondition.tag).map string)
          ++ member? "sql" ((c.bind JoinCondition.sql?).map string) := by
  cases c with
  | none => rfl
  | some c =>
      cases c with
      | equalitySimple => rfl
      | equalityCastUuid => rfl
      | custom sql => rfl

/-- A declared join as it is written. -/
def DeclaredJoin.form (j : DeclaredJoin) : JoinForm :=
  ⟨j.targetModule, j.targetEntity, j.targetField, j.direction, j.condition.map JoinCondition.tag,
    j.condition.bind JoinCondition.sql?⟩

theorem DeclaredJoin.condition_form (j : DeclaredJoin) : j.form.condition = .ok j.condition := by
  rcases j with ⟨m, e, f, d, c⟩
  cases c with
  | none => rfl
  | some c =>
      cases c with
      | equalitySimple => rfl
      | equalityCastUuid => rfl
      | custom sql => rfl

theorem inverts_declaredJoin : Inverts DeclaredJoin.read DeclaredJoin.toJson := by
  intro j
  have hform : JoinForm.record.read .json j.toJson = .ok j.form := by
    refine Record.readObject_of_fills (by decide) ?_
    rw [JoinCondition.members_eq]
    simp only [List.append_assoc]
    refine .needed (inverts_text _) ?_
    refine .needed (inverts_text _) ?_
    refine .needed (inverts_text _) ?_
    refine .optional (fun _ _ => inverts_direction _) (fun _ => nofun) rfl ?_
    refine .optional (fun _ _ => inverts_text _) (fun _ => nofun) rfl ?_
    refine .optional (fun _ _ => inverts_text _) (fun _ => nofun) rfl ?_
    exact .nil
  rw [DeclaredJoin.read, hform]
  show (j.form.condition).bind _ = _
  rw [DeclaredJoin.condition_form]
  rfl

theorem JoinCondition.readAmong_members (c : JoinCondition) : readAmong .json c.members = .ok c := by
  cases c with
  | equalitySimple => rfl
  | equalityCastUuid => rfl
  | custom sql => rfl

/-- A condition among other members shares no name with them. -/
theorem JoinCondition.not_mem_names (c : JoinCondition) :
    ∀ m ∈ c.members, m.1 ∉ ResolvedJoin.record.names := by
  intro m hm
  have hname : m.1 = "type" ∨ m.1 = "sql" := by
    cases c with
    | equalitySimple => exact Or.inl (congrArg Prod.fst (List.mem_singleton.mp hm))
    | equalityCastUuid => exact Or.inl (congrArg Prod.fst (List.mem_singleton.mp hm))
    | custom sql =>
        rcases List.mem_cons.mp hm with rfl | hm
        · exact Or.inl rfl
        · exact Or.inr (congrArg Prod.fst (List.mem_singleton.mp hm))
  rcases hname with h | h
  · rw [h]
    decide
  · rw [h]
    decide

/-- The members of a resolved join but its condition's. -/
def ResolvedJoin.ownMembers (j : ResolvedJoin) : List (String × Json) :=
  member "targetId" (string j.targetId.render) ++ member "targetField" (string j.targetField)
    ++ member? "direction" (j.direction.map fun d => string d.name)

theorem ResolvedJoin.fills_ownMembers (j : ResolvedJoin) :
    Fills ResolvedJoin.record.slots (j.ownMembers ++ []) ResolvedJoin.record.blank
      { j with condition := .equalitySimple } := by
  simp only [ResolvedJoin.ownMembers, List.append_assoc]
  refine .needed (inverts_uuid _) ?_
  refine .needed (inverts_text _) ?_
  refine .optional (fun _ _ => inverts_direction _) (fun _ => nofun) rfl ?_
  exact .nil

theorem ResolvedJoin.filter_members (j : ResolvedJoin) :
    (j.ownMembers ++ j.condition.members).filter
        (fun m => !ResolvedJoin.record.names.contains m.1)
      = j.condition.members := by
  have hown : j.ownMembers.filter (fun m => !ResolvedJoin.record.names.contains m.1) = [] := by
    rcases j with ⟨id, field, direction, condition⟩
    cases direction with
    | none => rfl
    | some d => rfl
  have hcondition : j.condition.members.filter
      (fun m => !ResolvedJoin.record.names.contains m.1) = j.condition.members := by
    refine List.filter_eq_self.mpr fun m hm => ?_
    rw [Bool.not_eq_true', ← Bool.not_eq_true, List.contains_iff_mem]
    exact j.condition.not_mem_names m hm
  rw [List.filter_append, hown, hcondition, List.nil_append]

theorem inverts_resolvedJoin : Inverts ResolvedJoin.read ResolvedJoin.toJson := by
  intro j
  have hfills := j.fills_ownMembers
  rw [List.append_nil] at hfills
  have hread : ResolvedJoin.record.readObject .json (j.ownMembers ++ j.condition.members)
      = .ok { j with condition := .equalitySimple } :=
    Record.readObject_append_of_fills (by decide) hfills
      (Record.readMembers_extra rfl j.condition.not_mem_names)
  show ResolvedJoin.read .json (.object (j.ownMembers ++ j.condition.members)) = _
  unfold ResolvedJoin.read
  dsimp only
  rw [hread, j.filter_members]
  show (JoinCondition.readAmong .json j.condition.members).bind _ = _
  rw [JoinCondition.readAmong_members]
  rfl

/-! ## Parts of columns -/

theorem inverts_valueLabel : Inverts ValueLabel.record.read ValueLabel.toJson := by
  intro v
  refine Record.readObject_of_fills (by decide) ?_
  simp only [List.append_assoc]
  refine .needed (inverts_text _) ?_
  refine .needed (inverts_text _) ?_
  exact .nil

theorem inverts_valueSourceApi : Inverts ValueSourceApi.record.read ValueSourceApi.toJson := by
  intro v
  refine Record.readObject_of_fills (by decide) ?_
  simp only [List.append_assoc]
  refine .needed (inverts_text _) ?_
  refine .needed (inverts_text _) ?_
  refine .needed (inverts_text _) ?_
  exact .nil

theorem inverts_fieldSource : Inverts FieldSource.record.read FieldSource.toJson := by
  intro v
  refine Record.readObject_of_fills (by decide) ?_
  simp only [List.append_assoc]
  refine .needed (inverts_text _) ?_
  refine .needed (inverts_text _) ?_
  exact .nil

/-! ## Columns -/

theorem inverts_typeTag : Inverts TypeTag.read fun t => string t.name :=
  inverts_choice TypeTag.mem_all (by decide)

theorem Field.nodup_names (type : Reader DataType) : (Field.record type).names.Nodup := by
  have hnames : (Field.record type).names = (Field.record DataType.read).names := rfl
  rw [hnames]
  decide +kernel

theorem Field.fills_members {type : Reader DataType} {j : Json} (info : ColumnInfo) {t : DataType}
    (h : type .json j = .ok t) :
    Fills (Field.record type).slots (info.members j ++ []) (Field.record type).blank ⟨info, t⟩ := by
  simp only [ColumnInfo.members, List.append_assoc]
  refine .needed (inverts_text _) ?_
  refine .needed h ?_
  refine .optional (fun _ _ => inverts_text _) (fun _ => nofun) rfl ?_
  refine .optional (fun _ _ => inverts_truth _) (fun _ => nofun) rfl ?_
  refine .free (inverts_truth _) ?_
  refine .optional (fun _ _ => inverts_truth _) (fun _ => nofun) rfl ?_
  refine .optional (fun _ _ => inverts_truth _) (fun _ => nofun) rfl ?_
  refine .free (inverts_truth _) ?_
  refine .optional (fun _ _ => inverts_truth _) (fun _ => nofun) rfl ?_
  refine .optional (fun _ _ => inverts_text _) (fun _ => nofun) rfl ?_
  refine .optional (fun _ _ => inverts_text _) (fun _ => nofun) rfl ?_
  refine .optional (fun _ _ => inverts_text _) (fun _ => nofun) rfl ?_
  refine .optional (fun _ _ => inverts_valueLabel.list _) (fun _ => nofun) rfl ?_
  refine .optional (fun _ _ => inverts_valueSourceApi _) (fun _ => nofun) rfl ?_
  refine .optional (fun _ _ => inverts_fieldSource _) (fun _ => nofun) rfl ?_
  refine .optional (fun _ _ => inverts_resolvedJoin.list _) (fun _ => nofun) rfl ?_
  refine .nonempty inverts_declaredJoin rfl ?_
  exact .nil

/-- A column is read back if its type is. -/
theorem Field.read_members {type : Reader DataType} {j : Json} (info : ColumnInfo) {t : DataType}
    (h : type .json j = .ok t) :
    (Field.record type).read .json (object (info.members j)) = .ok ⟨info, t⟩ := by
  show (Field.record type).readObject .json (info.members j) = _
  exact Record.readObject_of_fills (Field.nodup_names type) (Field.fills_members info h)

/-- A type as it is written. -/
def DataType.form : DataType → TypeForm
  | .leaf t => .mk (.leaf t) none none
  | .object properties => .mk .object none (some properties)
  | .array kind item => .mk (.array kind) (some item.form) none

theorem DataType.type_form (t : DataType) : t.form.type = .ok t := by
  cases t with
  | leaf _ => rfl
  | object _ => rfl
  | array kind item =>
      rw [form, TypeForm.type, type_form item]
      rfl

theorem TypeForm.nodup_names (item : Reader TypeForm) (field : Reader Field) :
    (TypeForm.record item field).names.Nodup := by
  show ["dataType", "itemDataType", "properties"].Nodup
  decide

/-! One step for each way in which types and columns are made: it is read within one level more than
what it is made of. -/

theorem TypeForm.read_leaf (levels : Nat) (t : LeafType) :
    TypeForm.readWithin (levels + 1) .json (DataType.leaf t).toJson
      = .ok (DataType.leaf t).form := by
  refine Record.readObject_of_fills (TypeForm.nodup_names _ _) ?_
  refine .needed (inverts_typeTag (.leaf t)) ?_
  exact .omitted rfl (.omitted rfl .nil)

theorem TypeForm.read_object {levels : Nat} {properties : List Field}
    (h : ∀ f ∈ properties, Field.readWithin levels .json f.toJson = .ok f) :
    TypeForm.readWithin (levels + 1) .json (DataType.object properties).toJson
      = .ok (DataType.object properties).form := by
  have hfields : list (Field.readWithin levels) .json (array (fieldsToJson properties))
      = .ok properties := by
    rw [fieldsToJson_eq_map]
    exact list_array h
  refine Record.readObject_of_fills (TypeForm.nodup_names _ _) ?_
  simp only [List.append_assoc]
  refine .needed (inverts_typeTag .object) ?_
  exact .omitted rfl (.free (optional_of_ne_null nofun hfields) .nil)

theorem TypeForm.read_array {levels : Nat} (kind : ArrayKind) {item : DataType}
    (h : TypeForm.readWithin levels .json item.toJson = .ok item.form) :
    TypeForm.readWithin (levels + 1) .json (DataType.array kind item).toJson
      = .ok (DataType.array kind item).form := by
  have hnull : item.toJson ≠ .null := by
    cases item with
    | leaf t => exact nofun
    | object properties => exact nofun
    | array kind item => exact nofun
  refine Record.readObject_of_fills (TypeForm.nodup_names _ _) ?_
  simp only [List.append_assoc]
  refine .needed (inverts_typeTag (.array kind)) ?_
  exact .free (optional_of_ne_null hnull h) (.omitted rfl .nil)

theorem Field.read_mk {levels : Nat} (info : ColumnInfo) {t : DataType}
    (h : TypeForm.readWithin levels .json t.toJson = .ok t.form) :
    Field.readWithin (levels + 1) .json (Field.toJson ⟨info, t⟩) = .ok ⟨info, t⟩ := by
  rw [Field.toJson, Field.readWithin]
  refine Field.read_members info ?_
  rw [h]
  exact t.type_form

/-- An object of so many levels has members of one level less. -/
theorem exists_levels {members : List (String × Json)} {levels : Nat}
    (h : (object members).depth ≤ levels) :
    ∃ n, levels = n + 1 ∧ ∀ name j, (name, j) ∈ members → j.depth ≤ n := by
  cases levels with
  | zero => exact absurd h (Nat.not_succ_le_zero _)
  | succ n =>
      refine ⟨n, rfl, fun name j hj => ?_⟩
      exact Nat.le_trans (Json.depth_le_membersDepth hj) (Nat.le_of_succ_le_succ h)

mutual
theorem TypeForm.readWithin_toJson :
    ∀ (t : DataType) (levels : Nat), t.toJson.depth ≤ levels →
      TypeForm.readWithin levels .json t.toJson = .ok t.form
  | .leaf t, levels, h => by
      rw [DataType.toJson] at h
      obtain ⟨n, rfl, -⟩ := exists_levels h
      exact TypeForm.read_leaf n t
  | .object properties, levels, h => by
      rw [DataType.toJson] at h
      obtain ⟨n, rfl, hmembers⟩ := exists_levels h
      have hdepth : (array (fieldsToJson properties)).depth ≤ n :=
        hmembers "properties" _ (List.mem_append_right _ List.mem_cons_self)
      rw [Json.depth] at hdepth
      exact TypeForm.read_object (Field.readWithin_of_mem properties n (Nat.le_of_succ_le hdepth))
  | .array kind item, levels, h => by
      rw [DataType.toJson] at h
      obtain ⟨n, rfl, hmembers⟩ := exists_levels h
      have hdepth : item.toJson.depth ≤ n :=
        hmembers "itemDataType" _ (List.mem_append_right _ List.mem_cons_self)
      exact TypeForm.read_array kind (TypeForm.readWithin_toJson item n hdepth)

theorem Field.readWithin_toJson :
    ∀ (f : Field) (levels : Nat), f.toJson.depth ≤ levels →
      Field.readWithin levels .json f.toJson = .ok f
  | ⟨info, t⟩, levels, h => by
      rw [Field.toJson] at h
      obtain ⟨n, rfl, hmembers⟩ := exists_levels h
      have hdepth : t.toJson.depth ≤ n :=
        hmembers "dataType" _ (by simp [ColumnInfo.members, member])
      exact Field.read_mk info (TypeForm.readWithin_toJson t n hdepth)

/-- A column, and each of several, is read back within as many levels as it is written in. -/
theorem Field.readWithin_of_mem :
    ∀ (fs : List Field) (levels : Nat), Json.itemsDepth (fieldsToJson fs) ≤ levels →
      ∀ f ∈ fs, Field.readWithin levels .json f.toJson = .ok f
  | [], _, _, _, hf => absurd hf List.not_mem_nil
  | g :: fs, levels, h, f, hf => by
      rw [fieldsToJson, Json.itemsDepth] at h
      rcases List.mem_cons.mp hf with heq | hf
      · rw [heq]
        exact Field.readWithin_toJson g levels (Nat.le_trans (Nat.le_max_left _ _) h)
      · exact Field.readWithin_of_mem fs levels (Nat.le_trans (Nat.le_max_right _ _) h) f hf
end

theorem inverts_field : Inverts Field.read Field.toJson :=
  fun f => Field.readWithin_toJson f _ (Nat.le_refl _)

theorem inverts_dataType : Inverts DataType.read DataType.toJson := by
  intro t
  rw [DataType.read, TypeForm.readWithin_toJson t _ (Nat.le_refl _)]
  exact t.type_form

/-! ## Entity types -/

theorem inverts_sourceKind : Inverts SourceKind.read fun k => string k.name :=
  inverts_choice (fun k => by cases k <;> decide) (by decide)

theorem inverts_entitySource : Inverts EntitySource.record.read EntitySource.toJson := by
  intro s
  refine Record.readObject_of_fills (by decide) ?_
  simp only [List.append_assoc]
  refine .needed (inverts_sourceKind _) ?_
  refine .needed (inverts_text _) ?_
  refine .optional (fun _ _ => inverts_text _) (fun _ => nofun) rfl ?_
  exact .nil

theorem inverts_sortKey : Inverts SortKey.record.read SortKey.toJson := by
  intro s
  refine Record.readObject_of_fills (by decide) ?_
  simp only [List.append_assoc]
  refine .needed (inverts_text _) ?_
  refine .needed (inverts_text _) ?_
  exact .nil

theorem inverts_entityType : Inverts EntityType.record.read EntityType.toJson := by
  intro e
  refine Record.readObject_of_fills (by decide) ?_
  simp only [List.append_assoc, fieldsToJson_eq_map]
  refine .needed (inverts_uuid _) ?_
  refine .needed (inverts_text _) ?_
  refine .free (inverts_truth _) ?_
  refine .needed (inverts_entitySource.list _) ?_
  refine .needed (inverts_text.list _) ?_
  refine .needed (inverts_sortKey.list _) ?_
  refine .needed (inverts_field.list _) ?_
  exact .nil

end EntityCatalog
