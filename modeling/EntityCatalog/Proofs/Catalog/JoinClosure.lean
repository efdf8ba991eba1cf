import EntityCatalog.Proofs.Catalog.Parts
import Mathlib.Data.List.Forall2

/-!
# Every join of a catalog leads somewhere

Nothing in a catalog waits for resolution: no column at any depth has a declared join left.  And no
resolved join was made up: it was there before, or it leads to an entity type of the catalog that
has the column, or it leads to the placeholder in force mode and a warning says so.

Columns before and after are compared place by place in the lists of all columns, so that a join is
held against the column it stands on and not against one of the same name elsewhere.
-/

namespace EntityCatalog

/-! ## Joins of one column -/

namespace JoinResolver

theorem mem_field_joinsTo_iff (r : JoinResolver) {f : Field} {j : ResolvedJoin} :
    j ∈ (r.field f).joinsTo.getD [] ↔
      j ∈ f.joinsTo.getD [] ∨ ∃ d ∈ f.declaredJoins, r.resolve? f.dataType d = some j := by
  rw [field_joinsTo, List.mem_append, List.mem_filterMap]

/-- The issue of a declared join on a column at any depth is reported for the entity type. -/
theorem mem_diagnostics_of_issue (r : JoinResolver) {e : EntityType} {f : Field}
    (hf : f ∈ allFields e.columns) {d : DeclaredJoin} (hd : d ∈ f.declaredJoins) {issue : Issue}
    (h : r.issue? e.name f.name d = some issue) :
    { issue, entityType := some e.name } ∈ r.diagnostics e := by
  refine List.mem_map.mpr ⟨issue, ?_, rfl⟩
  rw [fieldIssues_eq]
  exact List.mem_flatMap.mpr ⟨f, hf, List.mem_filterMap.mpr ⟨d, hd, h⟩⟩

end JoinResolver

/-! ## Joins of a catalog -/

namespace Catalog

/-- A join leads to an entity type of the catalog, which has the column. -/
def LeadsInto (c : Catalog) (j : ResolvedJoin) : Prop :=
  ∃ e ∈ c.entityTypes, e.id = j.targetId ∧ ∃ column ∈ e.columns, column.name = j.targetField

/-- A join leads to the placeholder instead of the target of a join that the column declared, and
the catalog warns of that join. -/
def WarnsOfPlaceholder (c : Catalog) (entity : String) (f : Field) (j : ResolvedJoin) : Prop :=
  j.targetId = placeholderId ∧
    ∃ declared ∈ f.declaredJoins,
      j = declared.to placeholderId f.dataType ∧
        ∃ d ∈ c.diagnostics, d.entityType = some entity ∧
          d.issue = declared.missingIssue entity f.name .warning .entity

/-- Where the joins of a column come from, that was `before` when its entity type was assembled. -/
def Accounts (c : Catalog) (forced : Prop) (entity : String) (before after : Field) : Prop :=
  after.name = before.name ∧
    ∀ j ∈ after.joinsTo.getD [],
      j ∈ before.joinsTo.getD [] ∨ c.LeadsInto j ∨
        (forced ∧ c.WarnsOfPlaceholder entity before j)

theorem leadsInto_of_found {modules : List CatalogModule} {force : Bool} {d : DeclaredJoin}
    {id : Uuid} (source : DataType) (h : (resolver modules force).index.joinEnd d = .found id) :
    (compile modules force).LeadsInto (d.to id source) := by
  obtain ⟨e, he, -, hid, hfield⟩ := EntityIndex.joinEnd_found h
  refine ⟨(resolver modules force).entityType e, ?_, hid, ?_⟩
  · rw [compile_entityTypes]
    exact List.mem_map_of_mem he
  · -- resolution renames no column
    have hnames : d.targetField ∈ ((resolver modules force).fields e.columns).map (·.name) := by
      rw [JoinResolver.map_name_fields]
      exact hfield
    exact List.mem_map.mp hnames

/-- A declared join whose target is missing has, in force mode, a warning in the catalog. -/
theorem warnsOfPlaceholder_of_noEntity {modules : List CatalogModule} {force : Bool}
    {e : EntityType} (he : e ∈ assembled modules) {f : Field} (hf : f ∈ allFields e.columns)
    {d : DeclaredJoin} (hd : d ∈ f.declaredJoins)
    (hend : (resolver modules force).index.joinEnd d = .noEntity)
    (hforce : (resolver modules force).force = true) :
    (compile modules force).WarnsOfPlaceholder e.name f (d.to placeholderId f.dataType) := by
  have hissue : (resolver modules force).issue? e.name f.name d
      = some (d.missingIssue e.name f.name _ .entity) :=
    (resolver modules force).issue?_of_noEntity hend
  rw [if_pos hforce] at hissue
  have hmem := (resolver modules force).mem_diagnostics_of_issue hf hd hissue
  refine ⟨rfl, d, hd, rfl,
    inOwner modules (Owners.ofModules modules) { issue := _, entityType := _ }, ?_,
    inOwner_entityType _ _ _, inOwner_issue _ _ _⟩
  rw [compile_diagnostics]
  refine List.mem_append_left _ (List.mem_append_right _ ?_)
  exact List.mem_map_of_mem (List.mem_flatMap.mpr ⟨e, he, hmem⟩)

theorem isForced_eq_true_iff {modules : List CatalogModule} {force : Bool} :
    isForced modules force = true ↔
      force = true ∨ ∃ m ∈ modules, m.config.forceGenerateJoins = true := by
  rw [isForced, Bool.or_eq_true, List.any_eq_true]

theorem accounts_field {modules : List CatalogModule} {force : Bool} {e : EntityType}
    (he : e ∈ assembled modules) {f : Field} (hf : f ∈ allFields e.columns) :
    (compile modules force).Accounts
      (force = true ∨ ∃ m ∈ modules, m.config.forceGenerateJoins = true) e.name f
      ((resolver modules force).field f) := by
  refine ⟨JoinResolver.field_name _ f, fun j hj => ?_⟩
  rcases (JoinResolver.mem_field_joinsTo_iff _).mp hj with hold | ⟨d, hd, hres⟩
  · exact Or.inl hold
  · rcases (JoinResolver.resolve?_eq_some_iff _).mp hres with
      ⟨id, hend, rfl⟩ | ⟨hend, hforce, rfl⟩
    · exact Or.inr (Or.inl (leadsInto_of_found f.dataType hend))
    · refine Or.inr (Or.inr ⟨isForced_eq_true_iff.mp hforce, ?_⟩)
      exact warnsOfPlaceholder_of_noEntity he hf hd hend hforce

/-- **Joins are closed.**  No column of a catalog, at any depth, has a declared join; and place by
place, each resolved join of a column was one before, or leads to an entity type of the catalog that
has the column it names, or, only where force mode is on, leads to the placeholder with a warning. -/
theorem compile_joins_closed (modules : List CatalogModule) (force : Bool) :
    (∀ e ∈ (compile modules force).entityTypes, ∀ f ∈ allFields e.columns, f.declaredJoins = []) ∧
      List.Forall₂
        (fun before after : EntityType =>
          after.name = before.name ∧
            List.Forall₂
              ((compile modules force).Accounts
                (force = true ∨ ∃ m ∈ modules, m.config.forceGenerateJoins = true) before.name)
              (allFields before.columns) (allFields after.columns))
        (assembled modules) (compile modules force).entityTypes := by
  have hall : ∀ e : EntityType,
      allFields ((resolver modules force).entityType e).columns
        = (allFields e.columns).map (resolver modules force).field :=
    fun e => JoinResolver.allFields_fields _ e.columns
  rw [compile_entityTypes]
  constructor
  · intro e he f hf
    obtain ⟨e, -, rfl⟩ := List.mem_map.mp he
    rw [hall] at hf
    obtain ⟨f, -, rfl⟩ := List.mem_map.mp hf
    exact JoinResolver.field_declaredJoins _ f
  · rw [List.forall₂_map_right_iff, List.forall₂_same]
    intro e he
    refine ⟨rfl, ?_⟩
    rw [hall, List.forall₂_map_right_iff, List.forall₂_same]
    exact fun f hf => accounts_field he hf

end Catalog

end EntityCatalog
