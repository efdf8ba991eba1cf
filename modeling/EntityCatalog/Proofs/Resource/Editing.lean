import EntityCatalog.Proofs.Column.Additions
import EntityCatalog.Proofs.Resource.Names

/-!
# Edits by name

A resource has its columns edited in three ways, one after the other, and each finds columns by
their names.  Additions and exclusions are told by what they leave; overrides are told elsewhere,
column by column.  What the three have in common is that names that were apart stay apart, as long
as no override writes a name: that is the one edit that does not look whether a name is taken.
-/

namespace EntityCatalog

namespace ResourceConfig

theorem not_collision {r : ResourceConfig} {columns : List Field}
    (hnames : (columnNames columns).Nodup)
    (hkept : ∀ o ∈ r.fieldOverrides.entries, o.2.get? "name" = none) : ¬ r.Collision columns := by
  intro h
  cases h with
  | declared h => exact h hnames
  | @taken before after name value heq htakes =>
      obtain ⟨-, members, given, rfl, hgiven, -⟩ := htakes
      have hmem : (name, Json.object members) ∈ r.fieldOverrides.entries := by
        rw [heq]
        simp
      have hnone := lastValue?_eq_none_of_get? (hkept _ hmem)
      exact absurd (hgiven.symm.trans hnone) (by simp)

/-- **Edits find columns by name and keep names apart.**  What is added and what is excluded is told
by the columns, whatever their names; and where these are apart, they are so after all edits of a
resource of which no override writes a name. -/
theorem edits_byName (r : ResourceConfig) (columns additions : List Field) (names : List String) :
    (Added columns additions (addColumns columns additions) ∧
        addColumns (addColumns columns additions) additions = addColumns columns additions) ∧
      Excluded columns names (excludeColumns columns names) ∧
      ((columnNames columns).Nodup →
        (∀ o ∈ r.fieldOverrides.entries, o.2.get? "name" = none) →
          (columnNames (r.editedColumns columns).1).Nodup) := by
  refine ⟨⟨added_addColumns columns additions, addColumns_addColumns columns additions⟩,
    excluded_excludeColumns columns names, fun hnames hkept => ?_⟩
  exact nodup_editedColumns (not_collision hnames hkept)

/-- Users with one column in the place of another, two of one name, and without the one for the
document, which is taken away twice. -/
def editedUser : ResourceConfig :=
  { user with
    fieldAdditions :=
      [{ name := "tags", dataType := .leaf .string },
       { name := "status", dataType := .leaf .boolean },
       { name := "tags", dataType := .array .jsonb (.leaf .string) }]
    fieldOverrides :=
      OrderedMap.ofList [("tags", .object [("visibleByDefault", .bool true)])]
    fieldExclusions := ["jsonb", "jsonb"] }

/-- The columns of users before they are edited. -/
def uneditedColumns : List Field :=
  [{ name := "status", dataType := .leaf .string }, { name := "id", dataType := .leaf .rangedUuid },
   jsonbColumn "users"]

theorem edits_byName_editedUser :
    (columnNames uneditedColumns).Nodup ∧
      (∀ o ∈ editedUser.fieldOverrides.entries, o.2.get? "name" = none) ∧
      (editedUser.editedColumns uneditedColumns).1.map (fun c => (c.name, c.dataType.tag))
        = [("status", .leaf .boolean), ("id", .leaf .rangedUuid), ("tags", .array .jsonb)] ∧
      (editedUser.editedColumns uneditedColumns).2.length = 1 ∧
      (columnNames (editedUser.editedColumns uneditedColumns).1).Nodup := by
  have hnames : (columnNames uneditedColumns).Nodup := by decide
  have hkept : ∀ o ∈ editedUser.fieldOverrides.entries, o.2.get? "name" = none := by decide
  refine ⟨hnames, hkept, ?_, ?_, ?_⟩
  · decide +kernel
  · decide +kernel
  · exact (edits_byName editedUser uneditedColumns editedUser.fieldAdditions
      editedUser.fieldExclusions).2.2 hnames hkept

end ResourceConfig

end EntityCatalog
