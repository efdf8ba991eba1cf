import EntityCatalog.Proofs.Column.Edits
import EntityCatalog.Proofs.Resource.Provenance

/-!
# Where two columns come to have one name

Columns are addressed by name, but nothing keeps their names apart.  The names that a schema
declares are made of its leaf paths, and two paths can make the same one, or that of the column for
the document; and an override may give a column the name of another.  There is no third way: an
addition takes the place of a column of its name, and exclusions only take columns away.

Neither is reported: there is a resource of which two columns have one name and nothing is said.
-/

namespace EntityCatalog

namespace ResourceConfig

/-- The names that the leaf paths of a schema make, and then that of the column for the document if
it is included. -/
def declaredNames (r : ResourceConfig) (site : Site) (properties : List Property) : List String :=
  (leafPaths site properties).map (nameAlong id)
    ++ if r.includesJsonbField then [jsonbName] else []

/-- The columns after additions and the first of several overrides. -/
def overriddenBy (r : ResourceConfig) (columns : List Field) (overrides : List (String × Json)) :
    List Field :=
  (editColumns (fun cs o => overrideColumn cs o.1 o.2) (addColumns columns r.fieldAdditions)
    overrides).1

/-- How two of a resource's columns come to have one name: the declared names are not apart, or an
override takes a name that is there by then. -/
inductive Collision (r : ResourceConfig) (columns : List Field) : Prop
  | declared : ¬ (columnNames columns).Nodup → Collision r columns
  | taken {before after : List (String × Json)} {name : String} {value : Json} :
      r.fieldOverrides.entries = before ++ (name, value) :: after →
        TakesName (r.overriddenBy columns before) name value → Collision r columns

theorem nodup_editedColumns {r : ResourceConfig} {columns : List Field}
    (h : ¬ r.Collision columns) : (columnNames (r.editedColumns columns).1).Nodup := by
  have hdeclared : (columnNames columns).Nodup := Classical.not_not.mp fun hn => h (.declared hn)
  refine nodup_excludeColumns ?_ r.fieldExclusions
  refine editColumns_induction (P := fun cs => (columnNames cs).Nodup)
    (nodup_addColumns hdeclared r.fieldAdditions) fun before o after new heq hbefore hedit => ?_
  exact (nodup_overrideColumn_iff hbefore hedit).mpr fun htakes => h (.taken heq htakes)

theorem columnNames_flatColumns {r : ResourceConfig} {m : ModuleConfig} {source : EntitySource}
    {properties : List Property} {inferred : Noted (List Field)}
    (h : inferColumns (r.site m source) properties = .ok inferred) :
    columnNames (r.flatColumns source inferred.value)
      = r.declaredNames (r.site m source) properties := by
  obtain ⟨hok, hvalue⟩ := inferColumns_value h
  have hnames : (leafPaths (r.site m source) properties).map (nameAlong id)
      = columnNames ((inferred.value.flatMap Field.expanded).map Field.restricted) := by
    have hpaths := forall₂_leafPaths id hok
    rw [columnNames, List.map_map, hvalue, List.flatMap_assoc, ← List.forall₂_eq_eq_eq,
      List.forall₂_map_left_iff, List.forall₂_map_right_iff]
    refine hpaths.imp fun path c hc => ?_
    obtain ⟨f, -, rfl⟩ := hc
    rfl
  rw [flatColumns_eq, columnNames, List.map_append, declaredNames, hnames]
  cases r.includesJsonbField <;> rfl

/-- **Names are kept apart but for two ways.**  The columns of a resource have different names
unless two of the names that its schema declares are the same, or an override gives a column the
name of another.  Without edits the names are those that are declared, so what the first way brings
together stays so. -/
theorem nodup_names_of_assemble {r : ResourceConfig} {schema : Json} {m : ModuleConfig}
    {a : Assembled} (h : r.assemble schema m = .ok a) :
    ∃ source properties columns, a.entityType.sources = [source] ∧
      source.sourceAlias = r.source ∧
      (Schema.ofJson schema).rootProperties? = some properties ∧
      columnNames columns = r.declaredNames (r.site m source) properties ∧
      a.entityType.columns = (r.editedColumns columns).1 ∧
      ((columnNames a.entityType.columns).Nodup ∨ r.Collision columns) ∧
      (r.Unedited →
        columnNames a.entityType.columns = r.declaredNames (r.site m source) properties) := by
  obtain ⟨properties, source, inferred, hroot, hsource, hinf, rfl⟩ := assemble_eq_ok h
  have hnames := columnNames_flatColumns hinf
  refine ⟨source, properties, r.flatColumns source inferred.value, rfl,
    sourceAlias_of_resolveSource hsource, hroot, hnames, rfl, ?_, fun hr => ?_⟩
  · exact (Classical.em _).symm.imp_left nodup_editedColumns
  · show columnNames (r.editedColumns _).1 = _
    rw [editedColumns_of_unedited hr]
    exact hnames

/-- Users with a column under a name of its own, and without the one for the document. -/
def renamingUser : ResourceConfig :=
  { user with
    fieldOverrides :=
      OrderedMap.ofList [("person_birth_year", .object [("name", .string "born")])]
    fieldExclusions := ["jsonb"] }

theorem nodup_names_of_renamingUser :
    ∃ a, renamingUser.assemble userSchema users = .ok a ∧
      columnNames a.entityType.columns = ["id", "born", "person_home_address_post_codes"] ∧
      ∃ source properties columns, a.entityType.sources = [source] ∧
        source.sourceAlias = renamingUser.source ∧
        (Schema.ofJson userSchema).rootProperties? = some properties ∧
        columnNames columns
          = renamingUser.declaredNames (renamingUser.site users source) properties ∧
        a.entityType.columns = (renamingUser.editedColumns columns).1 ∧
        ((columnNames a.entityType.columns).Nodup ∨ renamingUser.Collision columns) ∧
        (renamingUser.Unedited →
          columnNames a.entityType.columns
            = renamingUser.declaredNames (renamingUser.site users source) properties) := by
  obtain ⟨a, ha, hnames⟩ := exists_ok_of_toOption (f := fun a => columnNames a.entityType.columns)
    (x := renamingUser.assemble userSchema users)
    (b := ["id", "born", "person_home_address_post_codes"]) (by decide +kernel)
  exact ⟨a, ha, hnames, nodup_names_of_assemble ha⟩

/-- A schema with two keys that differ only in how they are written. -/
def homonymSchema : Json :=
  .object
    [("type", .string "object"),
     ("properties", .object
       [("userId", .object [("type", .string "string"), ("format", .string "uuid")]),
        ("user_id", .object [("type", .string "string")])])]

/-- Two columns can have one name, and nothing is said about it. -/
theorem assemble_homonyms :
    ∃ a, user.assemble homonymSchema users = .ok a ∧
      columnNames a.entityType.columns = ["user_id", "user_id", "jsonb"] ∧
      ¬ (columnNames a.entityType.columns).Nodup ∧ a.issues = [] := by
  obtain ⟨a, ha, hrun⟩ := exists_ok_of_toOption
    (f := fun a => (columnNames a.entityType.columns, a.issues.isEmpty))
    (x := user.assemble homonymSchema users) (b := (["user_id", "user_id", "jsonb"], true))
    (by decide +kernel)
  obtain ⟨hnames, hissues⟩ := Prod.mk.inj hrun
  refine ⟨a, ha, hnames, ?_, List.isEmpty_iff.mp hissues⟩
  rw [hnames]
  decide

end ResourceConfig

end EntityCatalog
