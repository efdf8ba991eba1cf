import EntityCatalog.Proofs.Resource.Editing

/-!
# The columns that identify a row

A column identifies its row if its property says so, and a property that says nothing about it says
so by its key, `id`.  The key is all that is looked at: an `id` in an object counts as much as the
one at the root, and since opening an object renames its properties and leaves the rest of them
alone, the column that comes of it identifies the row as well (`assemble_marks_nestedId`).  So a
resource can have several of these columns, as many as leaf paths end in such a key.

Nothing is said here of keys that are other ways to write `id`.
-/

namespace EntityCatalog

/-! ## The mark of one column -/

/-- What the key of a property tells, where the property says nothing. -/
theorem idMark_of_silent {key : String} {s : Schema} {e : Extensions} {findings : List Finding}
    (h : Extensions.ofSchema key s = .ok (e, findings))
    (hsilent : s.keyword? "x-fqm-is-id-column" = none) :
    idMark key e = if Naming.snakeCase key = "id" then some true else none := by
  have hgiven : e.isIdColumn = none := by
    rw [(ofSchema_eq_ok h).1]
    show (Extensions.typed key s "x-fqm-is-id-column" Shape.truth).1 = none
    rw [Extensions.typed, hsilent]
  rw [idMark, hgiven]

/-- Whether the last property of a path says nothing of whether its column identifies the row. -/
def IsSilent (path : List Property) : Prop :=
  ∀ p, path.getLast? = some p → p.2.keyword? "x-fqm-is-id-column" = none

/-- The column of a path has its mark from the last key. -/
theorem MadeAt.isIdColumn {site : Site} {path : List Property} {f : Field}
    (h : MadeAt site path f) (hsilent : IsSilent path) {p : Property}
    (hlast : path.getLast? = some p) :
    f.isIdColumn = if Naming.snakeCase p.1 = "id" then some true else none := by
  induction h with
  | @leaf site q n f hn hval ho =>
      obtain rfl : q = p := Option.some.inj hlast
      obtain ⟨e, findings, t, he, -, rfl⟩ := makeField_of_value hn hval
      have hmark : (makeField site q.1 q.2 e t.value).isIdColumn = idMark q.1 e :=
        congrArg ColumnInfo.isIdColumn (withVisibility_frame _ e.visibility)
      exact hmark.trans (idMark_of_silent he (hsilent q rfl))
  | @step site q path f hf ih =>
      have hbelow : (q :: path).getLast? = path.getLast? :=
        List.getLast?_cons_of_ne_nil hf.ne_nil
      rw [hbelow] at hlast
      refine ih (fun p' hp' => hsilent p' ?_) hlast
      rw [hbelow]
      exact hp'

/-- What tells whether the column of a path identifies its row, unless the last property says so
itself: it does if the key is `id`, and does not if the key is no way to write that. -/
structure IdByKey (path : List Property) (c : Field) : Prop where
  name : c.name = nameAlong id path
  marked : IsSilent path → ∀ p, path.getLast? = some p → p.1 = "id" → c.isIdColumn = some true
  unmarked : IsSilent path → ∀ p, path.getLast? = some p → Naming.snakeCase p.1 ≠ "id" →
    c.isIdColumn = none

theorem ComesFrom.idByKey {site : Site} {path : List Property} {c : Field}
    (h : ComesFrom site id path c) : IdByKey path c.restricted := by
  obtain ⟨f, hf, rfl⟩ := h
  refine ⟨rfl, fun hsilent p hlast hkey => ?_, fun hsilent p hlast hkey => ?_⟩
  · have hid : Naming.snakeCase p.1 = "id" := by
      rw [hkey]
      decide +kernel
    exact (hf.isIdColumn hsilent hlast).trans (if_pos hid)
  · exact (hf.isIdColumn hsilent hlast).trans (if_neg hkey)

/-! ## The columns of a resource -/

/-- Whether a path ends in a key that is a way to write `id`. -/
def endsInId (path : List Property) : Bool :=
  path.getLast?.any fun p => Naming.snakeCase p.1 == "id"

theorem IdByKey.endsInId {path : List Property} {c : Field} (h : IdByKey path c)
    (hne : path ≠ []) (hsilent : IsSilent path) (hid : c.isId = true) :
    EntityCatalog.endsInId path = true := by
  obtain ⟨p, hlast⟩ : ∃ p, path.getLast? = some p := by
    rw [← Option.isSome_iff_exists, List.getLast?_isSome]
    exact hne
  rw [EntityCatalog.endsInId, hlast, Option.any_some, beq_iff_eq]
  by_contra hkey
  rw [Field.isId, h.unmarked hsilent p hlast hkey] at hid
  exact absurd hid (by decide)

theorem ne_nil_of_mem_leafPaths {site : Site} {properties path : List Property}
    (h : path ∈ leafPaths site properties) : path ≠ [] := by
  cases mem_leafPaths_iff.mp h with
  | leaf _ _ _ => exact List.cons_ne_nil _ _
  | step _ _ _ _ => exact List.cons_ne_nil _ _

theorem countP_isId_le {paths : List (List Property)} {columns : List Field}
    (h : List.Forall₂ IdByKey paths columns) (hne : ∀ path ∈ paths, path ≠ [])
    (hsilent : ∀ path ∈ paths, IsSilent path) :
    columns.countP Field.isId ≤ paths.countP endsInId := by
  induction h with
  | nil => exact Nat.le_refl 0
  | @cons path c paths columns hc _ ih =>
      obtain ⟨hne, hnes⟩ := List.forall_mem_cons.mp hne
      obtain ⟨hsilent, hsilents⟩ := List.forall_mem_cons.mp hsilent
      have hrest := ih hnes hsilents
      rw [List.countP_cons, List.countP_cons]
      by_cases hid : c.isId = true
      · rw [if_pos hid, if_pos (hc.endsInId hne hsilent hid)]
        exact Nat.succ_le_succ hrest
      · rw [if_neg hid]
        exact Nat.le_add_right_of_le hrest

namespace ResourceConfig

theorem editedColumns_of_only_excluded {r : ResourceConfig} (hadditions : r.fieldAdditions = [])
    (hoverrides : r.fieldOverrides = OrderedMap.empty) (columns : List Field) :
    (r.editedColumns columns).1 = columns.filter fun c => !r.fieldExclusions.contains c.name := by
  rw [editedColumns, hadditions, hoverrides]
  exact (excluded_excludeColumns columns r.fieldExclusions).left

/-- **Columns identify a row by the key that they come from.**  In a resource to which no columns
are added and of which none is written over, a column whose property says nothing about it
identifies its row if the leaf path ends in the key `id`, be it at the root or in an object, and
does not if the path ends in a key that is no way to write that; nor does the column for the
document.  So there are no more of them than such paths, if all properties are silent. -/
theorem assemble_idColumns {r : ResourceConfig} {schema : Json} {m : ModuleConfig} {a : Assembled}
    (h : r.assemble schema m = .ok a) (hadditions : r.fieldAdditions = [])
    (hoverrides : r.fieldOverrides = OrderedMap.empty) :
    ∃ source properties columns, a.entityType.sources = [source] ∧
      source.sourceAlias = r.source ∧
      (Schema.ofJson schema).rootProperties? = some properties ∧
      a.entityType.columns
        = (columns ++ if r.includesJsonbField then [jsonbColumn source.sourceAlias] else []).filter
            (fun c => !r.fieldExclusions.contains c.name) ∧
      (jsonbColumn source.sourceAlias).isIdColumn = none ∧
      List.Forall₂ IdByKey (leafPaths (r.site m source) properties) columns ∧
      ((∀ path ∈ leafPaths (r.site m source) properties, IsSilent path) →
        a.entityType.columns.countP Field.isId
          ≤ (leafPaths (r.site m source) properties).countP endsInId) := by
  obtain ⟨properties, source, inferred, hroot, hsource, hinf, rfl⟩ := assemble_eq_ok h
  obtain ⟨hok, hvalue⟩ := inferColumns_value hinf
  have hpaths : List.Forall₂ IdByKey (leafPaths (r.site m source) properties)
      ((inferred.value.flatMap Field.expanded).map Field.restricted) := by
    rw [List.forall₂_map_right_iff, hvalue, List.flatMap_assoc]
    exact (forall₂_leafPaths id hok).imp fun path c hc => hc.idByKey
  have hcolumns := r.editedColumns_of_only_excluded hadditions hoverrides
    (r.flatColumns source inferred.value)
  rw [flatColumns_eq] at hcolumns
  refine ⟨source, properties, _, rfl, sourceAlias_of_resolveSource hsource, hroot, ?_, rfl, hpaths,
    fun hsilent => ?_⟩
  · rw [← hcolumns, ← flatColumns_eq]
    rfl
  · have hdocument : (if r.includesJsonbField then [jsonbColumn source.sourceAlias]
        else []).countP Field.isId = 0 := by
      cases r.includesJsonbField <;> rfl
    calc (r.editedColumns (r.flatColumns source inferred.value)).1.countP Field.isId
        ≤ (r.flatColumns source inferred.value).countP Field.isId := by
          rw [flatColumns_eq, hcolumns]
          exact List.filter_sublist.countP_le
      _ = ((inferred.value.flatMap Field.expanded).map Field.restricted).countP Field.isId := by
          rw [flatColumns_eq, List.countP_append, hdocument, Nat.add_zero]
      _ ≤ (leafPaths (r.site m source) properties).countP endsInId :=
          countP_isId_le hpaths (fun _ => ne_nil_of_mem_leafPaths) hsilent

/-- The table that users are read from. -/
def usersTable : EntitySource := { kind := .db, sourceAlias := "users", target := some "users" }

theorem assemble_idColumns_user :
    user.fieldAdditions = [] ∧ user.fieldOverrides = OrderedMap.empty ∧
      ∃ a, user.assemble userSchema users = .ok a ∧
        a.entityType.columns.map (fun c => (c.name, c.isIdColumn))
          = [("id", some true), ("person_birth_year", none),
              ("person_home_address_post_codes", none), ("jsonb", none)] ∧
        ∃ source properties columns, a.entityType.sources = [source] ∧
          source.sourceAlias = user.source ∧
          (Schema.ofJson userSchema).rootProperties? = some properties ∧
          a.entityType.columns
            = (columns
                ++ if user.includesJsonbField then [jsonbColumn source.sourceAlias] else []).filter
              (fun c => !user.fieldExclusions.contains c.name) ∧
          (jsonbColumn source.sourceAlias).isIdColumn = none ∧
          List.Forall₂ IdByKey (leafPaths (user.site users source) properties) columns ∧
          (∀ path ∈ leafPaths (user.site users source) properties, IsSilent path) ∧
          a.entityType.columns.countP Field.isId
            ≤ (leafPaths (user.site users source) properties).countP endsInId := by
  obtain ⟨a, ha, hrun⟩ := exists_ok_of_toOption
    (f := fun a => (a.entityType.sources,
      a.entityType.columns.map fun c => (c.name, c.isIdColumn)))
    (x := user.assemble userSchema users)
    (b := ([usersTable], [("id", some true), ("person_birth_year", none),
      ("person_home_address_post_codes", none), ("jsonb", none)]))
    (by decide +kernel)
  obtain ⟨hsources, hcolumns⟩ := Prod.mk.inj hrun
  have hsilent : ∀ properties ∈ (Schema.ofJson userSchema).rootProperties?,
      ∀ path ∈ leafPaths (user.site users usersTable) properties, ∀ p ∈ path,
        (p.2.keyword? "x-fqm-is-id-column").isNone = true := by
    decide +kernel
  obtain ⟨source, properties, columns, hsource, halias, hroot, hleft, hdocument, hpaths, hcount⟩ :=
    assemble_idColumns ha rfl rfl
  obtain rfl : source = usersTable :=
    (List.cons.inj (hsource.symm.trans hsources)).1
  have hquiet : ∀ path ∈ leafPaths (user.site users usersTable) properties, IsSilent path :=
    fun path hpath p hlast => Option.isNone_iff_eq_none.mp
      (hsilent properties hroot path hpath p (List.mem_of_getLast? hlast))
  exact ⟨rfl, rfl, a, ha, hcolumns, usersTable, properties, columns, hsource, halias, hroot, hleft,
    hdocument, hpaths, hquiet, hcount hquiet⟩

/-- A schema with an identifier at the root and one in an object. -/
def nestedIdSchema : Json :=
  .object
    [("type", .string "object"),
     ("properties", .object
       [("id", .object [("type", .string "string")]),
        ("metadata", .object
          [("type", .string "object"),
           ("properties", .object [("id", .object [("type", .string "string")])])])])]

/-- The identifier in an object identifies the row as well, of which no property says anything. -/
theorem assemble_marks_nestedId :
    user.fieldAdditions = [] ∧ user.fieldOverrides = OrderedMap.empty ∧
      ∃ properties a, (Schema.ofJson nestedIdSchema).rootProperties? = some properties ∧
        user.assemble nestedIdSchema users = .ok a ∧
        a.entityType.sources = [usersTable] ∧
        (leafPaths (user.site users usersTable) properties).map (·.map (·.1))
          = [["id"], ["metadata", "id"]] ∧
        (∀ path ∈ leafPaths (user.site users usersTable) properties, ∀ p ∈ path,
          p.2.keyword? "x-fqm-is-id-column" = none) ∧
        a.entityType.columns.map (fun c => (c.name, c.isIdColumn))
          = [("id", some true), ("metadata_id", some true), ("jsonb", none)] ∧
        a.entityType.columns.countP Field.isId = 2 := by
  obtain ⟨a, ha, hrun⟩ := exists_ok_of_toOption
    (f := fun a => (a.entityType.sources,
      a.entityType.columns.map (fun c => (c.name, c.isIdColumn)),
      a.entityType.columns.countP Field.isId))
    (x := user.assemble nestedIdSchema users)
    (b := ([usersTable], [("id", some true), ("metadata_id", some true), ("jsonb", none)], 2))
    (by decide +kernel)
  obtain ⟨hsources, hrest⟩ := Prod.mk.inj hrun
  obtain ⟨hcolumns, hcount⟩ := Prod.mk.inj hrest
  have hpaths : (Schema.ofJson nestedIdSchema).rootProperties?.map (fun properties =>
      (leafPaths (user.site users usersTable) properties).map (·.map (·.1)))
        = some [["id"], ["metadata", "id"]] := by
    decide +kernel
  have hsilent : ∀ properties ∈ (Schema.ofJson nestedIdSchema).rootProperties?,
      ∀ path ∈ leafPaths (user.site users usersTable) properties, ∀ p ∈ path,
        (p.2.keyword? "x-fqm-is-id-column").isNone = true := by
    decide +kernel
  obtain ⟨properties, hroot, hkeys⟩ := Option.map_eq_some_iff.mp hpaths
  exact ⟨rfl, rfl, properties, a, hroot, ha, hsources, hkeys, fun path hpath p hp =>
    Option.isNone_iff_eq_none.mp (hsilent properties hroot path hpath p hp), hcolumns, hcount⟩

end ResourceConfig

end EntityCatalog
