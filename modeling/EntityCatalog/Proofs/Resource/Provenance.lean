import EntityCatalog.Proofs.Column.LeafPath
import EntityCatalog.Proofs.Resource.Assembly

/-!
# Where the columns of a resource come from

A resource that is not edited by hand has one column for each leaf path of its schema, in the order
in which the properties are declared, and then the column for the whole document.  Neither
flattening nor the closing of array items touches an expression, so a column reads what stands at
its own path: the keys as the schema writes them, whatever names the columns have got on the way.
-/

namespace EntityCatalog

/-! ## Expressions by path -/

/-- What reads the value of a column that is reached by keys from the document of a source. -/
def documentGetter (sourceAlias : String) (keys : List String) (type : DataType) : String :=
  let value := ":" ++ sourceAlias ++ ".jsonb" ++ keyPath keys
  let text := ":" ++ sourceAlias ++ ".jsonb" ++ keyPath keys.dropLast
    ++ "->>'" ++ keys.getLast?.getD "" ++ "'"
  match type with
  | .leaf .integer => "(" ++ text ++ ")" ++ "::integer"
  | .leaf .number => "(" ++ text ++ ")" ++ "::float"
  | .leaf _ => text
  | .object _ => value
  | .array _ (.object _) => value
  | .array _ _ =>
      "(SELECT array_agg(elems.value::text) FROM jsonb_array_elements(" ++ value ++ ") AS elems)"

/-- Whether a property says itself how its value is read, or that it is not. -/
def Property.GivesValueGetter (p : Property) : Prop :=
  p.2.keyword? "x-fqm-value-getter" = some .null ∨
    ∃ expression, p.2.keyword? "x-fqm-value-getter" = some (.string expression)

theorem getter_keep {p : Property} (h : ¬ p.GivesValueGetter) :
    (Extensions.getter p.1 p.2 "x-fqm-value-getter").1 = .keep := by
  unfold Extensions.getter
  cases hk : p.2.keyword? "x-fqm-value-getter" with
  | none => rfl
  | some j =>
      cases j with
      | null => exact absurd (Or.inl hk) h
      | string expression => exact absurd (Or.inr ⟨expression, hk⟩) h
      | bool _ => rfl
      | number _ => rfl
      | array _ => rfl
      | object _ => rfl

theorem inDocument_valueGetter (site : Site) (keys : List String) (key : String) (type : DataType)
    (folding : Option String) :
    (Getters.inDocument (site.reach keys) key type folding).valueGetter
      = some (documentGetter site.sourceAlias (keys ++ [key]) type) := by
  have hvalue : site.reach keys ++ "->'" ++ key ++ "'"
      = ":" ++ site.sourceAlias ++ ".jsonb" ++ keyPath (keys ++ [key]) := by
    rw [keyPath_concat, Site.reach, Site.document]
    simp only [String.append_assoc]
  have htext : site.reach keys ++ "->>'" ++ key ++ "'"
      = ":" ++ site.sourceAlias ++ ".jsonb" ++ keyPath (keys ++ [key]).dropLast ++ "->>'"
          ++ (keys ++ [key]).getLast?.getD "" ++ "'" := by
    rw [List.dropLast_concat, List.getLast?_concat]
    rfl
  unfold Getters.inDocument documentGetter
  rw [hvalue, htext]
  cases type with
  | object properties => rfl
  | array kind item => cases item <;> rfl
  | leaf t => cases t <;> cases folding <;> rfl

theorem makeField_valueGetter {site : Site} {keys : List String} (hs : site.scope = .document keys)
    {p : Property} {e : Extensions} (t : DataType) {findings : List Finding}
    (he : Extensions.ofSchema p.1 p.2 = .ok (e, findings)) (hp : ¬ p.GivesValueGetter) :
    (makeField site p.1 p.2 e t).valueGetter
      = some (documentGetter site.sourceAlias (keys ++ [p.1]) t) := by
  have hkeep : e.valueGetter = .keep :=
    (congrArg Extensions.valueGetter (ofSchema_eq_ok he).1).trans (getter_keep hp)
  have hgetter : (makeField site p.1 p.2 e t).valueGetter
      = (Getters.synthesize site p.1 t e).valueGetter :=
    congrArg ColumnInfo.valueGetter (withVisibility_frame _ e.visibility)
  rw [hgetter, Getters.synthesize, hkeep, Getters.automatic, hs]
  exact inDocument_valueGetter site keys p.1 t _

theorem MadeAt.isObject {site : Site} {path : List Property} {f : Field}
    (h : MadeAt site path f) : f.dataType.isObject = false := by
  induction h with
  | leaf _ _ ho => exact ho
  | step _ ih => exact ih

/-- The place of the last property of a path. -/
def Site.along (site : Site) (path : List Property) : Site :=
  path.foldl (fun site p => site.property p.1) site

theorem MadeAt.type {site : Site} {path : List Property} {f : Field} (h : MadeAt site path f) :
    ∃ p t, path.getLast? = some p ∧ typeAt (site.along path) p.2 = .ok t ∧
      f.dataType = t.value := by
  induction h with
  | @leaf site p n f hn hval ho =>
      obtain ⟨e, findings, t, -, ht, rfl⟩ := makeField_of_value hn hval
      exact ⟨p, t, rfl, ht, rfl⟩
  | step hf ih =>
      obtain ⟨p, t, hlast, ht, hf'⟩ := ih
      refine ⟨p, t, ?_, ht, hf'⟩
      rwa [List.getLast?_cons_of_ne_nil hf.ne_nil]

/-- The column of a path reads the document at the keys of the path. -/
theorem MadeAt.valueGetter {site : Site} {path : List Property} {f : Field}
    (h : MadeAt site path f) {keys : List String} (hs : site.scope = .document keys) {p : Property}
    (hlast : path.getLast? = some p) (hp : ¬ p.GivesValueGetter) :
    f.valueGetter
      = some (documentGetter site.sourceAlias (keys ++ path.map (·.1)) f.dataType) := by
  induction h generalizing keys with
  | @leaf site q n f hn hval ho =>
      obtain rfl : q = p := Option.some.inj hlast
      obtain ⟨e, findings, t, he, -, rfl⟩ := makeField_of_value hn hval
      exact makeField_valueGetter hs t.value he hp
  | @step site q path f hf ih =>
      have hlast' : path.getLast? = some p := by
        rwa [List.getLast?_cons_of_ne_nil hf.ne_nil] at hlast
      -- one key further in, the rest of the path is one key shorter
      have hscope : (site.property q.1).scope = .document (keys ++ [q.1]) := by
        rw [Site.property, hs]
      have hrec := ih hscope hlast'
      rw [hrec, List.map_cons, List.append_assoc]
      rfl

/-! ## Columns that are only closed to queries -/

theorem documentGetter_restrict (sourceAlias : String) (keys : List String) (inArray : Bool)
    (type : DataType) :
    documentGetter sourceAlias keys (type.restrict inArray)
      = documentGetter sourceAlias keys type := by
  cases type with
  | leaf t => rfl
  | object properties => rfl
  | array kind item => cases item <;> rfl

/-! ## Columns of a resource -/

/-- What ties a column to a leaf path: the name that the properties of the path make together, the
type of the last property, and, unless that one says otherwise, what reads the path. -/
structure Provenance (site : Site) (path : List Property) (c : Field) : Prop where
  name : c.name = nameAlong id path
  isFlat : c.dataType.isObject = false
  type : ∃ p t, path.getLast? = some p ∧ typeAt (site.along path) p.2 = .ok t ∧
    c.dataType = t.value.restrict false
  valueGetter : ∀ p, path.getLast? = some p → ¬ p.GivesValueGetter →
    c.valueGetter = some (documentGetter site.sourceAlias (path.map (·.1)) c.dataType)

/-- A flat column that comes from a path, closed to queries below, has the path as provenance. -/
theorem ComesFrom.provenance {site : Site} (hs : site.scope = .document []) {path : List Property}
    {c : Field} (h : ComesFrom site id path c) : Provenance site path c.restricted := by
  obtain ⟨f, hf, rfl⟩ := h
  refine ⟨rfl, ?_, ?_, ?_⟩
  · exact (isObject_restrict false f.dataType).trans hf.isObject
  · obtain ⟨p, t, hlast, ht, hft⟩ := hf.type
    exact ⟨p, t, hlast, ht, congrArg (DataType.restrict false) hft⟩
  · intro p hlast hp
    have hgetter : f.valueGetter = _ := hf.valueGetter hs hlast hp
    show f.valueGetter = some (documentGetter _ _ (f.dataType.restrict false))
    rw [hgetter, documentGetter_restrict, List.nil_append]

namespace ResourceConfig

/-- Whether the columns of a resource are left as they are inferred. -/
structure Unedited (r : ResourceConfig) : Prop where
  additions : r.fieldAdditions = []
  overrides : r.fieldOverrides = OrderedMap.empty
  exclusions : r.fieldExclusions = []

theorem editedColumns_of_unedited {r : ResourceConfig} (h : r.Unedited) (columns : List Field) :
    r.editedColumns columns = (columns, []) := by
  rw [editedColumns, h.additions, h.overrides, h.exclusions]
  rfl

/-- The flat columns: those that the root's properties come to, then the one for the document. -/
theorem flatColumns_eq (r : ResourceConfig) (source : EntitySource) (inferred : List Field) :
    r.flatColumns source inferred
      = (inferred.flatMap Field.expanded).map Field.restricted
          ++ if r.includesJsonbField then [jsonbColumn source.sourceAlias] else [] := by
  rw [flatColumns, restrictElements_eq_map, flatten_eq_flatMap, List.flatMap_append,
    List.map_append]
  cases r.includesJsonbField with
  | true => rfl
  | false => rfl

/-- **Every column has its leaf path.**  The columns of a resource that is not edited are one for
each leaf path of its schema, in order and none besides, and then the column for the document if
that is included; and each is named after its path, and reads it. -/
theorem assemble_columns {r : ResourceConfig} {schema : Json} {m : ModuleConfig} {a : Assembled}
    (h : r.assemble schema m = .ok a) (hr : r.Unedited) :
    ∃ source properties columns, a.entityType.sources = [source] ∧
      source.sourceAlias = r.source ∧
      (Schema.ofJson schema).rootProperties? = some properties ∧
      a.entityType.columns
        = columns ++ (if r.includesJsonbField then [jsonbColumn source.sourceAlias] else []) ∧
      List.Forall₂ (Provenance (r.site m source)) (leafPaths (r.site m source) properties)
        columns := by
  obtain ⟨properties, source, inferred, hroot, hsource, hinf, ha⟩ := assemble_eq_ok h
  obtain ⟨hok, hvalue⟩ := inferColumns_value hinf
  refine ⟨source, properties, (inferred.value.flatMap Field.expanded).map Field.restricted, ?_,
    sourceAlias_of_resolveSource hsource, hroot, ?_, ?_⟩
  · rw [ha]
    rfl
  · rw [ha, editedColumns_of_unedited hr, ← flatColumns_eq]
    rfl
  · have hpaths := forall₂_leafPaths id hok
    rw [List.forall₂_map_right_iff, hvalue, List.flatMap_assoc]
    exact hpaths.imp fun path c hc => hc.provenance rfl

/-- A module that reads users from a table. -/
def users : ModuleConfig :=
  { metadata := { team := "corsair", domain := .users, moduleName := "mod-users" }
    sources := [.table "users" "users"] }

/-- Users, as their schema has them. -/
def user : ResourceConfig := { name := "user", source := "users", schema := "user.json" }

/-- A schema with two objects, one in the other, and a property that is left out. -/
def userSchema : Json :=
  .object
    [("type", .string "object"),
     ("properties", .object
       [("id", .object [("type", .string "string"), ("format", .string "uuid")]),
        ("personal", .object
          [("type", .string "object"),
           ("x-fqm-name", .string "person"),
           ("properties", .object
             [("birthYear", .object [("type", .string "integer")]),
              ("homeAddress", .object
                [("type", .string "object"),
                 ("properties", .object
                   [("postCodes", .object
                     [("type", .string "array"),
                      ("items", .object [("type", .string "string")])])])])])]),
        ("proxyFor", .object [("type", .string "string"), ("folio:isVirtual", .bool true)])])]

/-- The columns of users, by name, with what reads them. -/
def userColumns : List (String × Option String) :=
  [("id", some ":users.jsonb->>'id'"),
   ("person_birth_year", some "(:users.jsonb->'personal'->>'birthYear')::integer"),
   ("person_home_address_post_codes",
     some ("(SELECT array_agg(elems.value::text) FROM jsonb_array_elements("
       ++ ":users.jsonb->'personal'->'homeAddress'->'postCodes') AS elems)")),
   ("jsonb", some ":users.jsonb::text")]

theorem assemble_columns_user :
    user.Unedited ∧
      ∃ a, user.assemble userSchema users = .ok a ∧
        a.entityType.columns.map (fun c => (c.name, c.valueGetter)) = userColumns ∧
        ∃ source properties columns, a.entityType.sources = [source] ∧
          source.sourceAlias = user.source ∧
          (Schema.ofJson userSchema).rootProperties? = some properties ∧
          a.entityType.columns
            = columns
                ++ (if user.includesJsonbField then [jsonbColumn source.sourceAlias] else []) ∧
          List.Forall₂ (Provenance (user.site users source))
            (leafPaths (user.site users source) properties) columns := by
  have hcolumns : (user.assemble userSchema users).toOption.map
      (fun a => a.entityType.columns.map fun c => (c.name, c.valueGetter))
        = some userColumns := by
    decide +kernel
  have hunedited : user.Unedited := ⟨rfl, rfl, rfl⟩
  cases ha : user.assemble userSchema users with
  | error e =>
      rw [ha] at hcolumns
      exact absurd hcolumns (by simp [Except.toOption])
  | ok a =>
      rw [ha] at hcolumns
      exact ⟨hunedited, a, rfl, Option.some.inj hcolumns, assemble_columns ha hunedited⟩

end ResourceConfig

end EntityCatalog
