import EntityCatalog.Proofs.Catalog.Parts
import EntityCatalog.Proofs.Column.Visits
import EntityCatalog.Proofs.Resource.Provenance

/-!
# What becomes of the joins that a schema declares

A join is declared on a property and ends in the catalog: as a join of a column, or in a diagnostic.
On its way there the property's column is inferred, opened or kept, closed to queries, and resolved.
The joins of a resource are followed through all of these steps, and at the end the columns at any
depth and the diagnostics of joins are held against the visited properties, one by one and in order.

The one step that does not keep a join is the opening of an object.  Its properties take its place,
its own joins go with its column, and nothing is reported; inside an array, where an object is not
opened, the same joins are resolved or reported.  So the properties that are followed are those that
are not opened, and the batch at the end has one that is.
-/

namespace EntityCatalog

/-! ## Joins of a visited property -/

namespace Visit

/-- The joins that the property declares by the names of their targets, if they are well-formed. -/
def joins (v : Visit) : List DeclaredJoin := (Extensions.joins v.property.2).1

/-- The joins that the property gives by the identifiers of their targets, if they are
well-formed. -/
def rawJoins (v : Visit) : List ResolvedJoin :=
  (Extensions.typed v.property.1 v.property.2 "x-fqm-joins-to-raw"
    (Shape.list ResolvedJoin.read)).1.getD []

end Visit

theorem getD_filter_isEmpty {α : Type} (l? : Option (List α)) :
    (l?.filter (!·.isEmpty)).getD [] = l?.getD [] := by
  cases l? with
  | none => rfl
  | some l => cases l <;> rfl

/-- The column of a visited property has the joins of its schema. -/
theorem Visit.Makes.joins {v : Visit} {f : Field} (h : v.Makes f) :
    f.declaredJoins = v.joins ∧ f.joinsTo.getD [] = v.rawJoins := by
  obtain ⟨n, hn, hval⟩ := h
  obtain ⟨e, findings, t, he, -, rfl⟩ := makeField_of_value hn hval
  have hgiven := (ofSchema_eq_ok he).1
  have hdeclares : (makeField v.site v.property.1 v.property.2 e t.value).declaredJoins
      = e.joinsTo :=
    congrArg ColumnInfo.declaredJoins (withVisibility_frame _ e.visibility)
  have hgives : (makeField v.site v.property.1 v.property.2 e t.value).joinsTo
      = e.joinsToRaw.filter (!·.isEmpty) :=
    congrArg ColumnInfo.joinsTo (withVisibility_frame _ e.visibility)
  constructor
  · exact hdeclares.trans (congrArg Extensions.joinsTo hgiven)
  · rw [hgives, getD_filter_isEmpty]
    exact congrArg (fun e : Extensions => e.joinsToRaw.getD []) hgiven

/-! ## What resolution makes of them -/

namespace JoinResolver

variable (r : JoinResolver)

@[simp] theorem joinCondition_type (t : DataType) :
    (r.type t).joinCondition = t.joinCondition := by
  cases t <;> rfl

/-- A join depends on the type of its column only through the condition that it gets. -/
theorem resolve?_congr {t t' : DataType} (h : t.joinCondition = t'.joinCondition) :
    r.resolve? t = r.resolve? t' := by
  have hto : ∀ (j : DeclaredJoin) (id : Uuid), j.to id t = j.to id t' := by
    intro j id
    rw [DeclaredJoin.to, DeclaredJoin.to, h]
  funext j
  rw [resolve?, resolve?]
  cases r.index.joinEnd j with
  | found id => exact congrArg some (hto j id)
  | noField => rfl
  | noEntity =>
      dsimp only
      rw [hto]

/-- No join is lost by resolution: it is resolved, or reported, or both. -/
theorem resolved_or_reported (source : DataType) (entity column : String) (j : DeclaredJoin) :
    (r.resolve? source j).isSome = true ∨ (r.issue? entity column j).isSome = true := by
  rw [resolve?, issue?]
  cases r.index.joinEnd j with
  | found id => exact Or.inl rfl
  | noField => exact Or.inr rfl
  | noEntity => exact Or.inr rfl

/-- A visited property is accounted for by a column and by issues: the column has the property's
joins as far as they are resolved, the issues are those of the joins that are reported, and each
join is the one or the other. -/
structure Settles (entity : String) (v : Visit) (account : Field × List Issue) : Prop where
  joinsTo : account.1.joinsTo.getD []
    = v.rawJoins ++ v.joins.filterMap (r.resolve? account.1.dataType)
  issues : account.2 = v.joins.filterMap (r.issue? entity account.1.name)
  complete : ∀ j ∈ v.joins, (r.resolve? account.1.dataType j).isSome = true ∨
    (r.issue? entity account.1.name j).isSome = true

/-- A column with the joins of a property, resolved, accounts for the property, together with what
is reported about it. -/
theorem settles_of_makes (entity : String) {v : Visit} {f g : Field} (hf : v.Makes f)
    (hg : f.joinPart = g.joinPart) : r.Settles entity v (r.field g, r.ownIssues entity g) := by
  obtain ⟨hdeclared, hraw⟩ := hf.joins
  have hdeclared : g.declaredJoins = v.joins := (congrArg JoinPart.declared hg).symm.trans hdeclared
  have hraw : g.joinsTo.getD [] = v.rawJoins := (congrArg JoinPart.resolved hg).symm.trans hraw
  have hresolve : r.resolve? (r.field g).dataType = r.resolve? g.dataType :=
    r.resolve?_congr (r.joinCondition_type g.dataType)
  refine ⟨?_, ?_, fun j _ => r.resolved_or_reported _ _ _ j⟩
  · rw [hresolve, field_joinsTo, hdeclared, hraw]
  · rw [ownIssues, hdeclared, field_name]

/-- A list of properties is accounted for by columns that have the joins of theirs. -/
theorem forall₂_settles (entity : String) {vs : List Visit} {fs gs : List Field}
    (hvs : List.Forall₂ Visit.Makes vs fs)
    (hgs : gs.map Field.joinPart = fs.map Field.joinPart) :
    List.Forall₂ (r.Settles entity) vs (gs.map fun g => (r.field g, r.ownIssues entity g)) := by
  rw [List.forall₂_map_right_iff]
  induction hvs generalizing gs with
  | nil =>
      rw [List.map_eq_nil_iff.mp hgs]
      exact .nil
  | @cons v f vs fs hf _ ih =>
      obtain ⟨g, gs, rfl, hg, hgs⟩ := List.map_eq_cons_iff.mp hgs
      exact .cons (r.settles_of_makes entity hf hg.symm) (ih hgs)

end JoinResolver

/-! ## A resource -/

namespace CatalogModule

/-- The properties that inference visits when it makes the columns of a resource. -/
def visits (m : CatalogModule) (r : ResourceConfig) : List Visit :=
  match (m.schemas.get? r.schema).bind fun schema => (Schema.ofJson schema).rootProperties?,
      resolveSource r.source m.config.sources m.config.sourceMap with
  | some properties, .ok source => EntityCatalog.visits (r.site m.config source) properties
  | _, _ => []

/-- The columns of a resource that is not edited: the visits that are not opened make columns that
say the same about joins as the flat ones. -/
theorem columns_of_visits {m : CatalogModule} {r : ResourceConfig} {a : Assembled}
    (h : m.assemble r = .ok a) (hr : r.Unedited) :
    ∃ made flat, List.Forall₂ Visit.Makes ((m.visits r).filter fun v => !v.isOpened) made ∧
      (allFields flat).map Field.joinPart = made.map Field.joinPart ∧
      a.entityType.columns
        = flat ++ if r.includesJsonbField then [jsonbColumn r.source] else [] := by
  obtain ⟨schema, hschema, ha⟩ := assemble_eq_ok_iff.mp h
  obtain ⟨properties, source, inferred, hroot, hsource, hinf, rfl⟩ :=
    ResourceConfig.assemble_eq_ok ha
  obtain ⟨hok, hvalue⟩ := inferColumns_value hinf
  have hvisits : m.visits r = EntityCatalog.visits (r.site m.config source) properties := by
    rw [visits, hschema, Option.bind_some, hroot, hsource]
  refine ⟨lastingFields inferred.value,
    (inferred.value.flatMap Field.expanded).map Field.restricted, ?_,
    map_joinPart_flat inferred.value, ?_⟩
  · rw [hvisits, hvalue]
    exact forall₂_lastingFields rfl hok
  · rw [ResourceConfig.editedColumns_of_unedited hr, ← sourceAlias_of_resolveSource hsource]
    exact r.flatColumns_eq source inferred.value

end CatalogModule

/-! ## Catalogs -/

namespace Catalog

open CatalogModule

/-- What is reported about the joins of one entity type stands together. -/
theorem diagnostics_isInfix {modules : List CatalogModule} (force : Bool) {e : EntityType}
    (he : e ∈ assembled modules) :
    ((resolver modules force).diagnostics e).map (inOwner modules (Owners.ofModules modules))
      <:+: (compile modules force).diagnostics := by
  obtain ⟨before, after, hbatch⟩ := List.append_of_mem he
  have hjoins : ((resolver modules force).diagnostics e).map
      (inOwner modules (Owners.ofModules modules)) <:+: joinDiagnostics modules force := by
    rw [joinDiagnostics, hbatch, List.flatMap_append, List.flatMap_cons, List.map_append,
      List.map_append, ← List.append_assoc]
    exact List.infix_append _ _ _
  rw [compile_diagnostics]
  exact hjoins.trans (List.infix_append _ _ _)

theorem map_issue_inOwner (modules : List CatalogModule) (owners : Owners) (r : JoinResolver)
    (e : EntityType) :
    ((r.diagnostics e).map (inOwner modules owners)).map (·.issue)
      = r.fieldIssues e.name e.columns := by
  rw [JoinResolver.diagnostics, List.map_map, List.map_map]
  refine (List.map_congr_left fun issue _ => ?_).trans (List.map_id' _)
  exact inOwner_issue modules owners _

/-- **Joins are accounted for, unless an object is opened.**  Take the properties that inference
visits for a resource that is not edited and has an entity type, without the objects that are opened.
They and the columns of the entity type at any depth are the same in number and order, but for the
column for the document, and each column has the joins of its property, resolved, while those that
are not resolved are reported, all together and for this entity type. -/
theorem compile_joins_accounted {modules : List CatalogModule} (force : Bool) {m : CatalogModule}
    (hm : m ∈ modules) {r : ResourceConfig} (hr : r ∈ m.config.entityTypes)
    (hunedited : r.Unedited) {a : Assembled} (ha : m.assemble r = .ok a) :
    ∃ e ∈ (compile modules force).entityTypes, e.name = m.nameOf r ∧
      ∃ accounts reports,
        List.Forall₂ ((resolver modules force).Settles e.name)
          ((m.visits r).filter fun v => !v.isOpened) accounts ∧
        allFields e.columns
          = accounts.map Prod.fst
              ++ (if r.includesJsonbField then [jsonbColumn r.source] else []) ∧
        reports <:+: (compile modules force).diagnostics ∧
        (∀ d ∈ reports, d.entityType = some e.name) ∧
        reports.map (·.issue) = accounts.flatMap Prod.snd := by
  obtain ⟨made, flat, hmade, hflat, hcolumns⟩ := columns_of_visits ha hunedited
  have he : a.entityType ∈ assembled modules :=
    List.mem_flatMap.mpr ⟨m, hm, List.mem_filterMap.mpr
      ⟨r, hr, entityType?_eq_some_iff.mpr ⟨a, ha, rfl⟩⟩⟩
  refine ⟨(resolver modules force).entityType a.entityType, ?_, (name_of_assemble ha).1,
    (allFields flat).map fun g =>
      ((resolver modules force).field g, (resolver modules force).ownIssues a.entityType.name g),
    ((resolver modules force).diagnostics a.entityType).map
      (inOwner modules (Owners.ofModules modules)), ?_, ?_, diagnostics_isInfix force he, ?_, ?_⟩
  · rw [compile_entityTypes]
    exact List.mem_map_of_mem he
  · exact (resolver modules force).forall₂_settles a.entityType.name hmade hflat
  · show allFields ((resolver modules force).fields a.entityType.columns) = _
    rw [JoinResolver.allFields_fields, hcolumns, allFields_append, List.map_append, List.map_map]
    refine congrArg _ ?_
    cases r.includesJsonbField <;> rfl
  · intro d hd
    obtain ⟨join, hjoin, rfl⟩ := List.mem_map.mp hd
    obtain ⟨issue, -, rfl⟩ := List.mem_map.mp hjoin
    rw [inOwner_entityType]
    rfl
  · have hdocument : (allFields (if r.includesJsonbField then [jsonbColumn r.source] else [])).flatMap
        ((resolver modules force).ownIssues a.entityType.name) = [] := by
      cases r.includesJsonbField <;> rfl
    rw [map_issue_inOwner, JoinResolver.fieldIssues_eq, hcolumns, allFields_append,
      List.flatMap_append, hdocument, List.append_nil, List.flatMap_map]

/-- Profiles, as their schema has them. -/
def profile : ResourceConfig := { name := "profile", source := "profiles", schema := "profile.json" }

/-- A join to profiles. -/
def profileJoin : DeclaredJoin :=
  { targetModule := "mod-profiles", targetEntity := "profile", targetField := "id" }

/-- A join to addresses, which are in another module. -/
def addressJoin : DeclaredJoin :=
  { targetModule := "mod-addresses", targetEntity := "address", targetField := "number" }

/-- A schema with two objects that declare the same join, one of them inside an array, and a property
with a join of its own in the other. -/
def profileSchema : Json :=
  .object
    [("type", .string "object"),
     ("properties", .object
       [("id", .object [("type", .string "string")]),
        ("personal", .object
          [("type", .string "object"),
           ("x-fqm-joins-to", .array [addressJoin.toJson]),
           ("properties", .object
             [("parent", .object
               [("type", .string "string"),
                ("x-fqm-joins-to", .array [profileJoin.toJson])])])]),
        ("households", .object
          [("type", .string "array"),
           ("items", .object
             [("type", .string "object"),
              ("properties", .object
                [("home", .object
                  [("type", .string "object"),
                   ("x-fqm-joins-to", .array [addressJoin.toJson]),
                   ("properties", .object
                     [("city", .object [("type", .string "string")])])])])])])])]

/-- A module with profiles. -/
def profileModule : CatalogModule :=
  { config :=
      { metadata := { team := "corsair", domain := .users, moduleName := "mod-profiles" }
        sources := [.table "profiles" "profiles"]
        entityTypes := [profile] }
    schemas := OrderedMap.ofList [("profile.json", profileSchema)] }

theorem compile_joins_accounted_profileModule :
    profile.Unedited ∧
      (profileModule.visits profile).map (fun v => (v.property.1, v.isOpened))
        = [("id", false), ("personal", true), ("parent", false), ("households", false),
           ("home", false), ("city", false)] ∧
      ∃ e ∈ (compile [profileModule] false).entityTypes, e.name = profileModule.nameOf profile ∧
        ∃ accounts reports,
          List.Forall₂ ((resolver [profileModule] false).Settles e.name)
            ((profileModule.visits profile).filter fun v => !v.isOpened) accounts ∧
          allFields e.columns
            = accounts.map Prod.fst
                ++ (if profile.includesJsonbField then [jsonbColumn profile.source] else []) ∧
          reports <:+: (compile [profileModule] false).diagnostics ∧
          (∀ d ∈ reports, d.entityType = some e.name) ∧
          reports.map (·.issue) = accounts.flatMap Prod.snd := by
  have hunedited : profile.Unedited := ⟨rfl, rfl, rfl⟩
  have hok : (profileModule.assemble profile).isOk = true := by decide +kernel
  refine ⟨hunedited, by decide +kernel, ?_⟩
  cases ha : profileModule.assemble profile with
  | error issue =>
      rw [ha] at hok
      exact absurd hok (by simp [Except.isOk, Except.toBool])
  | ok a =>
      exact compile_joins_accounted false List.mem_cons_self List.mem_cons_self hunedited ha

/-- The join that two objects declare is reported once, for the one inside the array; for the other,
which is opened, there is neither a join nor a diagnostic. -/
theorem compile_loses_joins :
    profile.Unedited ∧
      (profileModule.visits profile).map (fun v => (v.property.1, v.joins))
        = [("id", []), ("personal", [addressJoin]), ("parent", [profileJoin]),
           ("households", []), ("home", [addressJoin]), ("city", [])] ∧
      ((compile [profileModule] false).entityTypes.flatMap fun e =>
          (allFields e.columns).flatMap fun f => f.joinsTo.getD [])
        = [profileJoin.to (EntityType.idOf "mod-profiles" "profile") (.leaf .string)] ∧
      (compile [profileModule] false).diagnostics.map (·.issue)
        = [addressJoin.missingIssue "mod_profiles__profile" "home" .error .entity] := by
  refine ⟨⟨rfl, rfl, rfl⟩, ?_, ?_, ?_⟩
  · decide +kernel
  · decide +kernel
  · decide +kernel

end Catalog

end EntityCatalog
