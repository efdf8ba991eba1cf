import EntityCatalog.Proofs.Catalog.Ownership
import EntityCatalog.Proofs.Join.Accounting

/-!
# A join finds the resource that it names

A join gives a module and a resource, but what is looked up is one text made of both.  The text tells
them apart: a module's name in snake case neither holds a double underscore nor ends in an
underscore, so whatever the resource is called, two names are equal only if the modules are the same
in snake case and the resources are the same altogether (`Naming.qualifiedName_inj`).

Where no two modules of a batch have one name in snake case, and no two resources of a module have
one name, every entity type of the batch then has a name of its own (`nodup_names`), and a join finds
the one of the resource that it names or none at all (`target?_assembled_eq_some_iff`).
-/

namespace EntityCatalog

/-! ## Names that occur once -/

theorem filter_name_of_nodup {es : List EntityType} (hd : (es.map (·.name)).Nodup)
    {e : EntityType} (he : e ∈ es) : es.filter (·.name = e.name) = [e] := by
  obtain ⟨before, after, rfl⟩ := List.append_of_mem he
  rw [List.map_append, List.map_cons, List.nodup_middle, List.nodup_cons, List.mem_append] at hd
  obtain ⟨hbefore, hafter⟩ := not_or.mp hd.1
  have hnone : ∀ {l : List EntityType}, e.name ∉ l.map (·.name) →
      l.filter (·.name = e.name) = [] := by
    intro l hl
    refine List.filter_eq_nil_iff.mpr fun e' he' heq => hl ?_
    exact List.mem_map.mpr ⟨e', he', of_decide_eq_true heq⟩
  have hself : (e :: after).filter (·.name = e.name) = e :: after.filter (·.name = e.name) :=
    List.filter_cons_of_pos (decide_eq_true rfl)
  rw [List.filter_append, hnone hbefore, hself, hnone hafter, List.nil_append]

theorem lastNamed?_eq_some_iff {es : List EntityType} (hd : (es.map (·.name)).Nodup)
    {name : String} {e : EntityType} :
    lastNamed? es name = some e ↔ e ∈ es ∧ e.name = name := by
  refine ⟨mem_of_lastNamed?, ?_⟩
  rintro ⟨he, rfl⟩
  cases hlast : lastNamed? es e.name with
  | none => exact absurd (List.mem_map_of_mem he) (lastNamed?_eq_none_iff.mp hlast)
  | some e' =>
      obtain ⟨he', hname⟩ := mem_of_lastNamed? hlast
      rw [List.inj_on_of_nodup_map hd he' he hname]

namespace Catalog

open CatalogModule

variable {modules : List CatalogModule}

/-- Whether no two resources of one module have the same name. -/
def DistinctResources (modules : List CatalogModule) : Prop :=
  ∀ m ∈ modules, (m.config.entityTypes.map (·.name)).Nodup

theorem DistinctResources.pairwise_names (hn : DistinctResources modules) {m : CatalogModule}
    (hm : m ∈ modules) : m.entityTypes.Pairwise fun e e' => e.name ≠ e'.name := by
  refine List.pairwise_filterMap.mpr ((List.pairwise_map.mp (hn m hm)).imp ?_)
  intro r r' hr e he e' he'
  obtain ⟨a, ha, rfl⟩ := entityType?_eq_some_iff.mp he
  obtain ⟨a', ha', rfl⟩ := entityType?_eq_some_iff.mp he'
  rw [(name_of_assemble ha).1, (name_of_assemble ha').1]
  exact fun heq => hr (Naming.qualifiedName_inj.mp heq).2

/-- No two entity types of a batch have one name. -/
theorem nodup_names (hd : Distinct modules) (hn : DistinctResources modules) :
    ((assembled modules).map (·.name)).Nodup := by
  rw [assembled, List.Nodup, List.pairwise_map, List.pairwise_flatMap]
  refine ⟨fun m hm => hn.pairwise_names hm, hd.pairwise.imp ?_⟩
  intro m m' hm e he e' he'
  exact hm.name_ne he he'

/-! ## The resource that a join names -/

/-- Whether a join names a resource of a batch: its module has the join's target module in snake
case, and the resource has the name of the target itself. -/
structure Addresses (modules : List CatalogModule) (d : DeclaredJoin) (m : CatalogModule)
    (r : ResourceConfig) : Prop where
  module_mem : m ∈ modules
  resource_mem : r ∈ m.config.entityTypes
  moduleName : Naming.snakeCase m.metadata.moduleName = Naming.snakeCase d.targetModule
  resourceName : r.name = d.targetEntity

theorem Addresses.nameOf {d : DeclaredJoin} {m : CatalogModule} {r : ResourceConfig}
    (h : Addresses modules d m r) :
    m.nameOf r = Naming.qualifiedName d.targetModule d.targetEntity :=
  Naming.qualifiedName_inj.mpr ⟨h.moduleName, h.resourceName⟩

theorem Addresses.unique (hd : Distinct modules) (hn : DistinctResources modules)
    {d : DeclaredJoin} {m m' : CatalogModule} {r r' : ResourceConfig}
    (h : Addresses modules d m r) (h' : Addresses modules d m' r') : m' = m ∧ r' = r := by
  obtain rfl : m' = m :=
    hd.eq_of_nameOf h.module_mem h'.module_mem (h'.nameOf.trans h.nameOf.symm)
  exact ⟨rfl, List.inj_on_of_nodup_map (hn m' h.module_mem) h'.resource_mem h.resource_mem
    (h'.resourceName.trans h.resourceName.symm)⟩

/-- A join finds an entity type iff that is the one of the resource that the join names. -/
theorem target?_assembled_eq_some_iff (hd : Distinct modules) (hn : DistinctResources modules)
    {d : DeclaredJoin} {e : EntityType} :
    d.target? (assembled modules) = some e ↔
      ∃ m r, Addresses modules d m r ∧ m.entityType? r = some e := by
  rw [DeclaredJoin.target?, lastNamed?_eq_some_iff (nodup_names hd hn)]
  constructor
  · rintro ⟨he, hname⟩
    obtain ⟨m, hm, he⟩ := List.mem_flatMap.mp he
    obtain ⟨r, hr, hre⟩ := List.mem_filterMap.mp he
    obtain ⟨a, ha, rfl⟩ := entityType?_eq_some_iff.mp hre
    rw [(name_of_assemble ha).1] at hname
    obtain ⟨hmodule, hresource⟩ := Naming.qualifiedName_inj.mp hname
    exact ⟨m, r, ⟨hm, hr, hmodule, hresource⟩, hre⟩
  · rintro ⟨m, r, haddr, hre⟩
    obtain ⟨a, ha, rfl⟩ := entityType?_eq_some_iff.mp hre
    refine ⟨List.mem_flatMap.mpr ⟨m, haddr.module_mem, ?_⟩, ?_⟩
    · exact List.mem_filterMap.mpr ⟨r, haddr.resource_mem, hre⟩
    · rw [(name_of_assemble ha).1]
      exact haddr.nameOf

/-! ## Joins of a catalog -/

/-- The entity type that a catalog has for a resource of a module: the only one with its name, and
its identifier is that of the module and the resource. -/
structure HasCompiled (c : Catalog) (m : CatalogModule) (r : ResourceConfig) (e : EntityType) :
    Prop where
  only : c.entityTypes.filter (·.name = m.nameOf r) = [e]
  id : e.id = EntityType.idOf m.metadata.moduleName r.name

/-- What a declared join of a column adds to the column's joins in the catalog of a batch.  It leads
to the entity type of the one resource that it names, if that has the column, or in force mode to the
placeholder, if that resource has no entity type or there is none. -/
inductive Addressed (modules : List CatalogModule) (force : Bool) (f : Field) (d : DeclaredJoin) :
    Option ResolvedJoin → Prop
  | resource {m : CatalogModule} {r : ResourceConfig} {e : EntityType} {entry : ResolvedJoin} :
      Addresses modules d m r → (∀ m' r', Addresses modules d m' r' → m' = m ∧ r' = r) →
        (compile modules force).HasCompiled m r e → d.targetField ∈ e.columns.map (·.name) →
        d.Becomes f (EntityType.idOf m.metadata.moduleName d.targetEntity) entry →
        Addressed modules force f d (some entry)
  | noField {m : CatalogModule} {r : ResourceConfig} {e : EntityType} :
      Addresses modules d m r → (∀ m' r', Addresses modules d m' r' → m' = m ∧ r' = r) →
        (compile modules force).HasCompiled m r e → d.targetField ∉ e.columns.map (·.name) →
        Addressed modules force f d none
  | placeholder {entry : ResolvedJoin} :
      (∀ m r, Addresses modules d m r → m.entityType? r = none) → isForced modules force = true →
        d.Becomes f placeholderId entry → Addressed modules force f d (some entry)
  | unresolved :
      (∀ m r, Addresses modules d m r → m.entityType? r = none) → isForced modules force = false →
        Addressed modules force f d none

/-- A join that finds an entity type finds that of the one resource that it names, as the catalog has
it. -/
theorem exists_compiled_of_target? (hd : Distinct modules) (hn : DistinctResources modules)
    (force : Bool) {d : DeclaredJoin} {target : EntityType}
    (h : d.target? (assembled modules) = some target) :
    ∃ m r e, Addresses modules d m r ∧ (∀ m' r', Addresses modules d m' r' → m' = m ∧ r' = r) ∧
      (compile modules force).HasCompiled m r e ∧
      e.columns.map (·.name) = target.columns.map (·.name) ∧
      target.id = EntityType.idOf m.metadata.moduleName d.targetEntity := by
  obtain ⟨m, r, haddr, hre⟩ := (target?_assembled_eq_some_iff hd hn).mp h
  obtain ⟨a, ha, rfl⟩ := entityType?_eq_some_iff.mp hre
  obtain ⟨hname, hid⟩ := name_of_assemble ha
  have hmem : a.entityType ∈ assembled modules :=
    List.mem_flatMap.mpr ⟨m, haddr.module_mem, List.mem_filterMap.mpr ⟨r, haddr.resource_mem, hre⟩⟩
  refine ⟨m, r, (resolver modules force).entityType a.entityType, haddr,
    fun m' r' h' => haddr.unique hd hn h', ⟨?_, hid⟩,
    (resolver modules force).map_name_fields a.entityType.columns, ?_⟩
  · rw [compile_entityTypes, List.filter_map, ← hname]
    -- resolution keeps the names of entity types
    have hone := filter_name_of_nodup (nodup_names hd hn) hmem
    exact congrArg (List.map (resolver modules force).entityType) hone
  · rw [hid, haddr.resourceName]

theorem addressed_of_outcome (hd : Distinct modules) (hn : DistinctResources modules)
    (force : Bool) {entity : String} {f : Field} {d : DeclaredJoin}
    {o : Option ResolvedJoin × Option Issue}
    (h : JoinOutcome (assembled modules) (isForced modules force) entity f d o) :
    Addressed modules force f d o.1 := by
  have hnone : d.target? (assembled modules) = none →
      ∀ m r, Addresses modules d m r → m.entityType? r = none := by
    intro htarget m r haddr
    refine Option.eq_none_iff_forall_ne_some.mpr fun e he => ?_
    rw [(target?_assembled_eq_some_iff hd hn).mpr ⟨m, r, haddr, he⟩] at htarget
    exact absurd htarget (by simp)
  cases h with
  | found htarget hfield hentry =>
      obtain ⟨m, r, e, haddr, hone, he, hcolumns, hid⟩ :=
        exists_compiled_of_target? hd hn force htarget
      exact .resource haddr hone he (hcolumns ▸ hfield) (hid ▸ hentry)
  | noField htarget hfield =>
      obtain ⟨m, r, e, haddr, hone, he, hcolumns, -⟩ :=
        exists_compiled_of_target? hd hn force htarget
      exact .noField haddr hone he (hcolumns ▸ hfield)
  | forced htarget hforce hentry => exact .placeholder (hnone htarget) hforce hentry
  | noEntity htarget hforce => exact .unresolved (hnone htarget) hforce

/-- A column of a batch as the catalog has it: behind the joins that it had stand those that its
declared joins add, each by the resource that it names. -/
def JoinsAddressed (modules : List CatalogModule) (force : Bool) (before after : Field) : Prop :=
  ∃ added : List (Option ResolvedJoin),
    List.Forall₂ (Addressed modules force before) before.declaredJoins added ∧
      after.joinsTo.getD [] = before.joinsTo.getD [] ++ added.filterMap id

theorem joinsAddressed_field (hd : Distinct modules) (hn : DistinctResources modules)
    (force : Bool) (entity : String) (f : Field) :
    JoinsAddressed modules force f ((resolver modules force).field f) := by
  refine ⟨f.declaredJoins.map ((resolver modules force).resolve? f.dataType), ?_, ?_⟩
  · rw [List.forall₂_map_right_iff, List.forall₂_same]
    intro d _
    exact addressed_of_outcome hd hn force
      (JoinResolver.joinOutcome_outcome (assembled modules) (isForced modules force) entity f d)
  · rw [JoinResolver.field_joinsTo, List.filterMap_map]
    rfl

/-- **A join leads to the resource that it names.**  The qualified names of two resources are equal
iff their modules are the same in snake case and the resources have the same name.  So in the catalog
of a batch whose modules differ in snake case, and in which no module has two resources of one name,
a declared join of a column at any depth either leads to the entity type that is compiled from the
one resource it names, with the identifier of that module and that resource, or is not resolved, but
for the placeholder of force mode. -/
theorem compile_joins_addressed (hd : Distinct modules) (hn : DistinctResources modules)
    (force : Bool) :
    (∀ m r m' r' : String, Naming.qualifiedName m r = Naming.qualifiedName m' r' ↔
        Naming.snakeCase m = Naming.snakeCase m' ∧ r = r') ∧
      List.Forall₂
        (fun before after : EntityType =>
          after.name = before.name ∧
            List.Forall₂ (JoinsAddressed modules force) (allFields before.columns)
              (allFields after.columns))
        (assembled modules) (compile modules force).entityTypes := by
  refine ⟨fun m r m' r' => Naming.qualifiedName_inj, ?_⟩
  rw [compile_entityTypes, List.forall₂_map_right_iff, List.forall₂_same]
  intro e _
  refine ⟨rfl, ?_⟩
  show List.Forall₂ _ _ (allFields ((resolver modules force).fields e.columns))
  rw [JoinResolver.allFields_fields, List.forall₂_map_right_iff, List.forall₂_same]
  exact fun f _ => joinsAddressed_field hd hn force e.name f

/-- A module with guests, under a name that begins with an underscore and holds two. -/
def guestModule : CatalogModule :=
  { config :=
      { metadata := { team := "corsair", domain := .users, moduleName := "mod-users" }
        sources := [.table "guests" "guests"]
        entityTypes := [{ name := "_guest__day", source := "guests", schema := "guest.json" }] }
    schemas := OrderedMap.ofList
      [("guest.json", .object
        [("type", .string "object"),
         ("properties", .object [("id", .object [("type", .string "string")])])])] }

/-- A join to the guests, whose module is written in another way. -/
def guestJoin : DeclaredJoin :=
  { targetModule := "ModUsers", targetEntity := "_guest__day", targetField := "id" }

/-- A module with visits, each of which joins a guest, and another one that is not there. -/
def visitModule : CatalogModule :=
  { config :=
      { metadata := { team := "vega", domain := .circulation, moduleName := "mod-circulation" }
        sources := [.table "visits" "visits"]
        entityTypes := [{ name := "visit", source := "visits", schema := "visit.json" }] }
    schemas := OrderedMap.ofList
      [("visit.json", .object
        [("type", .string "object"),
         ("properties", .object
           [("guestId", .object
             [("type", .string "string"),
              ("x-fqm-joins-to", .array
                [{ guestJoin with targetEntity := "day" }.toJson, guestJoin.toJson])])])])] }

theorem compile_joins_addressed_visitModule :
    Distinct [visitModule, guestModule] ∧ DistinctResources [visitModule, guestModule] ∧
      ((compile [visitModule, guestModule] false).entityTypes.flatMap fun e =>
          (allFields e.columns).flatMap fun f => f.joinsTo.getD [])
        = [guestJoin.to (EntityType.idOf "mod-users" "_guest__day") (.leaf .string)] ∧
      (∀ m r m' r' : String, Naming.qualifiedName m r = Naming.qualifiedName m' r' ↔
          Naming.snakeCase m = Naming.snakeCase m' ∧ r = r') ∧
      List.Forall₂
        (fun before after : EntityType =>
          after.name = before.name ∧
            List.Forall₂ (JoinsAddressed [visitModule, guestModule] false)
              (allFields before.columns) (allFields after.columns))
        (assembled [visitModule, guestModule])
        (compile [visitModule, guestModule] false).entityTypes := by
  have hd : Distinct [visitModule, guestModule] := by
    show (List.map _ _).Nodup
    decide +kernel
  have hn : DistinctResources [visitModule, guestModule] := by
    unfold DistinctResources
    decide +kernel
  exact ⟨hd, hn, by decide +kernel, compile_joins_addressed hd hn false⟩

end Catalog

end EntityCatalog
