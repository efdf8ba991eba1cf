import EntityCatalog.Proofs.Catalog.Parts
import EntityCatalog.Proofs.Label.Keys
import EntityCatalog.Proofs.Naming.Separator
import Mathlib.Data.List.Nodup

/-!
# Every entity type has one owner

A batch keeps the owners of entity types as places, under names, and the last module of a name wins.
Where the modules can be told apart in snake case none of this is seen: a name tells its module, so
the owner of an entity type is the module that it comes from.  What a catalog says about joins and
labels is then said module by module, and places are gone: `joinDiagnostics_eq` and
`expectedLabels_eq`.

The same makes every diagnostic somebody's: `attributed_of_mem`.
-/

namespace EntityCatalog

/-! ## Modules that can be told apart -/

namespace CatalogModule

/-- Whether two modules have different names in snake case. -/
def Apart (m m' : CatalogModule) : Prop :=
  Naming.snakeCase m.metadata.moduleName ≠ Naming.snakeCase m'.metadata.moduleName

/-- A name tells its module, if anything follows it or not. -/
theorem Apart.nameOf_append_ne {m m' : CatalogModule} (h : m.Apart m') (r r' : ResourceConfig)
    (s s' : String) : m.nameOf r ++ s ≠ m'.nameOf r' ++ s' :=
  fun heq => h (Naming.qualifiedName_append_inj heq).1

theorem Apart.name_ne {m m' : CatalogModule} (h : m.Apart m') {e e' : EntityType}
    (he : e ∈ m.entityTypes) (he' : e' ∈ m'.entityTypes) : e.name ≠ e'.name := by
  obtain ⟨r, -, hr⟩ := exists_resource_of_mem he
  obtain ⟨r', -, hr'⟩ := exists_resource_of_mem he'
  rw [hr, hr']
  exact fun heq => h (Naming.qualifiedName_inj.mp heq).1

/-- What is reported about the joins of a module's entity types, as the module's. -/
def ownJoinDiagnostics (m : CatalogModule) (r : JoinResolver) : List Diagnostic :=
  (m.entityTypes.flatMap r.diagnostics).map fun d => { d with metadata := some m.metadata }

/-- The labels of a module's entity types. -/
def ownLabels (m : CatalogModule) (r : JoinResolver) : Labels :=
  Catalog.labelsOf (m.entityTypes.map r.entityType)

theorem ownJoinDiagnostics_agrees {r r' : JoinResolver} (h : r.Agrees r') (m : CatalogModule) :
    m.ownJoinDiagnostics r = m.ownJoinDiagnostics r' := by
  rw [ownJoinDiagnostics, ownJoinDiagnostics, h.diagnostics]

theorem ownLabels_agrees {r r' : JoinResolver} (h : r.Agrees r') (m : CatalogModule) :
    m.ownLabels r = m.ownLabels r' := by
  rw [ownLabels, ownLabels, h.entityType]

end CatalogModule

namespace Catalog

open CatalogModule

/-- Whether no two modules of a batch have one name in snake case. -/
def Distinct (modules : List CatalogModule) : Prop :=
  (modules.map fun m => Naming.snakeCase m.metadata.moduleName).Nodup

variable {modules : List CatalogModule}

theorem Distinct.pairwise (hd : Distinct modules) : modules.Pairwise CatalogModule.Apart := by
  rw [Distinct, List.Nodup, List.pairwise_map] at hd
  exact hd

theorem Distinct.eq_of_nameOf (hd : Distinct modules) {m m' : CatalogModule} (hm : m ∈ modules)
    (hm' : m' ∈ modules) {r r' : ResourceConfig} (h : m'.nameOf r' = m.nameOf r) : m' = m :=
  List.inj_on_of_nodup_map hd hm' hm (Naming.qualifiedName_inj.mp h).1

theorem Distinct.pairwise_zipIdx (hd : Distinct modules) :
    modules.zipIdx.Pairwise fun a b => a.1.Apart b.1 := by
  have hp := hd.pairwise
  rw [← List.zipIdx_map_fst 0 modules] at hp
  exact List.pairwise_map.mp hp

theorem pairwise_place (modules : List CatalogModule) :
    modules.zipIdx.Pairwise fun a b => a.2 ≠ b.2 := by
  have hp : (modules.zipIdx.map Prod.snd).Nodup := by
    rw [List.zipIdx_map_snd]
    exact List.nodup_range'
  exact List.pairwise_map.mp hp

/-! ## Owners -/

/-- The module at a place is the owner of its entity types. -/
theorem owner_of_mem (hd : Distinct modules) {m : CatalogModule} {place : Nat}
    (hm : (m, place) ∈ modules.zipIdx) {e : EntityType} (he : e ∈ m.entityTypes) :
    (Owners.ofModules modules).get? e.name = some place := by
  have hapart : modules.zipIdx.Pairwise fun a b =>
      OrderedMap.Apart (a.1.entityTypes.map fun e => (e.name, a.2))
        (b.1.entityTypes.map fun e => (e.name, b.2)) := by
    refine hd.pairwise_zipIdx.imp ?_
    intro a b hab x hx y hy
    obtain ⟨e, he, rfl⟩ := List.mem_map.mp hx
    obtain ⟨e', he', rfl⟩ := List.mem_map.mp hy
    exact hab.name_ne he he'
  rw [Owners.ofModules, OrderedMap.get?_ofList]
  refine (OrderedMap.lastValue?_flatMap_eq_some_iff hapart).mpr ⟨(m, place), hm, ?_⟩
  -- the name may be there twice, but all entries of the module give its place
  obtain ⟨v, hv⟩ := OrderedMap.lastValue?_isSome
    (List.mem_map_of_mem (f := fun e : EntityType => (e.name, place)) he)
  obtain ⟨e', -, heq⟩ := List.mem_map.mp (OrderedMap.mem_of_lastValue? hv)
  rw [hv, ← (Prod.mk.inj heq).2]

theorem inOwner_of_mem (hd : Distinct modules) {m : CatalogModule} (hm : m ∈ modules)
    {e : EntityType} (he : e ∈ m.entityTypes) {d : Diagnostic} (hde : d.entityType = some e.name) :
    inOwner modules (Owners.ofModules modules) d = { d with metadata := some m.metadata } := by
  obtain ⟨place, hplace⟩ := List.mem_iff_getElem?.mp hm
  have howner := owner_of_mem hd (List.mem_zipIdx_iff_getElem?.mpr hplace) he
  rw [inOwner_eq, hde, Option.bind_some, howner, Option.bind_some, hplace]
  rfl

/-! ## Module by module -/

/-- What is not there for all but one member of a list is there for that one alone. -/
theorem flatMap_eq_of_unique {α β κ : Type} {key : α → κ} {f : α → List β} {a : α} :
    ∀ {l : List α}, l.Pairwise (fun b c => key b ≠ key c) → a ∈ l →
      (∀ b ∈ l, key b ≠ key a → f b = []) → l.flatMap f = f a
  | [], _, ha, _ => absurd ha List.not_mem_nil
  | b :: l, hl, ha, hf => by
      obtain ⟨hb, hl⟩ := List.pairwise_cons.mp hl
      obtain ⟨hfb, hrest⟩ := List.forall_mem_cons.mp hf
      rw [List.flatMap_cons]
      rcases List.mem_cons.mp ha with rfl | ha
      · have hnil : l.flatMap f = [] :=
          List.flatMap_eq_nil_iff.mpr fun c hc => hrest c hc (hb c hc).symm
        rw [hnil, List.append_nil]
      · rw [hfb (hb a ha), flatMap_eq_of_unique hl ha hrest, List.nil_append]

theorem joinDiagnostics_eq (hd : Distinct modules) (force : Bool) :
    joinDiagnostics modules force
      = modules.flatMap fun m => m.ownJoinDiagnostics (resolver modules force) := by
  rw [joinDiagnostics, assembled, List.flatMap_assoc, List.map_flatMap]
  refine List.flatMap_congr fun m hm => List.map_congr_left fun d hdm => ?_
  obtain ⟨e, he, hde⟩ := List.mem_flatMap.mp hdm
  obtain ⟨issue, -, rfl⟩ := List.mem_map.mp hde
  exact inOwner_of_mem hd hm he rfl

/-- The entity types that the module at a place owns are its own. -/
theorem filter_owned (hd : Distinct modules) {m : CatalogModule} {place : Nat}
    (hm : (m, place) ∈ modules.zipIdx) :
    (assembled modules).filter (fun e => (Owners.ofModules modules).get? e.name == some place)
      = m.entityTypes := by
  have hall : assembled modules = modules.zipIdx.flatMap fun a => a.1.entityTypes := by
    rw [assembled, ← List.zipIdx_map_fst 0 modules, List.flatMap_map, List.zipIdx_map_fst]
  rw [hall, List.filter_flatMap]
  refine (flatMap_eq_of_unique (pairwise_place modules) hm fun b hb hne => ?_).trans ?_
  · refine List.filter_eq_nil_iff.mpr fun e he => ?_
    rw [owner_of_mem hd hb he, beq_iff_eq]
    exact fun heq => hne (Option.some.inj heq)
  · refine List.filter_eq_self.mpr fun e he => ?_
    rw [owner_of_mem hd hm he]
    exact beq_self_eq_true _

theorem expectedLabels_eq (hd : Distinct modules) (force : Bool) :
    expectedLabels modules force
      = modules.map fun m => (m, m.ownLabels (resolver modules force)) := by
  have hall : modules.map (fun m => (m, m.ownLabels (resolver modules force)))
      = modules.zipIdx.map fun a => (a.1, a.1.ownLabels (resolver modules force)) := by
    rw [← List.zipIdx_map_fst 0 modules, List.map_map, List.zipIdx_map_fst]
    rfl
  rw [hall, expectedLabels]
  refine List.map_congr_left fun a ha => ?_
  show (a.1, labelsOf (((compile modules force).entityTypes).filter _)) = (a.1, labelsOf _)
  rw [compile_entityTypes, List.filter_map, ← filter_owned hd ha]
  rfl

/-! ## Whose diagnostic -/

/-- Who a diagnostic of a batch belongs to: the one module that configures the resource it is about,
or the module with the label file it is about. -/
inductive Attributed (modules : List CatalogModule) (force : Bool) (d : Diagnostic) : Prop
  | resource {m : CatalogModule} {r : ResourceConfig} :
      m ∈ modules → r ∈ m.config.entityTypes → d.entityType = some (m.nameOf r) →
        d.metadata = some m.metadata →
        (∀ m' ∈ modules, ∀ r' ∈ m'.config.entityTypes, m'.nameOf r' = m.nameOf r → m' = m) →
          Attributed modules force d
  | labelFile {m : CatalogModule} {file : String × Labels} :
      m ∈ modules → file ∈ m.labels.entries →
        d.issue ∈ fileIssues m (m.ownLabels (resolver modules force)) file →
          d.entityType = none → d.metadata = some m.metadata → Attributed modules force d

theorem attributed_of_mem (hd : Distinct modules) {force : Bool} {d : Diagnostic}
    (h : d ∈ (compile modules force).diagnostics) : Attributed modules force d := by
  have hone : ∀ {m r}, m ∈ modules → ∀ m' ∈ modules, ∀ r' ∈ m'.config.entityTypes,
      m'.nameOf r' = m.nameOf r → m' = m :=
    fun hm m' hm' r' _ heq => hd.eq_of_nameOf hm hm' heq
  rw [compile_diagnostics, joinDiagnostics_eq hd, expectedLabels_eq hd, List.mem_append,
    List.mem_append] at h
  rcases h with (h | h) | h
  · obtain ⟨m, hm, h⟩ := List.mem_flatMap.mp h
    obtain ⟨r, hr, h⟩ := List.mem_flatMap.mp h
    obtain ⟨issue, -, rfl⟩ := List.mem_map.mp h
    exact .resource hm hr rfl rfl (hone hm)
  · obtain ⟨m, hm, h⟩ := List.mem_flatMap.mp h
    obtain ⟨d, hdm, rfl⟩ := List.mem_map.mp h
    obtain ⟨e, he, hde⟩ := List.mem_flatMap.mp hdm
    obtain ⟨issue, -, rfl⟩ := List.mem_map.mp hde
    obtain ⟨r, hr, hname⟩ := exists_resource_of_mem he
    exact .resource hm hr (congrArg some hname) rfl (hone hm)
  · obtain ⟨x, hx, h⟩ := List.mem_flatMap.mp h
    obtain ⟨m, hm, rfl⟩ := List.mem_map.mp hx
    have h : d ∈ labelDiagnostics m (m.ownLabels (resolver modules force)) := h
    rw [labelDiagnostics_eq] at h
    obtain ⟨issue, hi, rfl⟩ := List.mem_map.mp h
    obtain ⟨file, hfile, hi⟩ := List.mem_flatMap.mp hi
    exact .labelFile hm hfile hi rfl rfl

end Catalog

end EntityCatalog
