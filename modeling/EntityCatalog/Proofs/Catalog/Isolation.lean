import EntityCatalog.Proofs.Catalog.Parts
import Mathlib.Data.List.Forall2

/-!
# A failure leaves no trace

A resource that fails is reported and does nothing else.  To say so is to compare two batches, one
with the resource and one without; and since a catalog looks at a module only through what it puts
in, the two are alike in all but the report: `compile_alike` is that, for any two batches whose
modules are `Alike` one by one.

With failures out of the way, every configured resource comes to one thing, an entity type or a
fatal diagnostic, and the catalog lists both in the order of the configuration.
-/

namespace EntityCatalog

/-! ## Failing resources -/

/-- Whether an issue is about a join. -/
def IssueKind.isJoin : IssueKind → Bool
  | .join .. => true
  | _ => false

namespace CatalogModule

/-- Whether a resource fails: its schema is not there, or it cannot be assembled from that. -/
def Fails (m : CatalogModule) (r : ResourceConfig) : Prop :=
  m.schemas.get? r.schema = none ∨
    ∃ schema e, m.schemas.get? r.schema = some schema ∧ r.assemble schema m.config = .error e

theorem fails_iff {m : CatalogModule} {r : ResourceConfig} :
    m.Fails r ↔ ∃ issue, m.assemble r = .error issue := by
  unfold Fails assemble
  cases m.schemas.get? r.schema with
  | none => simp
  | some schema =>
      cases h : r.assemble schema m.config with
      | error e => simp [h, Except.mapError]
      | ok a => simp [h, Except.mapError]

theorem eq_of_assemble_error {m : CatalogModule} {r : ResourceConfig} {issue : Issue}
    (h : m.assemble r = .error issue) :
    issue = schemaIssue r.schema ∨ ∃ e : AssemblyFailure, issue = e.issue := by
  unfold assemble at h
  split at h
  · exact Or.inl (Except.error.inj h).symm
  · cases ha : r.assemble _ m.config with
    | error e =>
        rw [ha] at h
        exact Or.inr ⟨e, (Except.error.inj h).symm⟩
    | ok a =>
        rw [ha] at h
        exact absurd h (by simp [Except.mapError])

theorem kind_of_assemble_error {m : CatalogModule} {r : ResourceConfig} {issue : Issue}
    (h : m.assemble r = .error issue) : issue.kind = .schema ∨ issue.kind = .config := by
  rcases eq_of_assemble_error h with rfl | ⟨e, rfl⟩
  · exact Or.inr rfl
  · exact e.kind_issue

theorem issue_of_assemble_error {m : CatalogModule} {r : ResourceConfig} {issue : Issue}
    (h : m.assemble r = .error issue) :
    issue.severity = .error ∧ issue.kind.isJoin = false := by
  constructor
  · rcases eq_of_assemble_error h with rfl | ⟨e, rfl⟩
    · rfl
    · exact e.severity_issue
  · rcases kind_of_assemble_error h with hk | hk
    · exact congrArg IssueKind.isJoin hk
    · exact congrArg IssueKind.isJoin hk

/-- The diagnostic of a resource that fails: an error that says why, attributed to the name that the
resource would have given an entity type and to its module. -/
structure FailureOf (m : CatalogModule) (r : ResourceConfig) (d : Diagnostic) : Prop where
  severity : d.severity = .error
  entityType : d.entityType = some (m.nameOf r)
  metadata : d.metadata = some m.metadata
  reason : m.assemble r = .error d.issue

theorem failureOf_diagnostic {m : CatalogModule} {r : ResourceConfig} {issue : Issue}
    (h : m.assemble r = .error issue) :
    m.FailureOf r (m.diagnostic (m.nameOf r) issue) :=
  ⟨(issue_of_assemble_error h).1, rfl, rfl, h⟩

theorem resourceDiagnostics_of_error {m : CatalogModule} {r : ResourceConfig} {issue : Issue}
    (h : m.assemble r = .error issue) :
    m.resourceDiagnostics r = [m.diagnostic (m.nameOf r) issue] := by
  rw [resourceDiagnostics, h]
  rfl

theorem entityType?_of_error {m : CatalogModule} {r : ResourceConfig} {issue : Issue}
    (h : m.assemble r = .error issue) : m.entityType? r = none := by
  rw [entityType?, h]

/-! ## Modules that put in the same -/

/-- Two modules that put the same into a catalog, whatever they report about their resources. -/
structure Alike (m m' : CatalogModule) : Prop where
  metadata : m.metadata = m'.metadata
  labels : m.labels = m'.labels
  entityTypes : m.entityTypes = m'.entityTypes
  force : m.config.forceGenerateJoins = m'.config.forceGenerateJoins

theorem Alike.refl (m : CatalogModule) : m.Alike m := ⟨rfl, rfl, rfl, rfl⟩

/-- The module with other resources. -/
def withResources (m : CatalogModule) (rs : List ResourceConfig) : CatalogModule :=
  { m with config := { m.config with entityTypes := rs } }

/-- A module without a resource that fails puts in the same. -/
theorem alike_withResources {m : CatalogModule} {rs₁ rs₂ : List ResourceConfig}
    {r : ResourceConfig} (hm : m.config.entityTypes = rs₁ ++ r :: rs₂) {issue : Issue}
    (h : m.assemble r = .error issue) : m.Alike (m.withResources (rs₁ ++ rs₂)) := by
  refine ⟨rfl, rfl, ?_, rfl⟩
  -- what comes of one resource does not depend on which others there are
  show m.config.entityTypes.filterMap m.entityType? = (rs₁ ++ rs₂).filterMap m.entityType?
  rw [hm, List.filterMap_append, List.filterMap_append,
    List.filterMap_cons_none (entityType?_of_error h)]

theorem diagnostics_withResources {m : CatalogModule} {rs₁ rs₂ : List ResourceConfig}
    {r : ResourceConfig} (hm : m.config.entityTypes = rs₁ ++ r :: rs₂) {issue : Issue}
    (h : m.assemble r = .error issue) :
    ∃ ds₁ ds₂, m.diagnostics = ds₁ ++ m.diagnostic (m.nameOf r) issue :: ds₂ ∧
      (m.withResources (rs₁ ++ rs₂)).diagnostics = ds₁ ++ ds₂ := by
  refine ⟨rs₁.flatMap m.resourceDiagnostics, rs₂.flatMap m.resourceDiagnostics, ?_, ?_⟩
  · rw [diagnostics, hm, List.flatMap_append, List.flatMap_cons, resourceDiagnostics_of_error h]
    rfl
  · exact List.flatMap_append

end CatalogModule

/-! ## Batches that are alike -/

namespace Catalog

open CatalogModule

variable {modules modules' : List CatalogModule}

theorem forall₂_zipIdx (h : List.Forall₂ Alike modules modules') (place : Nat) :
    List.Forall₂ (fun a b => a.1.Alike b.1 ∧ a.2 = b.2) (modules.zipIdx place)
      (modules'.zipIdx place) := by
  induction h generalizing place with
  | nil => exact .nil
  | cons hm _ ih =>
      rw [List.zipIdx_cons, List.zipIdx_cons]
      exact .cons ⟨hm, rfl⟩ (ih (place + 1))

theorem flatMap_eq_of_forall₂ {α β γ : Type} {R : α → β → Prop} {l : List α} {l' : List β}
    (h : List.Forall₂ R l l') {f : α → List γ} {g : β → List γ}
    (hfg : ∀ a b, R a b → f a = g b) : l.flatMap f = l'.flatMap g := by
  induction h with
  | nil => rfl
  | cons hab _ ih => rw [List.flatMap_cons, List.flatMap_cons, hfg _ _ hab, ih]

theorem assembled_alike (h : List.Forall₂ Alike modules modules') :
    assembled modules = assembled modules' :=
  flatMap_eq_of_forall₂ h fun _ _ hm => hm.entityTypes

theorem isForced_alike (h : List.Forall₂ Alike modules modules') (force : Bool) :
    isForced modules force = isForced modules' force := by
  unfold isForced
  congr 1
  induction h with
  | nil => rfl
  | cons hm _ ih => rw [List.any_cons, List.any_cons, hm.force, ih]

theorem resolver_alike (h : List.Forall₂ Alike modules modules') (force : Bool) :
    resolver modules force = resolver modules' force := by
  rw [resolver, resolver, assembled_alike h, isForced_alike h]

theorem owners_alike (h : List.Forall₂ Alike modules modules') :
    Owners.ofModules modules = Owners.ofModules modules' := by
  unfold Owners.ofModules
  congr 1
  refine flatMap_eq_of_forall₂ (forall₂_zipIdx h 0) ?_
  rintro ⟨m, place⟩ ⟨m', _⟩ ⟨hm, rfl⟩
  dsimp only
  rw [hm.entityTypes]

theorem metadata_alike (h : List.Forall₂ Alike modules modules') (place : Nat) :
    (modules[place]?).map metadata = (modules'[place]?).map metadata := by
  induction h generalizing place with
  | nil => rfl
  | cons hm _ ih =>
      cases place with
      | zero => exact congrArg some hm.metadata
      | succ place => exact ih place

theorem inOwner_alike (h : List.Forall₂ Alike modules modules') (owners : Owners) :
    inOwner modules owners = inOwner modules' owners := by
  funext d
  have hmeta : (Option.map metadata ∘ (modules[·]?)) = (Option.map metadata ∘ (modules'[·]?)) :=
    funext (metadata_alike h)
  rw [inOwner_eq, inOwner_eq, Option.map_bind, Option.map_bind, hmeta]

theorem joinDiagnostics_alike (h : List.Forall₂ Alike modules modules') (force : Bool) :
    joinDiagnostics modules force = joinDiagnostics modules' force := by
  rw [joinDiagnostics, joinDiagnostics, assembled_alike h, resolver_alike h, owners_alike h,
    inOwner_alike h]

theorem entityTypes_alike (h : List.Forall₂ Alike modules modules') (force : Bool) :
    (compile modules force).entityTypes = (compile modules' force).entityTypes := by
  rw [compile_entityTypes, compile_entityTypes, assembled_alike h, resolver_alike h]

theorem expectedLabels_alike (h : List.Forall₂ Alike modules modules') (force : Bool) :
    List.Forall₂ (fun a b => a.1.Alike b.1 ∧ a.2 = b.2) (expectedLabels modules force)
      (expectedLabels modules' force) := by
  rw [expectedLabels, expectedLabels, List.forall₂_map_left_iff, List.forall₂_map_right_iff,
    owners_alike h, entityTypes_alike h]
  refine (forall₂_zipIdx h 0).imp ?_
  rintro ⟨m, place⟩ ⟨m', _⟩ ⟨hm, rfl⟩
  exact ⟨hm, rfl⟩

theorem labelDiagnostics_alike {m m' : CatalogModule} (h : m.Alike m') (expected : Labels) :
    labelDiagnostics m expected = labelDiagnostics m' expected := by
  rw [labelDiagnostics, labelDiagnostics, h.labels, h.metadata]

theorem addLocales_alike {m m' : CatalogModule} (h : m.Alike m') (expected : Labels)
    (locales : OrderedMap Labels) :
    addLocales m expected locales = addLocales m' expected locales := by
  rw [addLocales, addLocales, h.labels, h.metadata]

/-- Batches of modules that are alike one by one have the same catalog, apart from what is reported
about resources. -/
theorem compile_alike (h : List.Forall₂ Alike modules modules') (force : Bool) :
    (compile modules force).entityTypes = (compile modules' force).entityTypes ∧
      (compile modules force).labels = (compile modules' force).labels ∧
      (compile modules force).locales = (compile modules' force).locales ∧
      ∃ ds,
        (compile modules force).diagnostics = modules.flatMap CatalogModule.diagnostics ++ ds ∧
        (compile modules' force).diagnostics
          = modules'.flatMap CatalogModule.diagnostics ++ ds := by
  have hexp := expectedLabels_alike h force
  refine ⟨entityTypes_alike h force, ?_, ?_, ?_⟩
  · rw [compile_labels, compile_labels]
    refine List.rel_foldl (P := Eq) ?_ rfl hexp
    rintro all _ rfl ⟨m, labels⟩ ⟨m', _⟩ ⟨-, rfl⟩
    rfl
  · rw [compile_locales, compile_locales]
    refine List.rel_foldl (P := Eq) ?_ rfl hexp
    rintro locales _ rfl ⟨m, labels⟩ ⟨m', _⟩ ⟨hm, rfl⟩
    exact addLocales_alike hm labels locales
  · refine ⟨joinDiagnostics modules force
      ++ (expectedLabels modules force).flatMap fun x => labelDiagnostics x.1 x.2,
      ?_, ?_⟩
    · rw [compile_diagnostics, List.append_assoc]
    · rw [compile_diagnostics, List.append_assoc, joinDiagnostics_alike h]
      congr 2
      refine (flatMap_eq_of_forall₂ hexp ?_).symm
      rintro ⟨m, labels⟩ ⟨m', _⟩ ⟨hm, rfl⟩
      exact labelDiagnostics_alike hm labels

/-! ## Outcomes -/

/-- The configured resources of a batch in order, each with its module. -/
def configured (modules : List CatalogModule) : List (CatalogModule × ResourceConfig) :=
  modules.flatMap fun m => m.config.entityTypes.map fun r => (m, r)

/-- What may come of a configured resource: an entity type under its name if it does not fail, and
the diagnostic of its failure if it does. -/
inductive ComesOf (x : CatalogModule × ResourceConfig) : EntityType ⊕ Diagnostic → Prop
  | entityType {e : EntityType} :
      ¬ x.1.Fails x.2 → e.name = x.1.nameOf x.2 →
        e.id = EntityType.idOf x.1.metadata.moduleName x.2.name → ComesOf x (.inl e)
  | failure {d : Diagnostic} : x.1.Fails x.2 → x.1.FailureOf x.2 d → ComesOf x (.inr d)

/-- What comes of a configured resource: its entity type with the joins resolved, or the diagnostic
of its failure. -/
def outcome (resolver : JoinResolver) (x : CatalogModule × ResourceConfig) :
    EntityType ⊕ Diagnostic :=
  match x.1.assemble x.2 with
  | .ok a => .inl (resolver.entityType a.entityType)
  | .error issue => .inr (x.1.diagnostic (x.1.nameOf x.2) issue)

theorem comesOf_outcome (resolver : JoinResolver) (x : CatalogModule × ResourceConfig) :
    ComesOf x (outcome resolver x) := by
  unfold outcome
  cases h : x.1.assemble x.2 with
  | error issue => exact .failure (fails_iff.mpr ⟨issue, h⟩) (failureOf_diagnostic h)
  | ok a =>
      obtain ⟨hname, hid⟩ := name_of_assemble h
      refine .entityType (fun hf => ?_) hname hid
      obtain ⟨issue, hissue⟩ := fails_iff.mp hf
      rw [h] at hissue
      exact absurd hissue (by simp)

/-- Whether a diagnostic tells of a failure: an error that is not about a join. -/
def isFatal (d : Diagnostic) : Bool := d.issue.isError && !d.issue.kind.isJoin

theorem isFatal_of_warning {d : Diagnostic} (h : d.issue.severity = .warning) :
    isFatal d = false := by
  rw [isFatal, Issue.isError, h]
  rfl

theorem isFatal_of_isJoin {d : Diagnostic} (h : d.issue.kind.isJoin = true) :
    isFatal d = false := by
  rw [isFatal, h, Bool.not_true, Bool.and_false]

theorem filter_resourceDiagnostics (resolver : JoinResolver)
    (x : CatalogModule × ResourceConfig) :
    (x.1.resourceDiagnostics x.2).filter isFatal = (outcome resolver x).getRight?.toList := by
  unfold outcome
  cases h : x.1.assemble x.2 with
  | error issue =>
      obtain ⟨hs, hk⟩ := issue_of_assemble_error h
      have hfatal : isFatal (x.1.diagnostic (x.1.nameOf x.2) issue) = true := by
        show (issue.severity == .error && !issue.kind.isJoin) = true
        rw [hs, hk]
        rfl
      rw [resourceDiagnostics_of_error h, List.filter_cons_of_pos hfatal]
      rfl
  | ok a =>
      obtain ⟨schema, -, ha⟩ := assemble_eq_ok_iff.mp h
      rw [resourceDiagnostics, h]
      refine List.filter_eq_nil_iff.mpr fun d hd => ?_
      obtain ⟨issue, hi, rfl⟩ := List.mem_map.mp hd
      rw [isFatal_of_warning (ResourceConfig.warning_of_mem_issues ha hi)]
      exact Bool.false_ne_true

theorem isJoin_of_mem_diagnostics {resolver : JoinResolver} {e : EntityType} {d : Diagnostic}
    (h : d ∈ resolver.diagnostics e) : d.issue.kind.isJoin = true := by
  obtain ⟨issue, hi, rfl⟩ := List.mem_map.mp h
  rw [JoinResolver.fieldIssues_eq] at hi
  obtain ⟨f, -, hi⟩ := List.mem_flatMap.mp hi
  obtain ⟨j, -, hj⟩ := List.mem_filterMap.mp hi
  unfold JoinResolver.issue? at hj
  split at hj
  · exact absurd hj (by simp)
  · rw [← Option.some.inj hj]
    rfl
  · rw [← Option.some.inj hj]
    rfl

theorem filter_joinDiagnostics (modules : List CatalogModule) (force : Bool) :
    (joinDiagnostics modules force).filter isFatal = [] := by
  refine List.filter_eq_nil_iff.mpr fun d hd => ?_
  obtain ⟨join, hjoin, rfl⟩ := List.mem_map.mp hd
  obtain ⟨e, -, hjoin⟩ := List.mem_flatMap.mp hjoin
  rw [isFatal_of_isJoin (by rw [inOwner_issue]; exact isJoin_of_mem_diagnostics hjoin)]
  exact Bool.false_ne_true

theorem filter_labelDiagnostics (m : CatalogModule) (expected : Labels) :
    (labelDiagnostics m expected).filter isFatal = [] := by
  refine List.filter_eq_nil_iff.mpr fun d hd => ?_
  rw [labelDiagnostics_eq] at hd
  obtain ⟨issue, hi, rfl⟩ := List.mem_map.mp hd
  obtain ⟨file, -, hi⟩ := List.mem_flatMap.mp hi
  rw [isFatal_of_warning (warning_of_mem_fileIssues hi)]
  exact Bool.false_ne_true

/-- The entity types of a catalog are those that come of the configured resources, in order. -/
theorem filterMap_outcome_entityTypes (modules : List CatalogModule) (force : Bool) :
    (configured modules).filterMap (fun x => (outcome (resolver modules force) x).getLeft?)
      = (compile modules force).entityTypes := by
  have hleft : ∀ m r, (outcome (resolver modules force) (m, r)).getLeft?
      = (m.entityType? r).map (resolver modules force).entityType := by
    intro m r
    unfold outcome CatalogModule.entityType?
    dsimp only
    cases m.assemble r with
    | ok a => rfl
    | error issue => rfl
  rw [compile_entityTypes, assembled, configured, List.filterMap_flatMap, List.map_flatMap]
  refine List.flatMap_congr fun m _ => ?_
  rw [List.filterMap_map, CatalogModule.entityTypes, List.map_filterMap]
  exact List.filterMap_congr fun r _ => hleft m r

theorem filterMap_outcome_diagnostics (modules : List CatalogModule) (force : Bool) :
    (configured modules).filterMap (fun x => (outcome (resolver modules force) x).getRight?)
      = (compile modules force).diagnostics.filter isFatal := by
  have hlabels : ((expectedLabels modules force).flatMap fun x =>
      labelDiagnostics x.1 x.2).filter isFatal = [] := by
    rw [List.filter_flatMap]
    exact List.flatMap_eq_nil_iff.mpr fun x _ => filter_labelDiagnostics x.1 x.2
  rw [compile_diagnostics, List.filter_append, List.filter_append, filter_joinDiagnostics, hlabels,
    List.append_nil, List.append_nil, List.filter_flatMap, configured, List.filterMap_flatMap]
  refine List.flatMap_congr fun m _ => ?_
  rw [CatalogModule.diagnostics, List.filter_flatMap, List.filterMap_map,
    List.filterMap_eq_flatMap_toList]
  exact List.flatMap_congr fun r _ =>
    (filter_resourceDiagnostics (resolver modules force) (m, r)).symm

/-! ## Batches without a failure -/

/-- A catalog that is another one but for the failure of a resource. -/
structure FailsOnlyIn (m : CatalogModule) (r : ResourceConfig) (full reduced : Catalog) : Prop where
  entityTypes : full.entityTypes = reduced.entityTypes
  labels : full.labels = reduced.labels
  locales : full.locales = reduced.locales
  diagnostics : ∃ ds₁ d ds₂, full.diagnostics = ds₁ ++ d :: ds₂ ∧
    reduced.diagnostics = ds₁ ++ ds₂ ∧ m.FailureOf r d

/-- **Failures are isolated.**  Taking away a resource that fails changes nothing in a catalog but
that the diagnostic of the failure is gone; and so every configured resource comes to an entity type
or to one fatal diagnostic, and the catalog has them all in the order of the configuration. -/
theorem compile_isolates_failures (modules : List CatalogModule) (force : Bool) :
    (∀ before m after rs₁ r rs₂, modules = before ++ m :: after →
      m.config.entityTypes = rs₁ ++ r :: rs₂ → m.Fails r →
        FailsOnlyIn m r (compile modules force)
          (compile (before ++ m.withResources (rs₁ ++ rs₂) :: after) force)) ∧
      ∃ outcomes, List.Forall₂ ComesOf (configured modules) outcomes ∧
        outcomes.filterMap Sum.getLeft? = (compile modules force).entityTypes ∧
        outcomes.filterMap Sum.getRight? = (compile modules force).diagnostics.filter isFatal := by
  constructor
  · rintro before m after rs₁ r rs₂ rfl hm hf
    obtain ⟨issue, hissue⟩ := fails_iff.mp hf
    have halike : List.Forall₂ Alike (before ++ m :: after)
        (before ++ m.withResources (rs₁ ++ rs₂) :: after) :=
      List.rel_append (List.forall₂_same.mpr fun m _ => Alike.refl m)
        (.cons (alike_withResources hm hissue) (List.forall₂_same.mpr fun m _ => Alike.refl m))
    obtain ⟨hentity, hlabels, hlocales, ds, hfull, hreduced⟩ := compile_alike halike force
    obtain ⟨ds₁, ds₂, hds, hds'⟩ := diagnostics_withResources hm hissue
    refine ⟨hentity, hlabels, hlocales, before.flatMap CatalogModule.diagnostics ++ ds₁, _,
      ds₂ ++ after.flatMap CatalogModule.diagnostics ++ ds, ?_, ?_, failureOf_diagnostic hissue⟩
    · rw [hfull, List.flatMap_append, List.flatMap_cons, hds]
      simp only [List.append_assoc, List.cons_append]
    · rw [hreduced, List.flatMap_append, List.flatMap_cons, hds']
      simp only [List.append_assoc]
  · refine ⟨(configured modules).map (outcome (resolver modules force)), ?_, ?_, ?_⟩
    · rw [List.forall₂_map_right_iff, List.forall₂_same]
      exact fun x _ => comesOf_outcome _ x
    · rw [List.filterMap_map]
      exact filterMap_outcome_entityTypes modules force
    · rw [List.filterMap_map]
      exact filterMap_outcome_diagnostics modules force

/-- Loans, as their schema has them. -/
def loan : ResourceConfig := { name := "loan", source := "loans", schema := "loan.json" }

/-- Requests, which have no schema. -/
def request : ResourceConfig := { name := "request", source := "loans", schema := "request.json" }

/-- A module with a resource that fails in front of one that does not. -/
def circulation : CatalogModule :=
  { config :=
      { metadata := { team := "vega", domain := .circulation, moduleName := "mod-circulation" }
        sources := [.table "loans" "loans"]
        entityTypes := [request, loan] }
    schemas := OrderedMap.ofList
      [("loan.json", .object
        [("type", .string "object"),
         ("properties", .object [("id", .object [("type", .string "string")])])])] }

theorem compile_isolates_failures_circulation :
    circulation.Fails request ∧
      (compile [circulation] false).entityTypes.map (·.name) = ["mod_circulation__loan"] ∧
      FailsOnlyIn circulation request (compile [circulation] false)
        (compile [circulation.withResources [loan]] false) := by
  have hf : circulation.Fails request := Or.inl rfl
  refine ⟨hf, by decide +kernel, ?_⟩
  exact (compile_isolates_failures [circulation] false).1 [] circulation [] [] request [loan]
    rfl rfl hf

end Catalog

end EntityCatalog
