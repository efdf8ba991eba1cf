import EntityCatalog.Proofs.Catalog.Locales
import Mathlib.Data.List.Perm.Basic

/-!
# The order of modules does not matter

A batch is compiled in the order of its modules: the index of joins and the owners are written last
wins, and so are labels and locales.  Where the modules can be told apart in snake case, no name and
no key is written by two of them, so another order writes the same: `compile_perm`.

Nothing is said about the order inside a module.  Two of its resources may have one name, and then
the later one is the one that joins find.
-/

namespace EntityCatalog

namespace Catalog

open CatalogModule

variable {modules modules' : List CatalogModule}

/-! ## Blocks in another order -/

/-- Where of two members of a list one comes to nothing, the order of the list does not matter. -/
theorem flatMap_perm_of_single {α β : Type} {f : α → List β} {l l' : List α} (hp : l.Perm l') :
    l.Pairwise (fun a b => f a = [] ∨ f b = []) → l.flatMap f = l'.flatMap f := by
  induction hp with
  | nil => exact fun _ => rfl
  | cons a _ ih =>
      intro h
      rw [List.flatMap_cons, List.flatMap_cons, ih (List.pairwise_cons.mp h).2]
  | swap a b l =>
      intro h
      obtain ⟨hb, -⟩ := List.pairwise_cons.mp h
      simp only [List.flatMap_cons]
      rcases hb a List.mem_cons_self with hnil | hnil
      · rw [hnil, List.nil_append, List.nil_append]
      · rw [hnil, List.nil_append, List.nil_append]
  | trans hp₁ _ ih₁ ih₂ =>
      intro h
      exact (ih₁ h).trans (ih₂ (h.perm hp₁ Or.symm))

theorem Distinct.perm (hd : Distinct modules) (hp : modules.Perm modules') : Distinct modules' :=
  (hp.map _).nodup_iff.mp hd

/-! ## Joins -/

/-- Joins find the same in another order, because no name is one of two modules. -/
theorem agrees_of_perm (hp : modules.Perm modules') (hd : Distinct modules) (force : Bool) :
    (resolver modules force).Agrees (resolver modules' force) := by
  constructor
  · intro name
    show (EntityIndex.ofEntityTypes (assembled modules)).get? name
      = (EntityIndex.ofEntityTypes (assembled modules')).get? name
    rw [EntityIndex.ofEntityTypes, EntityIndex.ofEntityTypes, OrderedMap.get?_ofList,
      OrderedMap.get?_ofList, assembled, assembled, List.map_flatMap, List.map_flatMap]
    refine OrderedMap.lastValue?_flatMap_perm hp (hd.pairwise.imp ?_) name
    intro m m' hm x hx y hy
    obtain ⟨e, he, rfl⟩ := List.mem_map.mp hx
    obtain ⟨e', he', rfl⟩ := List.mem_map.mp hy
    exact hm.name_ne he he'
  · show (force || modules.any _) = (force || modules'.any _)
    rw [hp.any_eq]

theorem filter_entityTypes_perm (hp : modules.Perm modules') (hd : Distinct modules)
    (force : Bool) (name : String) :
    (compile modules force).entityTypes.filter (·.name = name)
      = (compile modules' force).entityTypes.filter (·.name = name) := by
  rw [compile_entityTypes, compile_entityTypes, (agrees_of_perm hp hd force).entityType,
    List.filter_map, List.filter_map, assembled, assembled, List.filter_flatMap,
    List.filter_flatMap]
  refine congrArg (List.map _) (flatMap_perm_of_single hp (hd.pairwise.imp ?_))
  intro m m' hm
  -- if the one has an entity type of the name, the other has none
  refine or_iff_not_imp_left.mpr fun hne => ?_
  obtain ⟨e, he⟩ := List.exists_mem_of_ne_nil _ hne
  obtain ⟨he, hname⟩ := List.mem_filter.mp he
  refine List.filter_eq_nil_iff.mpr fun e' he' hname' => ?_
  exact hm.name_ne he he' ((of_decide_eq_true hname).trans (of_decide_eq_true hname').symm)

theorem diagnostics_perm (hp : modules.Perm modules') (hd : Distinct modules) (force : Bool) :
    (compile modules force).diagnostics.Perm (compile modules' force).diagnostics := by
  have hagree := agrees_of_perm hp hd force
  rw [compile_diagnostics, compile_diagnostics, joinDiagnostics_eq hd,
    joinDiagnostics_eq (hd.perm hp), expectedLabels_eq hd, expectedLabels_eq (hd.perm hp),
    List.flatMap_map, List.flatMap_map]
  simp only [ownJoinDiagnostics_agrees hagree, ownLabels_agrees hagree]
  exact ((hp.flatMap_right _).append (hp.flatMap_right _)).append (hp.flatMap_right _)

/-! ## Labels -/

theorem get?_labels_perm (hp : modules.Perm modules') (hd : Distinct modules) (force : Bool)
    (key : String) :
    (compile modules force).labels.get? key = (compile modules' force).labels.get? key := by
  rw [labels_eq hd, labels_eq (hd.perm hp), OrderedMap.get?_ofList, OrderedMap.get?_ofList]
  simp only [ownLabels_agrees (agrees_of_perm hp hd force)]
  refine OrderedMap.lastValue?_flatMap_perm hp (hd.pairwise.imp ?_) key
  intro m m' hm x hx y hy heq
  have hkey : m.OwnsKey x.1 := ownsKey_of_mem_ownLabels (List.mem_map_of_mem hx)
  exact hm.not_ownsKey hkey (heq ▸ ownsKey_of_mem_ownLabels (List.mem_map_of_mem hy))

theorem get?_locales_perm (hp : modules.Perm modules') (hd : Distinct modules) (force : Bool)
    (locale : String) :
    ((compile modules force).locales.get? locale).map OrderedMap.get?
      = ((compile modules' force).locales.get? locale).map OrderedMap.get? := by
  have hagree := agrees_of_perm hp hd force
  rw [get?_locales hd, get?_locales (hd.perm hp)]
  simp only [ownLabels_agrees hagree]
  have hparts : (localeTexts modules (·.ownLabels (resolver modules' force)) locale).Perm
      (localeTexts modules' (·.ownLabels (resolver modules' force)) locale) :=
    hp.flatMap_right _
  have hempty : localeTexts modules (·.ownLabels (resolver modules' force)) locale = [] ↔
      localeTexts modules' (·.ownLabels (resolver modules' force)) locale = [] := by
    rw [← List.length_eq_zero_iff, hparts.length_eq, List.length_eq_zero_iff]
  by_cases hnil : localeTexts modules (·.ownLabels (resolver modules' force)) locale = []
  · rw [if_pos hnil, if_pos (hempty.mp hnil)]
  · rw [if_neg hnil, if_neg fun h => hnil (hempty.mpr h), Option.map_some, Option.map_some]
    refine congrArg some (funext fun key => ?_)
    rw [OrderedMap.get?_ofList, OrderedMap.get?_ofList, localeTexts, localeTexts,
      List.flatMap_assoc, List.flatMap_assoc]
    refine OrderedMap.lastValue?_flatMap_perm hp (hd.pairwise.imp ?_) key
    intro m m' hm x hx y hy heq
    obtain ⟨texts, ht, hx⟩ := List.mem_flatMap.mp hx
    obtain ⟨texts', ht', hy⟩ := List.mem_flatMap.mp hy
    have hkey : m.OwnsKey x.1 := ownsKey_of_mem_localeTexts ht (List.mem_map_of_mem hx)
    exact hm.not_ownsKey hkey (heq ▸ ownsKey_of_mem_localeTexts ht' (List.mem_map_of_mem hy))

/-! ## Catalogs -/

/-- Two catalogs that are the same but for the order of what they hold: under each name the same
entity types, the same diagnostics as often, and under each key the same text. -/
structure SameUpToOrder (c c' : Catalog) : Prop where
  entityTypes : ∀ name, c.entityTypes.filter (·.name = name) = c'.entityTypes.filter (·.name = name)
  diagnostics : c.diagnostics.Perm c'.diagnostics
  labels : ∀ key, c.labels.get? key = c'.labels.get? key
  locales : ∀ locale,
    (c.locales.get? locale).map OrderedMap.get? = (c'.locales.get? locale).map OrderedMap.get?

/-- **The order of modules does not matter.**  Where no two modules have one name in snake case,
another order of the modules gives the same catalog up to order; and every diagnostic carries the
metadata of the one module that configures what it is about, or has the label file it is about. -/
theorem compile_perm (hp : modules.Perm modules') (hd : Distinct modules) (force : Bool) :
    SameUpToOrder (compile modules force) (compile modules' force) ∧
      ∀ d ∈ (compile modules force).diagnostics, Attributed modules force d := by
  refine ⟨⟨?_, ?_, ?_, ?_⟩, fun d h => attributed_of_mem hd h⟩
  · exact filter_entityTypes_perm hp hd force
  · exact diagnostics_perm hp hd force
  · exact get?_labels_perm hp hd force
  · exact get?_locales_perm hp hd force

/-- A module with users, whose labels are written in English. -/
def userModule : CatalogModule :=
  { config :=
      { metadata := { team := "corsair", domain := .users, moduleName := "mod-users" }
        sources := [.table "users" "users"]
        entityTypes := [{ name := "user", source := "users", schema := "user.json" }] }
    schemas := OrderedMap.ofList
      [("user.json", .object
        [("type", .string "object"),
         ("properties", .object [("id", .object [("type", .string "string")])])])]
    labels := OrderedMap.ofList [("en", OrderedMap.ofList [("fqm.entityType.user", "People")])] }

/-- A module with loans, each of which joins a user. -/
def loanModule : CatalogModule :=
  { config :=
      { metadata := { team := "vega", domain := .circulation, moduleName := "mod-circulation" }
        sources := [.table "loans" "loans"]
        entityTypes := [{ name := "loan", source := "loans", schema := "loan.json" }] }
    schemas := OrderedMap.ofList
      [("loan.json", .object
        [("type", .string "object"),
         ("properties", .object
           [("userId", .object
             [("type", .string "string"),
              ("x-fqm-joins-to", .array
                [.object
                  [("targetModule", .string "mod-users"), ("targetEntity", .string "user"),
                   ("targetField", .string "id")]])])])])] }

theorem compile_perm_loanModule :
    [loanModule, userModule].Perm [userModule, loanModule] ∧
      Distinct [loanModule, userModule] ∧
      (compile [loanModule, userModule] false).entityTypes.map
          (fun e => e.columns.map fun c => (c.joinsTo.getD []).length) = [[1, 0], [0, 0]] ∧
      SameUpToOrder (compile [loanModule, userModule] false)
        (compile [userModule, loanModule] false) ∧
      ∀ d ∈ (compile [loanModule, userModule] false).diagnostics,
        Attributed [loanModule, userModule] false d := by
  have hp : [loanModule, userModule].Perm [userModule, loanModule] := .swap _ _ _
  have hd : Distinct [loanModule, userModule] := by
    show (List.map _ _).Nodup
    decide +kernel
  exact ⟨hp, hd, by decide +kernel, compile_perm hp hd false⟩

end Catalog

end EntityCatalog
