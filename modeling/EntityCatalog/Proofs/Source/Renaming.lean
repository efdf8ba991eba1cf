import EntityCatalog.Config.Basic
import EntityCatalog.Proofs.OrderedMap
import EntityCatalog.Proofs.Source.Chain

/-!
# Sources renamed to their views

A module that is loaded has every source renamed to the view that stands for it among all modules.
Its own renames stay, but for those of declared names, and a chain never looks such a name up: it
ends there.  So two maps that agree on the names without a source have the same chains
(`follow_congr`), whatever else they hold, and a view that happens to be called like a source or a
rename of the module leads no chain elsewhere.

What the renaming does change is the target.  `get?_viewNames` says whose view a name stands for:
where several sources have the name, a key resolves to the first of them and reads the view of the
last.
-/

namespace EntityCatalog

variable {sources : List DeclaredSource} {renames renames' : OrderedMap String}

/-! ## Renames of declared names -/

/-- Two maps with the same renames for the names that no source has. -/
def AgreeOnUndeclared (sources : List DeclaredSource) (renames renames' : OrderedMap String) :
    Prop :=
  ∀ name, ¬ IsDeclared sources name → renames'.get? name = renames.get? name

theorem AgreeOnUndeclared.renamedTo_eq (h : AgreeOnUndeclared sources renames renames') :
    RenamedTo sources renames' = RenamedTo sources renames := by
  funext name next
  refine propext (and_congr_right fun hnot => ?_)
  rw [h name hnot]

theorem AgreeOnUndeclared.leadsTo_eq (h : AgreeOnUndeclared sources renames renames') :
    LeadsTo sources renames' = LeadsTo sources renames := by
  rw [LeadsTo, LeadsTo, h.renamedTo_eq]

theorem AgreeOnUndeclared.chainVerdict (h : AgreeOnUndeclared sources renames renames')
    {start : String} {e : ChainEnd} (hverdict : ChainVerdict sources renames start e) :
    ChainVerdict sources renames' start e := by
  cases hverdict with
  | declared hlead hs =>
      rw [← h.leadsTo_eq] at hlead
      exact .declared hlead hs
  | undeclared hlead hnot hnone =>
      rw [← h.leadsTo_eq] at hlead
      exact .undeclared hlead hnot ((h _ hnot).trans hnone)
  | endless hnext =>
      rw [← h.leadsTo_eq, ← h.renamedTo_eq] at hnext
      exact .endless hnext

/-- Chains are a matter of the renames of names that no source has. -/
theorem follow_congr (h : AgreeOnUndeclared sources renames renames') (key : String) :
    follow sources renames' [] key = follow sources renames [] key :=
  follow_eq_iff.mpr (h.chainVerdict (follow_eq_iff.mp rfl))

/-! ## The views of a module -/

theorem lookup_map_find? {α β : Type} (f : α → String) (g : α → β) (as : List α) (key : String) :
    (as.map fun a => (f a, g a)).lookup key = (as.find? (f · == key)).map g := by
  induction as with
  | nil => rfl
  | cons a as ih =>
      rw [List.map_cons, List.lookup_cons, List.find?_cons, ih, Bool.beq_comm]
      cases f a == key <;> rfl

/-- The last source with a name. -/
def lastDeclared? (sources : List DeclaredSource) (name : String) : Option DeclaredSource :=
  sources.reverse.find? (·.name == name)

/-- A name stands for the view of the last source that has it. -/
theorem get?_viewNames (sources : List DeclaredSource) (m : ModuleMetadata) (name : String) :
    (viewNames sources m).get? name = (lastDeclared? sources name).map (·.viewName m) := by
  rw [viewNames, OrderedMap.get?_ofList, OrderedMap.lastValue?, ← List.map_reverse,
    lookup_map_find?]
  rfl

theorem isDeclared_iff_lastDeclared? {name : String} :
    IsDeclared sources name ↔ ∃ s, lastDeclared? sources name = some s := by
  have hreverse : IsDeclared sources name ↔ IsDeclared sources.reverse name := by
    simp [IsDeclared]
  rw [hreverse, isDeclared_iff]
  rfl

/-- Where no two sources share a name, the last with a name is the first. -/
theorem eq_of_lastDeclared? {name : String} {s t : DeclaredSource}
    (hd : (sources.map (·.name)).Nodup) (hs : declared? sources name = some s)
    (ht : lastDeclared? sources name = some t) : t = s := by
  have hmem : t ∈ sources := List.mem_reverse.mp (List.mem_of_find?_eq_some ht)
  have hreverse : declared? sources.reverse name = some t := ht
  have hname : t.name = s.name := by
    rw [name_of_declared? hs, name_of_declared? hreverse]
  exact List.inj_on_of_nodup_map hd hmem (List.mem_of_find?_eq_some hs) hname

theorem get?_withViewNames (c : ModuleConfig) (name : String) :
    c.withViewNames.sourceMap.get? name
      = ((viewNames c.sources c.metadata).get? name).or (c.sourceMap.get? name) := by
  rw [ModuleConfig.withViewNames, OrderedMap.extend, OrderedMap.get?_insertAll,
    OrderedMap.lastValue?_of_nodup (viewNames c.sources c.metadata).distinct]
  rfl

/-- No rename is new for a name that no source has. -/
theorem agreeOnUndeclared_withViewNames (c : ModuleConfig) :
    AgreeOnUndeclared c.sources c.sourceMap c.withViewNames.sourceMap := by
  intro name hnot
  have hnone : lastDeclared? c.sources name = none := by
    refine Option.eq_none_iff_forall_ne_some.mpr fun s hs => hnot ?_
    exact isDeclared_iff_lastDeclared?.mpr ⟨s, hs⟩
  rw [get?_withViewNames, get?_viewNames, hnone, Option.map_none, Option.none_or]

/-! ## Targets -/

/-- How a source that a key resolves to is changed by the renaming: it has the view of the declared
source in the place of its target, and nothing else is different. -/
structure ReadsView (c : ModuleConfig) (key : String) (before after : EntitySource) : Prop where
  kind : after.kind = before.kind
  sourceAlias : before.sourceAlias = key ∧ after.sourceAlias = key
  /-- The key leads to a declared name as before, and the target is what the views have for it.
  This is the view of the last source with the name, the same as the first if there are not two. -/
  target : ∃ name s t, LeadsTo c.sources c.sourceMap key name ∧
    LeadsTo c.sources c.withViewNames.sourceMap key name ∧
    c.sources.find? (·.name == name) = some s ∧
    after.target = (viewNames c.sources c.metadata).get? name ∧
    (viewNames c.sources c.metadata).get? name = some (t.viewName c.metadata) ∧
    c.sources.reverse.find? (·.name == name) = some t ∧
    ((c.sources.map (·.name)).Nodup → t = s)

/-- **Renaming the sources changes what is read and not what resolves.**  For every key there is the
same failure, or a source under the same alias, as without the views; and this reads the view that
they have for the declared name which the key leads to, whatever the module's own renames are. -/
theorem resolveSource_withViewNames (c : ModuleConfig) (key : String) :
    Together Eq (ReadsView c key) (resolveSource key c.sources c.sourceMap)
      (resolveSource key c.withViewNames.sources c.withViewNames.sourceMap) := by
  have hagree := agreeOnUndeclared_withViewNames c
  have hfollow : follow c.withViewNames.sources c.withViewNames.sourceMap [] key
      = follow c.sources c.sourceMap [] key := follow_congr hagree key
  rw [resolveSource, resolveSource, hfollow]
  cases hend : follow c.sources c.sourceMap [] key with
  | undeclared => exact .failed rfl
  | endless => exact .failed rfl
  | declared s =>
      refine .made ⟨rfl, ⟨rfl, rfl⟩, ?_⟩
      cases follow_eq_iff.mp hend with
      | @declared name _ hlead hs =>
          obtain ⟨t, ht⟩ := isDeclared_iff_lastDeclared?.mp (isDeclared_iff.mpr ⟨s, hs⟩)
          have hview : (viewNames c.sources c.metadata).get? name
              = some (t.viewName c.metadata) := by
            rw [get?_viewNames, ht, Option.map_some]
          have htarget : c.withViewNames.sourceMap.get? s.name = some (t.viewName c.metadata) := by
            rw [name_of_declared? hs, get?_withViewNames, hview, Option.some_or]
          have hlead' : LeadsTo c.sources c.withViewNames.sourceMap key name := by
            rw [hagree.leadsTo_eq]
            exact hlead
          refine ⟨name, s, t, hlead, hlead', hs, ?_, hview, ht,
            fun hd => eq_of_lastDeclared? hd hs ht⟩
          dsimp only
          rw [htarget, hview, Option.getD_some]

/-- A module with two sources of one name, and a rename that is called like the view of one. -/
def patronModule : ModuleConfig :=
  { metadata := { team := "thor", domain := .users, moduleName := "mod-users" }
    sources := [.table "users" "users", .table "users" "users_archive"]
    sourceMap := OrderedMap.ofList
      [("patrons", "users"), ("src__users__users__users_archive", "patrons")] }

example :
    (resolveSource "patrons" patronModule.withViewNames.sources
      patronModule.withViewNames.sourceMap).toOption
      = some
        { kind := .db, sourceAlias := "patrons"
          target := some "src__users__users__users_archive" } := by
  decide +kernel

end EntityCatalog
