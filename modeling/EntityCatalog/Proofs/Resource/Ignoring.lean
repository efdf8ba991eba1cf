import EntityCatalog.Proofs.Resource.Revising
import EntityCatalog.Proofs.Schema.Pruning

/-!
# Properties that ask to be left out

A property that asks to be left out is as good as absent: taking any of them away, at any depth,
changes neither the entity type nor what is reported nor how assembly fails.  Taking them away is a
revision that nothing shows, not even in what is reported (`restates_pruning`).
-/

namespace EntityCatalog

theorem restates_pruning (drop : List Step → Bool) : Restates (fun _ => false) (pruning drop) := by
  intro steps j
  rw [pruning]
  split
  · rename_i hdrop
    exact ⟨fun _ => (Bool.and_eq_true_iff.mp hdrop).2, fun _ hchange => nomatch hchange⟩
  · refine ⟨nofun, fun change hchange j => ?_⟩
    rw [← Option.some.inj hchange]
    exact ⟨.of_sameMarks ⟨rfl, fun _ _ => rfl⟩, fun _ _ => rfl⟩

namespace ResourceConfig

/-- **A property that asks to be left out is as good as absent.**  Whatever it holds, and wherever
in a schema such properties are taken away, one, some or all of them, the resource has the same
entity type and the same is reported about it, or it fails in the same way. -/
theorem assemble_pruned (r : ResourceConfig) (schema : Json) (m : ModuleConfig)
    (drop : List Step → Bool) : r.assemble (schema.pruned drop) m = r.assemble schema m := by
  have htogether := assemble_revised (restates_pruning drop) r schema m
  rw [Json.pruned_eq_revised]
  rcases htogether.results with ⟨e, e', h, h', rfl⟩ | ⟨a, a', h, h', hsame⟩
  · rw [h, h']
  · obtain ⟨htype, found, found', failures, hlacks, hissues, hissues'⟩ := hsame
    have hequal : a.issues = a'.issues := by
      rw [hissues, hissues', hlacks.eq_of_none]
    obtain ⟨entityType, issues⟩ := a
    rw [h, h', ← show Assembled.mk entityType issues = a' from congrArg₂ Assembled.mk htype hequal]

end ResourceConfig

end EntityCatalog
