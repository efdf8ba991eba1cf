import EntityCatalog.Proofs.Column.Reached

/-!
# The nodes that inference looks at

Inference looks at more nodes than it comes to: a computed property of which nothing says whether it
is wanted has no column, and nothing below it is looked at, but it is reported.  `lookedAt` lists
the nodes from a property on.  Three things pin the list down.  It has the nodes at the end of some
steps, of which all but the last are steps that inference takes (`mem_lookedBelow_iff`).  It has
them in the order of a walk that comes to a node before what is below it, and to the properties of
an object as they are declared (`pairwise_lookedFrom`).  And it has none twice, where no object
declares a key twice (`Precedes.ne`).
-/

namespace EntityCatalog

/-! ## The list of the nodes -/

/-- The nodes from a property on, where `below` tells those below a node: none if the property asks
to be left out, and itself alone if it is skipped. -/
def lookedFrom (below : Schema → List Reached) (s : Schema) : List Reached :=
  match s.standing with
  | .ignored => []
  | .skippedAsVirtual => [⟨[], s⟩]
  | .kept => ⟨[], s⟩ :: below s

/-- The nodes that are looked at below a node, at most so many steps away and each before those
below it. -/
def lookedBelow : (levels : Nat) → Schema → List Reached
  | 0, _ => []
  | levels + 1, s =>
      match (requestedTag s).1 with
      | .leaf _ => []
      | .object =>
          (s.properties?.getD []).flatMap fun p =>
            (lookedFrom (lookedBelow levels) p.2).map (.under (.property p.1))
      | .array _ =>
          match s.items? with
          | none => []
          | some items => (⟨[], items⟩ :: lookedBelow levels items).map (.under .items)

/-- The nodes that are looked at from a property of the value at a site on. -/
def lookedAt (site : Site) (p : Property) : List Reached :=
  lookedFrom (lookedBelow (site.property p.1).levels) p.2

/-! ## Which nodes they are -/

/-- A step after which inference looks at a node: to a property of an object, unless it asks to be
left out, or to the items of an array. -/
inductive LooksTo (s : Schema) : Step → Schema → Prop
  | property {p : Property} : (requestedTag s).1 = .object → p ∈ s.properties?.getD [] →
      p.2.standing ≠ .ignored → LooksTo s (.property p.1) p.2
  | items {kind : ArrayKind} {items : Schema} : (requestedTag s).1 = .array kind →
      s.items? = some items → LooksTo s .items items

/-- Steps that inference takes from a node, and a look at the end. -/
inductive LooksBelow : Schema → List Step → Schema → Prop
  | last {s s' : Schema} {step : Step} : LooksTo s step s' → LooksBelow s [step] s'
  | step {s s' s'' : Schema} {step : Step} {steps : List Step} :
      StepsTo s step s' → LooksBelow s' steps s'' → LooksBelow s (step :: steps) s''

theorem mem_lookedFrom {below : Schema → List Reached} {s : Schema} {r : Reached} :
    r ∈ lookedFrom below s ↔
      (s.standing ≠ .ignored ∧ r = ⟨[], s⟩) ∨ (s.standing = .kept ∧ r ∈ below s) := by
  rw [lookedFrom]
  cases s.standing with
  | ignored => simp
  | skippedAsVirtual => simp
  | kept => simp

/-- Below a node are the nodes that one step looks at, and those below them to which it goes. -/
theorem mem_lookedBelow_succ {levels : Nat} {s : Schema} {r : Reached} :
    r ∈ lookedBelow (levels + 1) s ↔
      (∃ step s', LooksTo s step s' ∧ r = ⟨[step], s'⟩) ∨
        ∃ step s', StepsTo s step s' ∧ ∃ r' ∈ lookedBelow levels s', r = r'.under step := by
  rw [lookedBelow]
  constructor
  · intro h
    split at h
    · exact absurd h List.not_mem_nil
    · rename_i htag
      obtain ⟨p, hp, hr⟩ := List.mem_flatMap.mp h
      obtain ⟨r', hr', rfl⟩ := List.mem_map.mp hr
      rcases mem_lookedFrom.mp hr' with ⟨hk, rfl⟩ | ⟨hk, hbelow⟩
      · exact Or.inl ⟨_, _, .property htag hp hk, rfl⟩
      · exact Or.inr ⟨_, _, .property htag hp hk, r', hbelow, rfl⟩
    · rename_i kind htag
      split at h
      · exact absurd h List.not_mem_nil
      · rename_i items hitems
        obtain ⟨r', hr', rfl⟩ := List.mem_map.mp h
        rcases List.mem_cons.mp hr' with rfl | hbelow
        · exact Or.inl ⟨_, _, .items htag hitems, rfl⟩
        · exact Or.inr ⟨_, _, .items htag hitems, r', hbelow, rfl⟩
  · rintro (⟨step, s', hstep, rfl⟩ | ⟨step, s', hstep, r', hr', rfl⟩)
    · cases hstep with
      | @property p htag hp hk =>
          rw [htag]
          exact List.mem_flatMap.mpr ⟨p, hp,
            List.mem_map.mpr ⟨⟨[], p.2⟩, mem_lookedFrom.mpr (Or.inl ⟨hk, rfl⟩), rfl⟩⟩
      | items htag hitems =>
          rw [htag]
          dsimp only
          rw [hitems]
          exact List.mem_map.mpr ⟨⟨[], s'⟩, List.mem_cons_self, rfl⟩
    · cases hstep with
      | @property p htag hp hk =>
          rw [htag]
          exact List.mem_flatMap.mpr ⟨p, hp,
            List.mem_map.mpr ⟨r', mem_lookedFrom.mpr (Or.inr ⟨hk, hr'⟩), rfl⟩⟩
      | items htag hitems =>
          rw [htag]
          dsimp only
          rw [hitems]
          exact List.mem_map.mpr ⟨r', List.mem_cons_of_mem _ hr', rfl⟩

/-- The list has the nodes that inference looks at in at most so many steps, and no others. -/
theorem mem_lookedBelow_iff {levels : Nat} {s : Schema} {r : Reached} :
    r ∈ lookedBelow levels s ↔ LooksBelow s r.steps r.schema ∧ r.steps.length ≤ levels := by
  induction levels generalizing s r with
  | zero =>
      refine iff_of_false List.not_mem_nil ?_
      rintro ⟨h, hlength⟩
      cases hsteps : r.steps with
      | nil =>
          rw [hsteps] at h
          cases h
      | cons step steps =>
          rw [hsteps] at hlength
          exact Nat.not_succ_le_zero _ hlength
  | succ levels ih =>
      rw [mem_lookedBelow_succ]
      constructor
      · rintro (⟨step, s', hstep, rfl⟩ | ⟨step, s', hstep, r', hr', rfl⟩)
        · exact ⟨.last hstep, Nat.succ_le_succ (Nat.zero_le levels)⟩
        · obtain ⟨hlooks, hlength⟩ := ih.mp hr'
          exact ⟨.step hstep hlooks, Nat.succ_le_succ hlength⟩
      · obtain ⟨steps, schema⟩ := r
        rintro ⟨h, hlength⟩
        cases h with
        | last hstep => exact Or.inl ⟨_, _, hstep, rfl⟩
        | @step _ s' _ step rest hstep hlooks =>
            have hrest : (⟨rest, schema⟩ : Reached) ∈ lookedBelow levels s' :=
              ih.mpr ⟨hlooks, Nat.le_of_succ_le_succ hlength⟩
            exact Or.inr ⟨step, s', hstep, _, hrest, rfl⟩

theorem LooksBelow.ne_nil {s s' : Schema} {steps : List Step} (h : LooksBelow s steps s') :
    steps ≠ [] := by
  cases h <;> exact List.cons_ne_nil _ _

/-! ## In which order they are -/

/-- One node comes before another in a walk from a node, both given by their steps: it is above the
other, or comes before it below the same node, or comes with a property that is declared before the
one with which the other comes. -/
inductive Precedes : Schema → List Step → List Step → Prop
  | above {s : Schema} {step : Step} {steps : List Step} : Precedes s [] (step :: steps)
  | inside {s s' : Schema} {step : Step} {steps steps' : List Step} : StepsTo s step s' →
      Precedes s' steps steps' → Precedes s (step :: steps) (step :: steps')
  | apart {s : Schema} {p q : Property} {steps steps' : List Step} :
      (requestedTag s).1 = .object → [p, q].Sublist (s.properties?.getD []) →
        Precedes s (.property p.1 :: steps) (.property q.1 :: steps')

theorem Precedes.above_of_ne_nil {s : Schema} {steps : List Step} (h : steps ≠ []) :
    Precedes s [] steps := by
  obtain ⟨step, rest, rfl⟩ := List.exists_cons_of_ne_nil h
  exact .above

/-- The nodes from a property on are in order if those below it are. -/
theorem pairwise_lookedFrom {below : Schema → List Reached} {s : Schema}
    (hbelow : (below s).Pairwise fun r r' => Precedes s r.steps r'.steps)
    (hne : ∀ r ∈ below s, r.steps ≠ []) :
    (lookedFrom below s).Pairwise fun r r' => Precedes s r.steps r'.steps := by
  rw [lookedFrom]
  cases s.standing with
  | ignored => exact List.Pairwise.nil
  | skippedAsVirtual => exact List.pairwise_singleton _ _
  | kept => exact List.pairwise_cons.mpr ⟨fun r hr => .above_of_ne_nil (hne r hr), hbelow⟩

/-- What is in order behind a step is in order in front of it. -/
theorem pairwise_under {s s' : Schema} {step : Step} (hstep : StepsTo s step s')
    {nodes : List Reached} (h : nodes.Pairwise fun r r' => Precedes s' r.steps r'.steps) :
    (nodes.map (Reached.under step)).Pairwise fun r r' => Precedes s r.steps r'.steps :=
  List.pairwise_map.mpr (h.imp fun hprecedes => .inside hstep hprecedes)

theorem ne_nil_of_mem_lookedBelow {levels : Nat} {s : Schema} {r : Reached}
    (h : r ∈ lookedBelow levels s) : r.steps ≠ [] :=
  (mem_lookedBelow_iff.mp h).1.ne_nil

/-- The list is in the order of a walk. -/
theorem pairwise_lookedBelow (levels : Nat) (s : Schema) :
    (lookedBelow levels s).Pairwise fun r r' => Precedes s r.steps r'.steps := by
  induction levels generalizing s with
  | zero => exact List.Pairwise.nil
  | succ levels ih =>
      rw [lookedBelow]
      cases htag : (requestedTag s).1 with
      | leaf _ => exact List.Pairwise.nil
      | object =>
          refine List.pairwise_flatMap.mpr ⟨fun p hp => ?_, ?_⟩
          · have hfrom : (lookedFrom (lookedBelow levels) p.2).Pairwise
                fun r r' => Precedes p.2 r.steps r'.steps :=
              pairwise_lookedFrom (ih p.2) fun r hr => ne_nil_of_mem_lookedBelow hr
            cases hk : p.2.standing with
            | ignored =>
                rw [lookedFrom, hk]
                exact List.Pairwise.nil
            | skippedAsVirtual =>
                rw [lookedFrom, hk]
                exact List.pairwise_singleton _ _
            | kept => exact pairwise_under (.property htag hp hk) hfrom
          · refine List.pairwise_iff_forall_sublist.mpr fun {p q} hpq => ?_
            intro r hr r' hr'
            obtain ⟨x, -, rfl⟩ := List.mem_map.mp hr
            obtain ⟨y, -, rfl⟩ := List.mem_map.mp hr'
            exact .apart htag hpq
      | array kind =>
          dsimp only
          cases hitems : s.items? with
          | none => exact List.Pairwise.nil
          | some items =>
              refine pairwise_under (.items htag hitems) (List.pairwise_cons.mpr ⟨?_, ih items⟩)
              exact fun r hr => .above_of_ne_nil (ne_nil_of_mem_lookedBelow hr)

theorem pairwise_lookedAt (site : Site) (p : Property) :
    (lookedAt site p).Pairwise fun r r' => Precedes p.2 r.steps r'.steps :=
  pairwise_lookedFrom (pairwise_lookedBelow _ p.2) fun _ hr => ne_nil_of_mem_lookedBelow hr

/-! ## That they are different -/

/-- No object at a node or below it declares a key twice. -/
def DistinctKeys (s : Schema) : Prop :=
  ∀ steps s', Reaches s steps s' → ((s'.properties?.getD []).map (·.1)).Nodup

theorem DistinctKeys.of_stepsTo {s s' : Schema} {step : Step} (h : DistinctKeys s)
    (hstep : StepsTo s step s') : DistinctKeys s' :=
  fun steps s'' hreach => h (step :: steps) s'' (.step hstep hreach)

/-- A node does not come before itself. -/
theorem Precedes.ne {s : Schema} {steps steps' : List Step} (h : Precedes s steps steps')
    (hs : DistinctKeys s) : steps ≠ steps' := by
  induction h with
  | above => exact List.cons_ne_nil _ _ |>.symm
  | inside hstep _ ih => exact fun heq => ih (hs.of_stepsTo hstep) (List.cons.inj heq).2
  | @apart s p q _ _ htag hpq =>
      intro heq
      have hkeys : p.1 = q.1 := Step.property.inj (List.cons.inj heq).1
      have hnodup := (hs [] s .refl).sublist (hpq.map (·.1))
      rw [List.map_cons, List.map_cons, hkeys] at hnodup
      exact (List.nodup_cons.mp hnodup).1 List.mem_cons_self

/-- No node is listed twice. -/
theorem nodup_lookedAt (site : Site) {p : Property} (hp : DistinctKeys p.2) :
    ((lookedAt site p).map Reached.steps).Nodup :=
  List.pairwise_map.mpr ((pairwise_lookedAt site p).imp fun h => h.ne hp)

end EntityCatalog
