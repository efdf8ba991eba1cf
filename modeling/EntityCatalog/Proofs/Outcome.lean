/-!
# What fails

Many statements are about failing alone: which of several reasons is given, or that two computations
fail alike.  `failure?` is the reason, read off a result, so such a statement is an equation between
two options and does not speak of what is made.  `Together` compares two computations altogether:
both fail or both succeed, and what they give is related.
-/

namespace EntityCatalog

variable {ε ε' α β : Type}

/-- What makes a computation fail, if something does. -/
def failure? : Except ε α → Option ε
  | .ok _ => none
  | .error e => some e

theorem failure?_map (f : α → β) (x : Except ε α) : failure? (x.map f) = failure? x := by
  cases x <;> rfl

theorem failure?_bind (f : α → Except ε β) (x : Except ε α) :
    failure? (x.bind f)
      = match x with
        | .ok a => failure? (f a)
        | .error e => some e := by
  cases x <;> rfl

theorem failure?_eq_some_iff {x : Except ε α} {e : ε} : failure? x = some e ↔ x = .error e := by
  cases x with
  | error e' =>
      exact ⟨fun h => congrArg _ (Option.some.inj h), fun h => congrArg _ (Except.error.inj h)⟩
  | ok a => exact ⟨nofun, nofun⟩

theorem failure?_eq_none_iff {x : Except ε α} : failure? x = none ↔ ∃ a, x = .ok a := by
  cases x with
  | error e => exact ⟨nofun, fun ⟨_, h⟩ => nomatch h⟩
  | ok a => exact ⟨fun _ => ⟨a, rfl⟩, fun _ => rfl⟩

/-- A computation that gives a value is known from what is asked of the value. -/
theorem exists_ok_of_toOption {x : Except ε α} {f : α → β} {b : β}
    (h : x.toOption.map f = some b) : ∃ a, x = .ok a ∧ f a = b := by
  cases x with
  | error e => exact nomatch h
  | ok a => exact ⟨a, rfl, Option.some.inj h⟩

/-- Two computations that fail or succeed together, for related reasons or with related results. -/
inductive Together (S : ε → ε' → Prop) (R : α → β → Prop) : Except ε α → Except ε' β → Prop
  | failed {e : ε} {e' : ε'} : S e e' → Together S R (.error e) (.error e')
  | made {a : α} {b : β} : R a b → Together S R (.ok a) (.ok b)

theorem Together.results {S : ε → ε' → Prop} {R : α → β → Prop} {x : Except ε α} {y : Except ε' β}
    (h : Together S R x y) :
    (∃ e e', x = .error e ∧ y = .error e' ∧ S e e') ∨ ∃ a b, x = .ok a ∧ y = .ok b ∧ R a b := by
  cases h with
  | failed he => exact Or.inl ⟨_, _, rfl, rfl, he⟩
  | made hr => exact Or.inr ⟨_, _, rfl, rfl, hr⟩

theorem Together.refl {S : ε → ε → Prop} {R : α → α → Prop} (hS : ∀ e, S e e) (hR : ∀ a, R a a)
    (x : Except ε α) : Together S R x x := by
  cases x with
  | error e => exact .failed (hS e)
  | ok a => exact .made (hR a)

section Steps

variable {α' β' : Type} {S : ε → ε' → Prop} {R : α → β → Prop} {R' : α' → β' → Prop}
  {x : Except ε α} {y : Except ε' β}

theorem Together.map (h : Together S R x y) {f : α → α'} {g : β → β'}
    (hR : ∀ a b, R a b → R' (f a) (g b)) : Together S R' (x.map f) (y.map g) := by
  cases h with
  | failed he => exact .failed he
  | made hr => exact .made (hR _ _ hr)

/-- What goes on from related results in related ways is related. -/
theorem Together.bind (h : Together S R x y) {f : α → Except ε α'} {g : β → Except ε' β'}
    (hR : ∀ a b, R a b → Together S R' (f a) (g b)) : Together S R' (x.bind f) (y.bind g) := by
  cases h with
  | failed he => exact .failed he
  | made hr => exact hR _ _ hr

end Steps

end EntityCatalog
