import EntityCatalog.EntityType.Decoding
import EntityCatalog.Proofs.Shape.Agreement

/-!
# How many levels a type may have

Types and columns are read within a number of levels, and a value of so many levels is read as it is
within any number more.  The induction is on the bound: what stands in a type or a column has one
level less than it, and is read by the readers of one bound less.
-/

namespace EntityCatalog

open Shape

variable {levels : Nat}

theorem TypeForm.recordsAgree {item item' : Reader TypeForm} {field field' : Reader Field}
    (hitem : ReadersAgree levels item item') (hfield : ReadersAgree levels field field') :
    RecordsAgree levels (TypeForm.record item field) (TypeForm.record item' field') where
  title := rfl
  blank := rfl
  closed := rfl
  slots := .cons (.refl _) (.cons hitem.optional.free (.cons hfield.list.optional.free .nil))

theorem Field.recordsAgree {type type' : Reader DataType} (h : ReadersAgree levels type type') :
    RecordsAgree levels (Field.record type) (Field.record type') where
  title := rfl
  blank := rfl
  closed := rfl
  slots := .cons (.refl _) (.cons h.needed (List.forall₂_same.mpr fun slot _ => .refl slot))

theorem readersAgree_within : ∀ {levels more : Nat}, levels ≤ more →
    ReadersAgree levels (TypeForm.readWithin levels) (TypeForm.readWithin more) ∧
      ReadersAgree levels (Field.readWithin levels) (Field.readWithin more)
  | 0, _, _ =>
      -- no value has no level
      ⟨fun _ j hj => absurd hj (Nat.not_le_of_lt (depth_pos j)),
        fun _ j hj => absurd hj (Nat.not_le_of_lt (depth_pos j))⟩
  | levels + 1, more + 1, h => by
      obtain ⟨htype, hfield⟩ := readersAgree_within (Nat.le_of_succ_le_succ h)
      refine ⟨(TypeForm.recordsAgree htype hfield).read, (Field.recordsAgree ?_).read⟩
      exact fun d j hj => congrArg (Except.bind · TypeForm.type) (htype d j hj)

/-- A type is read within as many levels as it has as it is within more. -/
theorem TypeForm.readWithin_eq (d : Dialect) {j : Json} (h : j.depth ≤ levels) :
    TypeForm.readWithin levels d j = TypeForm.readWithin j.depth d j :=
  ((readersAgree_within h).1 d j (Nat.le_refl _)).symm

end EntityCatalog
