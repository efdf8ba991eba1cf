import EntityCatalog.Uuid.Basic
import Mathlib.Data.List.Basic

/-!
# A printed identifier is read back

Of the four layouts in which an identifier is read only one is printed, and a text in it is told from
the others by its size alone.  What is left is that the hyphens cut the text where the digits were
cut, which needs no more than that a digit is no hyphen.
-/

namespace EntityCatalog.Uuid

/-! ## Characters -/

theorem digit?_digitChar (d : Fin 16) : digit? (digitChar d) = some d := by
  revert d
  decide

theorem digitChar_ne_hyphen (d : Fin 16) : digitChar d ≠ '-' := by
  revert d
  decide

theorem utf8Size_digitChar (d : Fin 16) : (digitChar d).utf8Size = 1 := by
  revert d
  decide

theorem size_cons (c : Char) (cs : List Char) : size (c :: cs) = c.utf8Size + size cs := by
  have hcons : String.ofList (c :: cs) = String.singleton c ++ String.ofList cs :=
    String.toList_inj.mp (by simp)
  rw [size, hcons, String.utf8ByteSize_append, String.utf8ByteSize_singleton, size]

theorem size_eq_length {cs : List Char} (h : ∀ c ∈ cs, c.utf8Size = 1) : size cs = cs.length := by
  induction cs with
  | nil => rfl
  | cons c cs ih =>
      obtain ⟨hc, hcs⟩ := List.forall_mem_cons.mp h
      rw [size_cons, hc, ih hcs, List.length_cons, Nat.add_comm]

/-! ## Groups -/

theorem groups_ne_nil (cs : List Char) : groups cs ≠ [] := by
  cases cs with
  | nil => exact List.cons_ne_nil _ _
  | cons c cs =>
      rw [groups]
      split
      · exact List.cons_ne_nil _ _
      · split
        · exact List.cons_ne_nil _ _
        · exact List.cons_ne_nil _ _

theorem groups_append_hyphen {g : List Char} (hg : '-' ∉ g) (rest : List Char) :
    groups (g ++ '-' :: rest) = g :: groups rest := by
  induction g with
  | nil =>
      rw [List.nil_append, groups]
      cases hrest : groups rest with
      | nil => exact absurd hrest (groups_ne_nil rest)
      | cons first others => rfl
  | cons c g ih =>
      obtain ⟨hc, hg⟩ := not_or.mp (List.mem_cons.not.mp hg)
      rw [List.cons_append, groups, ih hg]
      exact if_neg (Ne.symm hc)

theorem groups_of_not_mem {g : List Char} (hg : '-' ∉ g) : groups g = [g] := by
  induction g with
  | nil => rfl
  | cons c g ih =>
      obtain ⟨hc, hg⟩ := not_or.mp (List.mem_cons.not.mp hg)
      rw [groups, ih hg]
      exact if_neg (Ne.symm hc)

/-- The groups of digits, without the hyphens. -/
def cut (cs : List Char) : List (List Char) :=
  [cs.take 8, (cs.drop 8).take 4, (cs.drop 12).take 4, (cs.drop 16).take 4, cs.drop 20]

theorem groups_grouped {cs : List Char} (h : '-' ∉ cs) : groups (grouped cs) = cut cs := by
  have htake : ∀ n, '-' ∉ cs.take n := fun n hm => h (List.mem_of_mem_take hm)
  have hdrop : ∀ n, '-' ∉ cs.drop n := fun n hm => h (List.mem_of_mem_drop hm)
  have hmid : ∀ m n, '-' ∉ (cs.drop n).take m := fun m n hm => hdrop n (List.mem_of_mem_take hm)
  rw [grouped]
  simp only [List.append_assoc, List.cons_append]
  rw [groups_append_hyphen (htake 8), groups_append_hyphen (hmid 4 8),
    groups_append_hyphen (hmid 4 12), groups_append_hyphen (hmid 4 16),
    groups_of_not_mem (hdrop 20), cut]

theorem flatten_cut (cs : List Char) : (cut cs).flatten = cs := by
  have hstep : ∀ m n, (cs.drop n).take m ++ cs.drop (n + m) = cs.drop n := by
    intro m n
    rw [← List.drop_drop, List.take_append_drop]
  calc (cut cs).flatten
      = cs.take 8 ++ ((cs.drop 8).take 4 ++ ((cs.drop 12).take 4
          ++ ((cs.drop 16).take 4 ++ cs.drop 20))) := by simp [cut]
    _ = cs.take 8 ++ cs.drop 8 := by rw [hstep 4 16, hstep 4 12, hstep 4 8]
    _ = cs := List.take_append_drop 8 cs

theorem mem_grouped {cs : List Char} {c : Char} (h : c ∈ grouped cs) : c ∈ cs ∨ c = '-' := by
  have hflat := flatten_cut cs
  rw [← hflat]
  simp only [grouped, List.mem_append, List.mem_cons] at h
  simp only [cut, List.mem_flatten, List.mem_cons, List.not_mem_nil, or_false]
  grind

theorem length_grouped {cs : List Char} (h : cs.length = 32) : (grouped cs).length = 36 := by
  simp only [grouped, List.length_append, List.length_cons, List.length_take, List.length_drop, h]
  decide

/-! ## Reading -/

theorem filterMap_digit? (ds : List (Fin 16)) : (ds.map digitChar).filterMap digit? = ds := by
  have hdigit : digit? ∘ digitChar = some := funext digit?_digitChar
  rw [List.filterMap_map, hdigit, List.filterMap_some]

theorem firstForeign?_grouped (ds : List (Fin 16)) :
    firstForeign? (grouped (ds.map digitChar)) = none := by
  refine List.find?_eq_none.mpr fun x hx => ?_
  have hmem : x.1 ∈ grouped (ds.map digitChar) := List.fst_mem_of_mem_zipIdx hx
  show ¬ ((digit? x.1).isNone && x.1 ≠ '-') = true
  rcases mem_grouped hmem with hmem | hhyphen
  · obtain ⟨d, -, hd⟩ := List.mem_map.mp hmem
    rw [← hd, digit?_digitChar]
    exact Bool.false_ne_true
  · simp [hhyphen]

theorem firstMisfit?_cut {cs : List Char} (h : cs.length = 32) (total : Nat) :
    firstMisfit? total (cut cs) = none := by
  simp [firstMisfit?, cut, groupLengths, h]

/-- **A printed identifier is read back as it was.** -/
theorem parse_render (u : Uuid) : parse u.render = .ok u := by
  have hlen : (u.digits.map digitChar).length = 32 := by rw [List.length_map, u.length_digits]
  have hhyphen : '-' ∉ u.digits.map digitChar := by
    intro h
    obtain ⟨d, -, hd⟩ := List.mem_map.mp h
    exact digitChar_ne_hyphen d hd
  have hsize : size (grouped (u.digits.map digitChar)) = groupedSize := by
    rw [size_eq_length, length_grouped hlen, groupedSize]
    intro c hc
    rcases mem_grouped hc with hc | rfl
    · obtain ⟨d, -, rfl⟩ := List.mem_map.mp hc
      exact utf8Size_digitChar d
    · decide
  have hinner : inner (grouped (u.digits.map digitChar))
      = ⟨grouped (u.digits.map digitChar), 0, false⟩ := by
    rw [inner, if_pos hsize, Body.groups, if_pos hsize]
  have hdigits : (cut (u.digits.map digitChar)).flatten.filterMap digit? = u.digits := by
    rw [flatten_cut, filterMap_digit?]
  have htext : u.render.toList = grouped (u.digits.map digitChar) := String.toList_ofList
  simp only [parse, htext, hinner, hsize, firstForeign?_grouped, groups_grouped hhyphen,
    firstMisfit?_cut hlen, hdigits]
  rw [if_neg (by decide), if_neg (by simp), if_neg (by simp [cut]), dif_pos u.length_digits]

end EntityCatalog.Uuid
