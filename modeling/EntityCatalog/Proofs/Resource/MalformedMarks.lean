import EntityCatalog.Proofs.Resource.Provenance
import EntityCatalog.Proofs.Resource.Revising

/-!
# Wishes to be left out that are no truth values

A property may say that it is to be left out, by a truth value.  What it says otherwise is found, and
then counts neither as absent nor as a wish.  For most properties there is no difference.  For a
computed property there is: it is skipped if it says nothing, but not if it says something that is
not understood (`assemble_keeps_malformedMark`).  So a mark that is no truth value can be taken away
from the others only; a computed property has it as if it were `false`.

`settled` does the one or the other to some of the properties of a schema, at any depth, and nothing
shows it but that the marks are not found any more (`assemble_settled`).
-/

namespace EntityCatalog

/-! ## Settling the mark of a node -/

/-- Whether a finding is a wish to be left out that is no truth value. -/
def Finding.isMalformedMark : Finding → Bool
  | .malformedIgnore _ _ => true
  | _ => false

namespace Schema

/-- A node that says that it is not to be left out, if it said anything about it. -/
def markedFalse (s : Schema) : Schema :=
  ⟨s.keywords.map fun m => (m.1, if m.1 = "x-fqm-ignore" then .bool false else m.2)⟩

/-- A node without a mark that is no truth value: a computed one says instead that it is not to be
left out, any other says nothing. -/
def settled (s : Schema) : Schema :=
  match s.ignoreMark with
  | .malformed _ => if s.isVirtual then s.markedFalse else s.without ["x-fqm-ignore"]
  | _ => s

theorem keyword?_markedFalse (s : Schema) (key : String) :
    s.markedFalse.keyword? key
      = (s.keyword? key).map fun j => if key = "x-fqm-ignore" then .bool false else j :=
  OrderedMap.lookup_map_value (fun key j => if key = "x-fqm-ignore" then Json.bool false else j)
    s.keywords key

theorem unknownExtensions_markedFalse (s : Schema) :
    s.markedFalse.unknownExtensions = s.unknownExtensions := by
  have hkeys : s.markedFalse.keywords.map (·.1) = s.keywords.map (·.1) := by
    rw [markedFalse, List.map_map]
    rfl
  rw [unknownExtensions, unknownExtensions, extensionKeys, extensionKeys, hkeys]

end Schema

/-- A node whose mark is no truth value, and one with the same keywords but for the mark, which is
kept and has no mark that is found. -/
theorem restated_of_malformed {s s' : Schema} {j : Json} (hmark : s.ignoreMark = .malformed j)
    (hkeywords : ∀ key, key ≠ "x-fqm-ignore" → s.keyword? key = s'.keyword? key)
    (hunknown : s.unknownExtensions = s'.unknownExtensions) (hstanding : s'.standing = .kept)
    (hfound : ∀ property, Extensions.ignoreFindings property s' = []) :
    Restated Finding.isMalformedMark s s' := by
  refine ⟨fun key hkey => hkeywords key (List.ne_of_not_mem_cons hkey), hunknown, ?_,
    fun property => ?_⟩
  · rw [hstanding, Schema.standing, hmark]
  · rw [hfound, Extensions.ignoreFindings, hmark]
    exact ⟨List.nil_sublist _, rfl⟩

theorem keyword?_of_malformed {s : Schema} {j : Json} (hmark : s.ignoreMark = .malformed j) :
    s.keyword? "x-fqm-ignore" = some j := by
  unfold Schema.ignoreMark at hmark
  split at hmark
  · exact absurd hmark (by simp)
  · exact absurd hmark (by simp)
  · rename_i value _ hvalue
    rw [hvalue, Schema.IgnoreMark.malformed.inj hmark]

/-- A node whose mark is no truth value says as much if it says `false` instead. -/
theorem restated_markedFalse {s : Schema} {j : Json} (hmark : s.ignoreMark = .malformed j) :
    Restated Finding.isMalformedMark s s.markedFalse ∧
      ∀ key, key ≠ "x-fqm-ignore" → s.keyword? key = s.markedFalse.keyword? key := by
  have hkeywords : ∀ key, key ≠ "x-fqm-ignore" →
      s.keyword? key = s.markedFalse.keyword? key := by
    intro key hkey
    rw [Schema.keyword?_markedFalse]
    simp only [if_neg hkey, Option.map_id']
  have hset : s.markedFalse.ignoreMark = .set false := by
    rw [Schema.ignoreMark, Schema.keyword?_markedFalse, keyword?_of_malformed hmark]
    rfl
  have hstanding : s.markedFalse.standing = .kept := by
    rw [Schema.standing, hset]
  refine ⟨restated_of_malformed hmark hkeywords (Schema.unknownExtensions_markedFalse s).symm
    hstanding fun property => ?_, hkeywords⟩
  rw [Extensions.ignoreFindings, hset]

/-- A node that is not computed and whose mark is no truth value says as much without the mark. -/
theorem restated_without {s : Schema} {j : Json} (hmark : s.ignoreMark = .malformed j)
    (hstored : s.isVirtual = false) :
    Restated Finding.isMalformedMark s (s.without ["x-fqm-ignore"]) ∧
      ∀ key, key ≠ "x-fqm-ignore" →
        s.keyword? key = (s.without ["x-fqm-ignore"]).keyword? key := by
  have hkeywords : ∀ key, key ≠ "x-fqm-ignore" →
      s.keyword? key = (s.without ["x-fqm-ignore"]).keyword? key := by
    intro key hkey
    rw [Schema.keyword?_without, if_neg (by simpa using hkey)]
  have habsent : (s.without ["x-fqm-ignore"]).ignoreMark = .absent := by
    rw [Schema.ignoreMark, Schema.keyword?_without, if_pos List.mem_cons_self]
  have hstanding : (s.without ["x-fqm-ignore"]).standing = .kept := by
    rw [Schema.standing, habsent, ← Schema.isVirtual_congr (hkeywords _ (by decide)), hstored]
    rfl
  refine ⟨restated_of_malformed hmark hkeywords
    (Schema.unknownExtensions_without (by decide) s).symm hstanding fun property => ?_, hkeywords⟩
  rw [Extensions.ignoreFindings, habsent]

/-- Settling the mark of a node does not show, but in what is found. -/
theorem restated_settled (s : Schema) :
    Restated Finding.isMalformedMark s s.settled ∧
      ∀ key, key ≠ "x-fqm-ignore" → s.keyword? key = s.settled.keyword? key := by
  have hsame : Restated Finding.isMalformedMark s s :=
    .of_sameMarks ⟨rfl, fun _ _ => rfl⟩
  rw [Schema.settled]
  cases hmark : s.ignoreMark with
  | absent => exact ⟨hsame, fun _ _ => rfl⟩
  | set ignored => exact ⟨hsame, fun _ _ => rfl⟩
  | malformed j =>
      dsimp only
      cases hvirtual : s.isVirtual with
      | true => exact restated_markedFalse hmark
      | false => exact restated_without hmark hvirtual

/-! ## Settling the marks in a schema -/

/-- The value of a node with its mark settled. -/
def Json.markSettled : Json → Json
  | .object members => .object (Schema.settled ⟨members⟩).keywords
  | j => j

theorem ofJson_markSettled (j : Json) :
    Schema.ofJson j.markSettled = (Schema.ofJson j).settled := by
  cases j <;> rfl

/-- The revision that settles the marks of the properties that are chosen. -/
def settling (choose : List Step → Bool) : Revision :=
  fun steps _ => some fun j => if choose steps then j.markSettled else j

/-- A schema with the marks of some properties settled: `choose` is told the steps from the root to a
property and chooses. -/
def Json.settled (choose : List Step → Bool) (j : Json) : Json := j.revised (settling choose)

theorem restates_settling (choose : List Step → Bool) :
    Restates Finding.isMalformedMark (settling choose) := by
  intro steps j
  refine ⟨nofun, fun change hchange j => ?_⟩
  rw [← Option.some.inj hchange]
  dsimp only
  split
  · obtain ⟨hrestated, hkeywords⟩ := restated_settled (Schema.ofJson j)
    have hholders : ∀ key ∈ Schema.holders, key ≠ "x-fqm-ignore" := by decide
    rw [ofJson_markSettled]
    exact ⟨hrestated, fun key hkey => hkeywords key (hholders key hkey)⟩
  · exact ⟨.of_sameMarks ⟨rfl, fun _ _ => rfl⟩, fun _ _ => rfl⟩

/-- A computed property has a column if it says that it is not to be left out, or says something
about it that is no truth value. -/
theorem isSome_iff_of_isVirtual {site : Site} {p : Property} {n : Noted (Option Field)}
    (h : fieldAt site p.1 p.2 = .ok n) (hvirtual : p.2.isVirtual = true) :
    n.value.isSome = true ↔
      p.2.ignoreMark = .set false ∨ ∃ j, p.2.ignoreMark = .malformed j := by
  have hkept : n.value.isSome = true ↔ p.2.standing = .kept := by
    constructor
    · intro hsome
      obtain ⟨f, hf⟩ := Option.isSome_iff_exists.mp hsome
      exact standing_of_value h hf
    · intro hk
      obtain ⟨e, findings, t, -, -, hvalue⟩ := fieldAt_kept h hk
      rw [hvalue]
      rfl
  rw [hkept, Schema.standing]
  cases p.2.ignoreMark with
  | absent => simp [hvirtual]
  | set ignored => cases ignored <;> simp
  | malformed j => simp

namespace ResourceConfig

/-- **A mark that is no truth value counts as `false` for a computed property, and not at all for any
other.**  Wherever such marks are settled, one, some or all of them, the resource fails for the same
reason or has the same entity type, and less is reported only by the marks themselves.  So a computed
property has a column, at any depth, if its mark is `false` or is no truth value. -/
theorem assemble_settled (r : ResourceConfig) (schema : Json) (m : ModuleConfig)
    (choose : List Step → Bool) :
    Together Eq (SameReportedLess Finding.isMalformedMark) (r.assemble schema m)
        (r.assemble (schema.settled choose) m) ∧
      ∀ (site : Site) (p : Property) (n : Noted (Option Field)),
        fieldAt site p.1 p.2 = .ok n → p.2.isVirtual = true →
          (n.value.isSome = true ↔
            p.2.ignoreMark = .set false ∨ ∃ j, p.2.ignoreMark = .malformed j) :=
  ⟨assemble_revised (restates_settling choose) r schema m,
    fun _ _ _ h hvirtual => isSome_iff_of_isVirtual h hvirtual⟩

/-- Users with a number that is computed, and with a mark for it. -/
def totalSchema (mark : List (String × Json)) : Json :=
  .object
    [("type", .string "object"),
     ("properties", .object
       [("id", .object [("type", .string "string")]),
        ("total", .object
          ([("type", .string "number"), ("folio:isVirtual", .bool true)] ++ mark))])]

/-- A computed property has a column because of a mark that is no truth value, and has none without
it. -/
theorem assemble_keeps_malformedMark :
    (user.assemble (totalSchema [("x-fqm-ignore", .string "yes")]) users).toOption.map
        (fun a => a.entityType.columns.map (·.name)) = some ["id", "total", "jsonb"] ∧
      (user.assemble (totalSchema []) users).toOption.map
        (fun a => a.entityType.columns.map (·.name)) = some ["id", "jsonb"] := by
  decide +kernel

end ResourceConfig

end EntityCatalog
