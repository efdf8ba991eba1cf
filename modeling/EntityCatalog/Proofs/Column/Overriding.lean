import EntityCatalog.Column.Edit
import EntityCatalog.Proofs.EntityType.Written
import EntityCatalog.Proofs.Shape.Reading

/-!
# Columns that are written over

Members are written over a column in its JSON form, and what comes of it is read as a column again.
The order of the members is that of the column, with new ones behind, and it is the order in which
they are read: where two members are refused, the first of them is reported.

Two columns that agree but for the expressions that queries compare with (`Field.bare`) stay so when
the same members are written over both, and one of them is refused where the other is.  The reason
is the same too, unless it may be one of these two expressions that is refused: their members stand
before others in a column that has them, and behind all in one that has not.
-/

namespace EntityCatalog

open Shape
open OrderedMap (lastValue?)

/-! ## Members -/

theorem membersDepth_le_iff {members : List (String × Json)} {n : Nat} :
    Json.membersDepth members ≤ n ↔ ∀ m ∈ members, m.2.depth ≤ n := by
  induction members with
  | nil => exact ⟨fun _ _ hm => absurd hm List.not_mem_nil, fun _ => Nat.zero_le _⟩
  | cons m members ih =>
      obtain ⟨key, j⟩ := m
      rw [Json.membersDepth, Nat.max_le, ih, List.forall_mem_cons]

theorem filter_member (p : String → Bool) (name : String) (j : Json) :
    (member name j).filter (fun m => p m.1) = if p name then member name j else [] := by
  rw [member, List.filter_cons, List.filter_nil]

theorem filter_member? (p : String → Bool) (name : String) (j : Option Json) :
    (member? name j).filter (fun m => p m.1) = if p name then member? name j else [] := by
  cases j with
  | none => exact (ite_self _).symm
  | some j => exact filter_member p name j

theorem filter_member_unless (p : String → Bool) (c : Bool) (name : String) (j : Json) :
    (if c then [] else member name j).filter (fun m => p m.1)
      = if p name then (if c then [] else member name j) else [] := by
  cases c with
  | true => exact (ite_self _).symm
  | false => exact filter_member p name j

theorem findSome?_filter {α β : Type} {p : α → Bool} {f : α → Option β} {l : List α}
    (h : ∀ a ∈ l, p a = false → f a = none) : (l.filter p).findSome? f = l.findSome? f := by
  induction l with
  | nil => rfl
  | cons a l ih =>
      obtain ⟨ha, hl⟩ := List.forall_mem_cons.mp h
      rw [List.filter_cons, List.findSome?_cons]
      split
      · rw [List.findSome?_cons, ih hl]
      · rename_i hp
        rw [ha (Bool.not_eq_true _ ▸ hp), ih hl]

/-- The members with the expressions that queries compare with. -/
def comparisonMembers : List String := ["filterValueGetter", "valueFunction"]

/-- A type of so many levels at most. -/
def DataType.readWithin (levels : Nat) : Reader DataType :=
  fun d j => (TypeForm.readWithin levels d j).bind TypeForm.type

namespace Field

/-- The column without the expressions that queries compare with. -/
def bare (f : Field) : Field := { f with filterValueGetter := none, valueFunction := none }

theorem members_bare (f : Field) :
    f.bare.members = f.members.filter fun m => !comparisonMembers.contains m.1 := by
  rw [members, members, ColumnInfo.members, ColumnInfo.members]
  simp only [List.filter_append, filter_member (fun name => !comparisonMembers.contains name),
    filter_member? (fun name => !comparisonMembers.contains name),
    filter_member_unless (fun name => !comparisonMembers.contains name)]
  rfl

/-- The members with the expressions that queries compare with hold texts. -/
theorem exists_text_of_comparison {f : Field} {m : String × Json} (hm : m ∈ f.members)
    (hkey : m.1 ∈ comparisonMembers) : ∃ s, m.2 = .string s := by
  have hfilter : m ∈ f.members.filter fun m => comparisonMembers.contains m.1 :=
    List.mem_filter.mpr ⟨hm, List.contains_iff_mem.mpr hkey⟩
  rw [members, ColumnInfo.members] at hfilter
  simp only [List.filter_append, filter_member comparisonMembers.contains,
    filter_member? comparisonMembers.contains, filter_member_unless comparisonMembers.contains]
    at hfilter
  have htexts : m ∈ member? "filterValueGetter" (f.filterValueGetter.map .string)
      ++ member? "valueFunction" (f.valueFunction.map .string) := by
    simpa [comparisonMembers] using hfilter
  rcases List.mem_append.mp htexts with h | h
  · cases hf : f.filterValueGetter with
    | none =>
        rw [hf] at h
        exact absurd h List.not_mem_nil
    | some s =>
        rw [hf] at h
        exact ⟨s, congrArg Prod.snd (List.mem_singleton.mp h)⟩
  · cases hf : f.valueFunction with
    | none =>
        rw [hf] at h
        exact absurd h List.not_mem_nil
    | some s =>
        rw [hf] at h
        exact ⟨s, congrArg Prod.snd (List.mem_singleton.mp h)⟩

theorem fills_members_self (f : Field) :
    ∃ type, Fills (Field.record type).slots f.members (Field.record type).blank f := by
  obtain ⟨info, t⟩ := f
  let type : Reader DataType := fun _ _ => .ok t
  have htype : type .json t.toJson = .ok t := rfl
  have hfills := Field.fills_members info htype
  rw [List.append_nil] at hfills
  exact ⟨type, hfills⟩

theorem nodup_members (f : Field) : (f.members.map (·.1)).Nodup := by
  obtain ⟨type, hfills⟩ := f.fills_members_self
  exact hfills.names_sublist.nodup (Field.nodup_names type)

/-- A column has all members that a column must have. -/
theorem mem_keys_of_required (f : Field) {type : Reader DataType} {slot : Slot Field}
    (hslot : slot ∈ (Field.record type).slots) (hreq : slot.required = true) :
    slot.name ∈ f.members.map (·.1) := by
  have hnames : ∀ slot ∈ (Field.record type).slots, slot.required = true →
      slot.name = "name" ∨ slot.name = "dataType" := by
    simp [Field.record, Slot.needed, Slot.free]
  rw [members, ColumnInfo.members]
  rcases hnames slot hslot hreq with h | h
  · rw [h]
    simp [member]
  · rw [h]
    simp [member]

/-! ## Members written over others -/

/-- The members of a column with others written over them. -/
def merged (f : Field) (members : List (String × Json)) : OrderedMap Json :=
  OrderedMap.insertAll ⟨f.members, f.nodup_members⟩ members

/-- A member of the result is one that is given, or one of the column's under a key that is not. -/
theorem mem_merged_iff {f : Field} {members : List (String × Json)} {key : String} {j : Json} :
    (key, j) ∈ (f.merged members).entries ↔
      lastValue? members key = some j ∨ lastValue? members key = none ∧ (key, j) ∈ f.members := by
  have hown : (key, j) ∈ f.members ↔ f.members.lookup key = some j :=
    OrderedMap.mem_entries_iff (m := ⟨f.members, f.nodup_members⟩)
  rw [OrderedMap.mem_entries_iff, merged, OrderedMap.get?_insertAll, Option.or_eq_some_iff, hown]
  rfl

/-- A column of which nothing is known but the name. -/
def named (name : String) : Field := { name, dataType := .leaf .string }

/-- A column that is written over is read from the members that result, none of them missing. -/
theorem overridden_eq (f : Field) (members : List (String × Json)) :
    f.overridden members
      = (Field.record
            (DataType.readWithin (Json.membersDepth (f.merged members).entries))).readMembers
          .json (f.merged members).entries (named "") := by
  have hread : f.overridden members
      = (Field.record
            (DataType.readWithin (Json.membersDepth (f.merged members).entries))).readObject
          .json (f.merged members).entries := by
    rw [merged, OrderedMap.entries_insertAll]
    rfl
  rw [hread]
  refine Record.readObject_of_absent? (Record.absent?_eq_none fun slot hslot hreq => ?_)
  exact (OrderedMap.mem_keys_insertAll _ _ _).mpr (Or.inl (f.mem_keys_of_required hslot hreq))

/-! ## The same members over two columns -/

section

variable {f g : Field}

theorem filter_merged (h : f.bare = g.bare) (members : List (String × Json)) :
    (f.merged members).entries.filter (fun m => !comparisonMembers.contains m.1)
      = (g.merged members).entries.filter fun m => !comparisonMembers.contains m.1 := by
  rw [merged, merged, OrderedMap.entries_insertAll, OrderedMap.entries_insertAll,
    OrderedMap.filter_foldl_put (fun name => !comparisonMembers.contains name),
    OrderedMap.filter_foldl_put (fun name => !comparisonMembers.contains name), ← f.members_bare,
    ← g.members_bare, h]

/-- A member of one result is one of the other, or a text that queries compare with. -/
theorem mem_merged (h : f.bare = g.bare) {members : List (String × Json)} {m : String × Json}
    (hm : m ∈ (f.merged members).entries) :
    m ∈ (g.merged members).entries ∨ m.1 ∈ comparisonMembers ∧ ∃ s, m.2 = .string s := by
  obtain ⟨key, j⟩ := m
  by_cases hkey : key ∈ comparisonMembers
  · rcases mem_merged_iff.mp hm with hgiven | ⟨-, hown⟩
    · exact Or.inl (mem_merged_iff.mpr (Or.inl hgiven))
    · exact Or.inr ⟨hkey, exists_text_of_comparison hown hkey⟩
  · have hfilter : (key, j) ∈ (f.merged members).entries.filter
        fun m => !comparisonMembers.contains m.1 := by
      refine List.mem_filter.mpr ⟨hm, ?_⟩
      rw [Bool.not_eq_true', ← Bool.not_eq_true, List.contains_iff_mem]
      exact hkey
    rw [filter_merged h] at hfilter
    exact Or.inl (List.mem_filter.mp hfilter).1

theorem exists_name_merged (g : Field) (members : List (String × Json)) :
    ∃ j, ("name", j) ∈ (g.merged members).entries := by
  have hown : ("name", Json.string g.name) ∈ g.members := by
    simp [Field.members, ColumnInfo.members, member]
  cases hlast : lastValue? members "name" with
  | none => exact ⟨_, mem_merged_iff.mpr (Or.inr ⟨hlast, hown⟩)⟩
  | some j => exact ⟨j, mem_merged_iff.mpr (Or.inl hlast)⟩

theorem depth_merged_le (h : f.bare = g.bare) (members : List (String × Json)) :
    Json.membersDepth (f.merged members).entries
      ≤ Json.membersDepth (g.merged members).entries := by
  refine membersDepth_le_iff.mpr fun m hm => ?_
  rcases mem_merged h hm with hm | ⟨-, s, hs⟩
  · exact Json.depth_le_membersDepth hm
  · -- a text has one level, and whatever is the name has one at least
    obtain ⟨j, hj⟩ := g.exists_name_merged members
    have hname := Json.depth_le_membersDepth hj
    have hone : m.2.depth = 1 := by rw [hs, Json.depth] <;> exact nofun
    have hpos := depth_pos j
    omega

theorem depth_merged (h : f.bare = g.bare) (members : List (String × Json)) :
    Json.membersDepth (f.merged members).entries = Json.membersDepth (g.merged members).entries :=
  Nat.le_antisymm (depth_merged_le h members) (depth_merged_le h.symm members)

end

/-- Members that give one of the expressions that queries compare with as what is no expression. -/
def GivesNoExpression (members : List (String × Json)) : Prop :=
  ∃ key ∈ comparisonMembers, ∃ j, lastValue? members key = some j ∧ j ≠ .null ∧
    ∀ s, j ≠ .string s

/-- An expression that queries compare with is a text or nothing. -/
theorem failure?_take_comparison {type : Reader DataType} {m : String × Json}
    (hm : m.1 ∈ comparisonMembers) (f : Field) :
    failure? ((Field.record type).take .json m f) = failure? (optional text .json m.2) := by
  have hslot : ∃ set, (Field.record type).slots.find? (·.name == m.1)
      = some (.free m.1 (optional text) set) := by
    obtain ⟨name, j⟩ := m
    simp only [comparisonMembers, List.mem_cons, List.not_mem_nil, or_false] at hm
    rcases hm with rfl | rfl
    · exact ⟨_, rfl⟩
    · exact ⟨_, rfl⟩
  obtain ⟨set, hset⟩ := hslot
  rw [Record.take, hset]
  exact failure?_map _ _

theorem steady_slots (type : Reader DataType) :
    ∀ slot ∈ (Field.record type).slots, slot.Steady := by
  simp only [Field.record, List.forall_mem_cons, Slot.steady_needed, Slot.steady_free, true_and]
  exact fun _ h => absurd h List.not_mem_nil

theorem erased_slots (type : Reader DataType) :
    ∀ slot ∈ (Field.record type).slots, slot.Erased comparisonMembers.contains bare := by
  simp only [Field.record, List.forall_mem_cons]
  and_intros
  all_goals first
    | exact Slot.erased_apart rfl fun _ _ => rfl
    | exact Slot.erased_hidden rfl fun _ _ => rfl
    | exact fun _ h => absurd h List.not_mem_nil

/-- If the members are all expressions or say nothing, what is refused first is among the others. -/
theorem findSome?_take_merged {f : Field} {type : Reader DataType} {members : List (String × Json)}
    (h : ¬ GivesNoExpression members) (b : Field) :
    ((f.merged members).entries.findSome? fun m => failure? ((Field.record type).take .json m b))
      = ((f.merged members).entries.filter fun m => !comparisonMembers.contains m.1).findSome?
          fun m => failure? ((Field.record type).take .json m b) := by
  refine (findSome?_filter fun m hm hkey => ?_).symm
  obtain ⟨key, j⟩ := m
  have hkey : key ∈ comparisonMembers := by
    rwa [Bool.not_eq_false', List.contains_iff_mem] at hkey
  rw [failure?_take_comparison hkey, failure?_optional_text]
  rcases mem_merged_iff.mp hm with hgiven | ⟨-, hown⟩
  · refine Classical.byContradiction fun hnot => h ⟨key, hkey, j, hgiven, ?_⟩
    exact ⟨fun hj => hnot (Or.inl hj), fun s hj => hnot (Or.inr ⟨s, hj⟩)⟩
  · exact Or.inr (exists_text_of_comparison hown hkey)

/-- If one member is no expression, a column is refused. -/
theorem exists_refusal {members : List (String × Json)} (h : GivesNoExpression members)
    (f : Field) : ∃ e, f.overridden members = .error e := by
  obtain ⟨key, hkey, j, hj, hnull, htext⟩ := h
  rw [f.overridden_eq]
  generalize DataType.readWithin _ = type
  have hmem : (key, j) ∈ (f.merged members).entries := mem_merged_iff.mpr (Or.inl hj)
  cases hread : (Field.record type).readMembers .json (f.merged members).entries _ with
  | error e => exact ⟨e, rfl⟩
  | ok g =>
      have hnone := congrArg failure? hread
      rw [Record.failure?_readMembers (steady_slots type)] at hnone
      have hself := List.findSome?_eq_none_iff.mp hnone _ hmem
      rw [failure?_take_comparison hkey, failure?_optional_text] at hself
      rcases hself with hself | ⟨s, hself⟩
      · exact absurd hself hnull
      · exact absurd hself (htext s)

/-- **The same members over two columns** that agree but for the expressions that queries compare
with. -/
theorem overridden_together {f g : Field} (h : f.bare = g.bare) (members : List (String × Json)) :
    Together (fun e e' => e = e' ∨ GivesNoExpression members) (fun f' g' => f'.bare = g'.bare)
      (f.overridden members) (g.overridden members) := by
  by_cases hgives : GivesNoExpression members
  · obtain ⟨e, he⟩ := exists_refusal hgives f
    obtain ⟨e', he'⟩ := exists_refusal hgives g
    rw [he, he']
    exact .failed (Or.inr hgives)
  · rw [f.overridden_eq, g.overridden_eq, depth_merged h members]
    generalize DataType.readWithin _ = type
    -- both are refused for the first refused member that they have in common
    have hfail : failure?
          ((Field.record type).readMembers .json (f.merged members).entries (named ""))
        = failure?
          ((Field.record type).readMembers .json (g.merged members).entries (named "")) := by
      rw [Record.failure?_readMembers (steady_slots type),
        Record.failure?_readMembers (steady_slots type), findSome?_take_merged hgives,
        findSome?_take_merged hgives, filter_merged h]
    cases hf : (Field.record type).readMembers .json (f.merged members).entries (named "") with
    | error e =>
        rw [hf] at hfail
        rw [failure?_eq_some_iff.mp hfail.symm]
        exact .failed (Or.inl rfl)
    | ok f' =>
        rw [hf] at hfail
        obtain ⟨g', hg⟩ := failure?_eq_none_iff.mp hfail.symm
        have hf' := Record.readMembers_erase (erased_slots type) hf
        have hg' := Record.readMembers_erase (erased_slots type) hg
        rw [filter_merged h, hg'] at hf'
        rw [hg]
        exact .made (Except.ok.inj hf').symm

end Field

end EntityCatalog
