import EntityCatalog.Proofs.Column.Overriding
import EntityCatalog.Proofs.EntityType.Levels
import EntityCatalog.Proofs.Shape.Members

/-!
# A column that is written over, member by member

A column is written over by way of its JSON form, and all of it is read again: the members that are
given, and with them those that are not.  What comes of it is nevertheless what one would write by
hand, each member that is given with the value that is read from it and every other as it was
(`overridden_eq_ok_iff`), because what a column has written is what it reads.  Whether anything
comes of it does not depend on the column at all, only on what is given.
-/

namespace EntityCatalog

open Shape
open OrderedMap (lastValue?)

namespace Field

/-! ## The members of a column -/

/-- The members of a column. -/
def memberTable : List (Member Field) :=
  [.needed "name" text (·.name) (fun f v => { f with name := v }) fun _ _ => rfl,
   .needed "dataType" DataType.read (·.dataType) (fun f v => { f with dataType := v })
     fun _ _ => rfl,
   .free "sourceAlias" (optional text) (·.sourceAlias) (fun f v => { f with sourceAlias := v })
     fun _ _ => rfl,
   .free "isIdColumn" (optional truth) (·.isIdColumn) (fun f v => { f with isIdColumn := v })
     fun _ _ => rfl,
   .free "queryable" truth (·.queryable) (fun f v => { f with queryable := v }) fun _ _ => rfl,
   .free "queryOnly" (optional truth) (·.queryOnly) (fun f v => { f with queryOnly := v })
     fun _ _ => rfl,
   .free "hidden" (optional truth) (·.hidden) (fun f v => { f with hidden := v }) fun _ _ => rfl,
   .free "visibleByDefault" truth (·.visibleByDefault)
     (fun f v => { f with visibleByDefault := v }) fun _ _ => rfl,
   .free "essential" (optional truth) (·.essential) (fun f v => { f with essential := v })
     fun _ _ => rfl,
   .free "valueGetter" (optional text) (·.valueGetter) (fun f v => { f with valueGetter := v })
     fun _ _ => rfl,
   .free "filterValueGetter" (optional text) (·.filterValueGetter)
     (fun f v => { f with filterValueGetter := v }) fun _ _ => rfl,
   .free "valueFunction" (optional text) (·.valueFunction)
     (fun f v => { f with valueFunction := v }) fun _ _ => rfl,
   .free "values" (optional (list ValueLabel.record.read)) (·.values)
     (fun f v => { f with values := v }) fun _ _ => rfl,
   .free "valueSourceApi" (optional ValueSourceApi.record.read) (·.valueSourceApi)
     (fun f v => { f with valueSourceApi := v }) fun _ _ => rfl,
   .free "source" (optional FieldSource.record.read) (·.source)
     (fun f v => { f with source := v }) fun _ _ => rfl,
   .free "joinsTo" (optional (list ResolvedJoin.read)) (·.joinsTo)
     (fun f v => { f with joinsTo := v }) fun _ _ => rfl,
   .free "joinsToIntermediate" (list DeclaredJoin.read) (·.declaredJoins)
     (fun f v => { f with declaredJoins := v }) fun _ _ => rfl]

theorem pairwise_memberTable : memberTable.Pairwise Member.Apart := by
  simp only [memberTable, List.pairwise_cons, List.forall_mem_cons]
  and_intros
  all_goals first
    | exact fun _ _ => rfl
    | exact fun _ h => absurd h List.not_mem_nil
    | exact List.Pairwise.nil

theorem madeOf_memberTable : (Field.record DataType.read).MadeOf memberTable where
  slots := rfl
  nodup := Field.nodup_names DataType.read
  apart := pairwise_memberTable

/-- Columns that agree in all members are the same. -/
theorem eq_of_members {f g : Field} (h : ∀ m ∈ memberTable, m.get f = m.get g) : f = g := by
  obtain ⟨⟨⟩, _⟩ := f
  obtain ⟨⟨⟩, _⟩ := g
  simp only [memberTable, List.forall_mem_cons, Member.needed, Member.free] at h
  simp_all

/-! ## Members written over others -/

/-- Whether each of the members that are given, as they are given last, is one of a column. -/
def Acceptable (members : List (String × Json)) : Prop :=
  ∀ key j, lastValue? members key = some j → Member.Taken memberTable .json (key, j)

/-- How one column comes of another where members are written over it: those that are given take
their values, and all others stay. -/
def WrittenOver (members : List (String × Json)) (f g : Field) : Prop :=
  ∀ m ∈ memberTable, m.Written .json members f g

theorem readersAgree_dataType (levels : Nat) :
    ReadersAgree levels (DataType.readWithin levels) DataType.read :=
  fun d _ hj => congrArg (Except.bind · TypeForm.type) (TypeForm.readWithin_eq d hj)

/-- What is written over a column is read within no bound. -/
theorem overridden_eq_readMembers (f : Field) (members : List (String × Json)) :
    f.overridden members
      = (Field.record DataType.read).readMembers .json (f.merged members).entries (named "") := by
  rw [f.overridden_eq]
  exact (Field.recordsAgree (readersAgree_dataType _)).readMembers (Nat.le_refl _) _

/-- A column is read from its own members. -/
theorem readMembers_members (f : Field) :
    (Field.record DataType.read).readMembers .json f.members (named "") = .ok f := by
  have hslots : ∀ slot ∈ (Field.record DataType.read).slots,
      (Field.record DataType.read).slots.find? (·.name == slot.name) = some slot :=
    fun slot => Record.find?_slot (Field.nodup_names DataType.read)
  obtain ⟨info, t⟩ := f
  have hfills := Field.fills_members info (inverts_dataType t)
  rw [List.append_nil] at hfills
  have hread : (Field.record DataType.read).readMembers .json
      (info.members t.toJson ++ []) (named "") = .ok ⟨info, t⟩ :=
    Record.readMembers_of_fills hslots hfills
  rwa [List.append_nil] at hread

theorem lastValue?_merged (f : Field) (members : List (String × Json)) (key : String) :
    lastValue? (f.merged members).entries key
      = (lastValue? members key).or (lastValue? f.members key) := by
  rw [OrderedMap.lastValue?_of_nodup (f.merged members).distinct,
    OrderedMap.lastValue?_of_nodup f.nodup_members]
  exact OrderedMap.get?_insertAll _ _ _

theorem exists_overridden_iff (f : Field) {members : List (String × Json)} :
    (∃ g, f.overridden members = .ok g) ↔ Acceptable members := by
  rw [f.overridden_eq_readMembers, madeOf_memberTable.exists_read_iff rfl]
  constructor
  · exact fun h key j hlast => h (key, j) (mem_merged_iff.mpr (Or.inl hlast))
  · rintro h ⟨key, j⟩ hmem
    rcases mem_merged_iff.mp hmem with hlast | ⟨-, hown⟩
    · exact h key j hlast
    · exact (madeOf_memberTable.exists_read_iff rfl).mp ⟨f, f.readMembers_members⟩ _ hown

theorem writtenOver_of_overridden {f g : Field} {members : List (String × Json)}
    (h : f.overridden members = .ok g) : WrittenOver members f g := by
  intro m hm
  rw [f.overridden_eq_readMembers] at h
  have hnew := madeOf_memberTable.written rfl h m hm
  have hold := madeOf_memberTable.written rfl f.readMembers_members m hm
  have hmerged := f.lastValue?_merged members m.name
  refine ⟨fun j hj => hnew.taken j (by rw [hmerged, hj, Option.some_or]), fun hnone => ?_⟩
  rw [hnone, Option.none_or] at hmerged
  -- the column's own value is read, if it has one written
  cases hown : lastValue? f.members m.name with
  | some j =>
      exact Except.ok.inj
        ((hnew.taken j (hmerged.trans hown)).symm.trans (hold.taken j hown))
  | none => rw [hnew.kept (hmerged.trans hown), hold.kept hown]

theorem WrittenOver.unique {f g g' : Field} {members : List (String × Json)}
    (h : WrittenOver members f g) (h' : WrittenOver members f g') : g = g' := by
  refine eq_of_members fun m hm => ?_
  cases hgiven : lastValue? members m.name with
  | some j =>
      exact Except.ok.inj (((h m hm).taken j hgiven).symm.trans ((h' m hm).taken j hgiven))
  | none => rw [(h m hm).kept hgiven, (h' m hm).kept hgiven]

/-- **What comes of a column** that members are written over. -/
theorem overridden_eq_ok_iff {f g : Field} {members : List (String × Json)} :
    f.overridden members = .ok g ↔ Acceptable members ∧ WrittenOver members f g := by
  constructor
  · exact fun h => ⟨f.exists_overridden_iff.mp ⟨g, h⟩, writtenOver_of_overridden h⟩
  · rintro ⟨hacc, hover⟩
    obtain ⟨g', hg'⟩ := f.exists_overridden_iff.mpr hacc
    rw [hover.unique (writtenOver_of_overridden hg')]
    exact hg'

/-- The name is the one that is given, or else the column's own. -/
theorem name_overridden {f g : Field} {members : List (String × Json)}
    (h : f.overridden members = .ok g) :
    (lastValue? members "name").getD (.string f.name) = .string g.name := by
  have hname := writtenOver_of_overridden h _ List.mem_cons_self
  cases hgiven : lastValue? members "name" with
  | some j => exact eq_string_of_text (hname.taken j hgiven)
  | none => exact congrArg Json.string (hname.kept hgiven).symm

end Field

end EntityCatalog
