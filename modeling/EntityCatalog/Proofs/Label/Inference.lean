import EntityCatalog.Label.Default
import EntityCatalog.Proofs.OrderedMap
import Mathlib.Logic.Function.Iterate

/-!
# The labels of a column and of all below it

A column is labelled by working off what is pending: the column itself, then the items or the
properties of each type that is met, what came last before what came earlier.  `work_iterate` says
that each thing that is pending takes as many rounds as it has entries and leaves the others as they
were; so the work ends, and what it writes are the entries of the recursion on the type.

Two properties of these entries are told apart from their order.  An array is written where its
items are written next, so its own text is never seen (`insertAll_array`), and arrays may be taken
out of a type anywhere.  The keys are those of the chains of properties down the type, with or
without a mark behind each property: `mem_entries_keys_iff` is one induction on the type.
-/

namespace EntityCatalog

open Label

/-! ## Work that is pending -/

/-- Something that is to be labelled: it has a key, a name and a type. -/
structure Label.Pending where
  key : String
  name : String
  dataType : DataType

namespace Label

/-- What a property adds to the pending work: in qualified form, and plain. -/
def Pending.ofProperty (key name : String) (f : Field) : List Pending :=
  [⟨key ++ "." ++ f.name ++ "._qualified", name ++ " " ++ f.name, f.dataType⟩,
   ⟨key ++ "." ++ f.name, f.name, f.dataType⟩]

/-- What there is to be labelled below something, the next first.  The last property comes first. -/
def Pending.opened (p : Pending) : List Pending :=
  match p.dataType with
  | .leaf _ => []
  | .array _ item => [⟨p.key, p.name, item⟩]
  | .object properties => properties.reverse.flatMap (ofProperty p.key p.name)

/-- One round of work: the next thing is labelled and opened, if there is one. -/
def work : List Pending × Labels → List Pending × Labels
  | ([], labels) => ([], labels)
  | (p :: rest, labels) => (p.opened ++ rest, labels.insert p.key (text p.name p.dataType))

mutual
/-- What is pending takes a round for each of its entries, and these are then written. -/
theorem work_iterate :
    ∀ (t : DataType) (key name : String) (rest : List Pending) (labels : Labels),
      work^[(entries key name t).length] (⟨key, name, t⟩ :: rest, labels)
        = (rest, labels.insertAll (entries key name t))
  | .leaf t, key, name, rest, labels => rfl
  | .array kind item, key, name, rest, labels => by
      rw [entries, List.length_cons, Function.iterate_succ_apply]
      exact work_iterate item key name rest _
  | .object properties, key, name, rest, labels => by
      rw [entries, List.length_cons, Function.iterate_succ_apply]
      exact work_iterate_properties properties key name rest _

theorem work_iterate_properties :
    ∀ (fs : List Field) (key name : String) (rest : List Pending) (labels : Labels),
      work^[(propertyEntries key name fs).length]
          (fs.reverse.flatMap (Pending.ofProperty key name) ++ rest, labels)
        = (rest, labels.insertAll (propertyEntries key name fs))
  | [], key, name, rest, labels => rfl
  | ⟨info, t⟩ :: fs, key, name, rest, labels => by
      have hpending : (Field.mk info t :: fs).reverse.flatMap (Pending.ofProperty key name) ++ rest
          = fs.reverse.flatMap (Pending.ofProperty key name)
              ++ (⟨key ++ "." ++ info.name ++ "._qualified", name ++ " " ++ info.name, t⟩
                :: ⟨key ++ "." ++ info.name, info.name, t⟩ :: rest) := by
        rw [List.reverse_cons, List.flatMap_append, List.flatMap_singleton, List.append_assoc]
        rfl
      -- the rounds of the later properties come first, then those of the two forms of this one
      rw [hpending, propertyEntries, List.length_append, List.length_append, Nat.add_comm,
        Function.iterate_add_apply, Nat.add_comm, Function.iterate_add_apply,
        work_iterate_properties fs, work_iterate t, work_iterate t, OrderedMap.insertAll_append,
        OrderedMap.insertAll_append]
end

/-! ## Arrays -/

theorem exists_entries_eq_cons (key name : String) (t : DataType) :
    ∃ es, entries key name t = (key, text name t) :: es := by
  cases t with
  | leaf t => exact ⟨[], by rw [entries]⟩
  | array kind item => exact ⟨_, by rw [entries]⟩
  | object properties => exact ⟨_, by rw [entries]⟩

/-- What is written for an array is written over for its items. -/
theorem insertAll_array (m : Labels) (key name : String) (kind : ArrayKind) (item : DataType) :
    m.insertAll (entries key name (.array kind item)) = m.insertAll (entries key name item) := by
  obtain ⟨es, hes⟩ := exists_entries_eq_cons key name item
  rw [entries, hes, OrderedMap.insertAll_cons, OrderedMap.insertAll_cons,
    OrderedMap.insertAll_cons, OrderedMap.insert_insert]

end Label

/-- The type inside some arrays, the first of them outermost. -/
def DataType.inArrays (kinds : List ArrayKind) (t : DataType) : DataType := kinds.foldr .array t

mutual
/-- The type with the items of its arrays in their place, at every level. -/
def DataType.withoutArrays : DataType → DataType
  | .leaf t => .leaf t
  | .array _ item => item.withoutArrays
  | .object properties => .object (propertiesWithoutArrays properties)

/-- Properties with the items of arrays in their place, at every level. -/
def propertiesWithoutArrays : List Field → List Field
  | [] => []
  | ⟨info, t⟩ :: rest => ⟨info, t.withoutArrays⟩ :: propertiesWithoutArrays rest
end

namespace Label

theorem insertAll_inArrays (kinds : List ArrayKind) (m : Labels) (key name : String)
    (t : DataType) :
    m.insertAll (entries key name (t.inArrays kinds)) = m.insertAll (entries key name t) := by
  induction kinds with
  | nil => rfl
  | cons kind kinds ih => exact (insertAll_array m key name kind (t.inArrays kinds)).trans ih

mutual
theorem insertAll_withoutArrays :
    ∀ (t : DataType) (m : Labels) (key name : String),
      m.insertAll (entries key name t.withoutArrays) = m.insertAll (entries key name t)
  | .leaf t, m, key, name => rfl
  | .array kind item, m, key, name => by
      rw [DataType.withoutArrays, insertAll_array]
      exact insertAll_withoutArrays item m key name
  | .object properties, m, key, name => by
      rw [DataType.withoutArrays, entries, entries]
      exact insertAll_propertiesWithoutArrays properties _ key name

theorem insertAll_propertiesWithoutArrays :
    ∀ (fs : List Field) (m : Labels) (key name : String),
      m.insertAll (propertyEntries key name (propertiesWithoutArrays fs))
        = m.insertAll (propertyEntries key name fs)
  | [], m, key, name => rfl
  | ⟨info, t⟩ :: fs, m, key, name => by
      rw [propertiesWithoutArrays, propertyEntries, propertyEntries]
      simp only [OrderedMap.insertAll_append]
      rw [insertAll_propertiesWithoutArrays fs, insertAll_withoutArrays t,
        insertAll_withoutArrays t]
end

end Label

/-! ## Keys -/

/-- The names along the chains of properties down a type, an array being passed through to its
items.  A chain may end anywhere. -/
inductive DataType.Chain : DataType → List String → Prop
  | here {t : DataType} : Chain t []
  | items {kind : ArrayKind} {item : DataType} {names : List String} :
      Chain item names → Chain (.array kind item) names
  | property {properties : List Field} {f : Field} {names : List String} :
      f ∈ properties → Chain f.dataType names → Chain (.object properties) (f.name :: names)

namespace Label

/-- What a property adds to a key: its name behind a dot, with or without the mark of the qualified
form. -/
def IsSegment (name segment : String) : Prop :=
  segment = "." ++ name ∨ segment = "." ++ name ++ "._qualified"

/-- What stands behind the key of something with a type in the keys below it. -/
def IsSuffix (t : DataType) (suffix : String) : Prop :=
  ∃ names segments, t.Chain names ∧ List.Forall₂ IsSegment names segments ∧
    suffix = String.join segments

theorem isSuffix_leaf_iff {t : LeafType} {suffix : String} :
    IsSuffix (.leaf t) suffix ↔ suffix = "" := by
  constructor
  · rintro ⟨names, segments, hchain, hsegments, rfl⟩
    cases hchain
    cases hsegments
    rfl
  · rintro rfl
    exact ⟨[], [], .here, .nil, rfl⟩

theorem isSuffix_array_iff {kind : ArrayKind} {item : DataType} {suffix : String} :
    IsSuffix (.array kind item) suffix ↔ IsSuffix item suffix := by
  constructor
  · rintro ⟨names, segments, hchain, hsegments, rfl⟩
    cases hchain with
    | here => exact ⟨_, segments, .here, hsegments, rfl⟩
    | items hitem => exact ⟨names, segments, hitem, hsegments, rfl⟩
  · rintro ⟨names, segments, hchain, hsegments, rfl⟩
    exact ⟨names, segments, .items hchain, hsegments, rfl⟩

theorem isSuffix_object_iff {properties : List Field} {suffix : String} :
    IsSuffix (.object properties) suffix ↔ suffix = "" ∨ ∃ f ∈ properties, ∃ segment rest,
      IsSegment f.name segment ∧ IsSuffix f.dataType rest ∧ suffix = segment ++ rest := by
  constructor
  · rintro ⟨names, segments, hchain, hsegments, rfl⟩
    cases hchain with
    | here =>
        cases hsegments
        exact Or.inl rfl
    | property hf hchain =>
        cases hsegments with
        | cons hsegment hsegments =>
            exact Or.inr ⟨_, hf, _, _, hsegment, ⟨_, _, hchain, hsegments, rfl⟩, String.join_cons⟩
  · rintro (rfl | ⟨f, hf, segment, rest, hsegment, ⟨names, segments, hchain, hsegments, rfl⟩, rfl⟩)
    · exact ⟨[], [], .here, .nil, rfl⟩
    · exact ⟨f.name :: names, segment :: segments, .property hf hchain,
        .cons hsegment hsegments, String.join_cons.symm⟩

mutual
theorem mem_entries_keys_iff :
    ∀ (t : DataType) (key name k : String),
      k ∈ (entries key name t).map (·.1) ↔ ∃ suffix, IsSuffix t suffix ∧ k = key ++ suffix
  | .leaf t, key, name, k => by
      rw [entries]
      simp only [isSuffix_leaf_iff, exists_eq_left, String.append_empty]
      exact List.mem_singleton
  | .array kind item, key, name, k => by
      rw [entries, List.map_cons, List.mem_cons, mem_entries_keys_iff item]
      simp only [isSuffix_array_iff]
      refine or_iff_right_of_imp ?_
      rintro rfl
      exact ⟨"", ⟨[], [], .here, .nil, rfl⟩, String.append_empty.symm⟩
  | .object properties, key, name, k => by
      rw [entries, List.map_cons, List.mem_cons, mem_propertyEntries_keys_iff properties]
      simp only [isSuffix_object_iff]
      constructor
      · rintro (rfl | ⟨f, hf, segment, rest, hsegment, hrest, rfl⟩)
        · exact ⟨"", Or.inl rfl, String.append_empty.symm⟩
        · exact ⟨segment ++ rest, Or.inr ⟨f, hf, segment, rest, hsegment, hrest, rfl⟩,
            String.append_assoc⟩
      · rintro ⟨suffix, rfl | ⟨f, hf, segment, rest, hsegment, hrest, rfl⟩, rfl⟩
        · exact Or.inl String.append_empty
        · exact Or.inr ⟨f, hf, segment, rest, hsegment, hrest, String.append_assoc.symm⟩

theorem mem_propertyEntries_keys_iff :
    ∀ (fs : List Field) (key name k : String),
      k ∈ (propertyEntries key name fs).map (·.1) ↔ ∃ f ∈ fs, ∃ segment rest,
        IsSegment f.name segment ∧ IsSuffix f.dataType rest ∧ k = key ++ segment ++ rest
  | [], key, name, k => by simp [propertyEntries]
  | ⟨info, t⟩ :: fs, key, name, k => by
      rw [propertyEntries, List.map_append, List.map_append, List.mem_append, List.mem_append,
        mem_propertyEntries_keys_iff fs, mem_entries_keys_iff t, mem_entries_keys_iff t,
        List.exists_mem_cons_iff]
      simp only [String.append_assoc]
      constructor
      · rintro ((hrest | ⟨suffix, hsuffix, rfl⟩) | ⟨suffix, hsuffix, rfl⟩)
        · exact Or.inr hrest
        · exact Or.inl ⟨_, suffix, Or.inr rfl, hsuffix, by simp only [String.append_assoc]⟩
        · exact Or.inl ⟨_, suffix, Or.inl rfl, hsuffix, by simp only [String.append_assoc]⟩
      · rintro (⟨segment, suffix, rfl | rfl, hsuffix, rfl⟩ | hrest)
        · exact Or.inr ⟨suffix, hsuffix, by simp only [String.append_assoc]⟩
        · exact Or.inl (Or.inr ⟨suffix, hsuffix, by simp only [String.append_assoc]⟩)
        · exact Or.inl (Or.inl hrest)
end

/-- The keys of a column's labels are made of its own key and of what its type adds. -/
theorem mem_keys_fieldLabels_iff {f : Field} {entity key : String} :
    key ∈ (f.labels entity).keys ↔ ∃ suffix, IsSuffix f.dataType suffix ∧
      key = entityKey entity ++ "." ++ f.name ++ suffix := by
  rw [Field.labels, OrderedMap.ofList, OrderedMap.mem_keys_insertAll, mem_entries_keys_iff]
  exact or_iff_right List.not_mem_nil

end Label

/-! ## Columns -/

/-- **The labels of a column**, with all that its type holds.  The pending work that begins with the
column ends, and has then written them.  Arrays around a type make no difference to them, nor does
an array anywhere below.  The keys are the key of the column with the properties of a chain behind
it, each in one of its two forms whatever the others are. -/
theorem labels_of_column (f : Field) (entity : String) :
    (∃ rounds, work^[rounds] ([⟨entityKey entity ++ "." ++ f.name, f.name, f.dataType⟩], .empty)
      = ([], f.labels entity)) ∧
    (∀ kinds t, Field.labels { f with dataType := t.inArrays kinds } entity
      = Field.labels { f with dataType := t } entity) ∧
    Field.labels { f with dataType := f.dataType.withoutArrays } entity = f.labels entity ∧
    ∀ key, key ∈ (f.labels entity).keys ↔ ∃ names segments, f.dataType.Chain names ∧
      List.Forall₂ IsSegment names segments ∧
      key = entityKey entity ++ "." ++ f.name ++ String.join segments := by
  refine ⟨⟨_, work_iterate f.dataType _ f.name [] .empty⟩, fun kinds t => ?_, ?_, fun key => ?_⟩
  · exact insertAll_inArrays kinds .empty _ f.name t
  · exact insertAll_withoutArrays f.dataType .empty _ f.name
  · rw [mem_keys_fieldLabels_iff]
    constructor
    · rintro ⟨suffix, ⟨names, segments, hchain, hsegments, rfl⟩, hkey⟩
      exact ⟨names, segments, hchain, hsegments, hkey⟩
    · rintro ⟨names, segments, hchain, hsegments, hkey⟩
      exact ⟨_, ⟨names, segments, hchain, hsegments, rfl⟩, hkey⟩

end EntityCatalog
