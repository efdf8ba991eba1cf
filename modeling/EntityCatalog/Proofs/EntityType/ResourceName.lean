import EntityCatalog.Proofs.Label.Rekeying

/-!
# Which resources are read off the names of their entity types

The name of an entity type is read in two ways.  Its key among a module's labels is made of what
follows the first double underscore, which is the resource whatever that is called.  The label of
the entity type is made of what follows the last one (`afterLastSeparator?_append`), and a resource
may hold one itself, or make one with the underscore in front of it.  Then a part of the resource
is taken for the whole, so the two ways agree only for resources that do neither
(`resourceName_of_qualifiedName`).
-/

namespace EntityCatalog

namespace EntityType

open Naming Label

/-! ## The last separator -/

theorem afterLastSeparator?_cons_of_some {rest tail : List Char} (c : Char)
    (h : afterLastSeparator? rest = some tail) :
    afterLastSeparator? (c :: rest) = some tail := by
  rw [afterLastSeparator?.eq_def]
  dsimp only
  rw [h]

/-- Where there is no separator behind it, a character can only begin one. -/
theorem afterLastSeparator?_cons_of_none {c : Char} {rest tail : List Char}
    (h : afterLastSeparator? rest = none) :
    afterLastSeparator? (c :: rest) = some tail ↔ c = '_' ∧ rest = '_' :: tail := by
  rw [afterLastSeparator?.eq_def]
  dsimp only
  rw [h]
  dsimp only
  split
  · simp
  · rename_i hno
    refine iff_of_false (by simp) ?_
    rintro ⟨rfl, rfl⟩
    exact hno tail rfl rfl

/-- The last separator is looked for from the second underscore of the one before it. -/
theorem afterLastSeparator?_append (before rest : List Char) :
    afterLastSeparator? (before ++ '_' :: '_' :: rest)
      = some ((afterLastSeparator? ('_' :: rest)).getD rest) := by
  induction before with
  | nil =>
      cases h : afterLastSeparator? ('_' :: rest) with
      | none => exact (afterLastSeparator?_cons_of_none h).mpr ⟨rfl, rfl⟩
      | some tail => exact afterLastSeparator?_cons_of_some '_' h
  | cons c before ih => exact afterLastSeparator?_cons_of_some c ih

theorem eq_append_of_afterLastSeparator? {cs tail : List Char}
    (h : afterLastSeparator? cs = some tail) : ∃ before, cs = before ++ '_' :: '_' :: tail := by
  induction cs with
  | nil => exact absurd h (by simp [afterLastSeparator?])
  | cons c rest ih =>
      cases hrest : afterLastSeparator? rest with
      | some tail' =>
          rw [afterLastSeparator?_cons_of_some c hrest] at h
          obtain ⟨before, rfl⟩ := ih (hrest.trans h)
          exact ⟨c :: before, rfl⟩
      | none =>
          obtain ⟨rfl, rfl⟩ := (afterLastSeparator?_cons_of_none hrest).mp h
          exact ⟨[], rfl⟩

/-- There is nothing behind the last separator iff there is no separator. -/
theorem afterLastSeparator?_eq_none_iff {cs : List Char} :
    afterLastSeparator? cs = none ↔ ¬ ['_', '_'] <:+: cs := by
  constructor
  · rintro hnone ⟨before, rest, rfl⟩
    have hsome := afterLastSeparator?_append before rest
    rw [show before ++ '_' :: '_' :: rest = before ++ ['_', '_'] ++ rest by simp, hnone] at hsome
    exact absurd hsome (by simp)
  · intro hno
    refine Option.eq_none_iff_forall_ne_some.mpr fun tail htail => ?_
    obtain ⟨before, rfl⟩ := eq_append_of_afterLastSeparator? htail
    exact hno ⟨before, tail, by simp⟩

/-! ## The name of a resource -/

/-- Whether a text makes no separator behind an underscore: it neither begins with an underscore nor
holds two in a row. -/
def Unseparated (resource : String) : Prop :=
  resource.toList.head? ≠ some '_' ∧ ¬ ['_', '_'] <:+: resource.toList

instance (resource : String) : Decidable (Unseparated resource) :=
  inferInstanceAs (Decidable (_ ∧ _))

theorem unseparated_iff {resource : String} :
    Unseparated resource ↔ afterLastSeparator? ('_' :: resource.toList) = none := by
  have hhead : ['_', '_'] <+: '_' :: resource.toList ↔ resource.toList.head? = some '_' := by
    rw [List.cons_prefix_cons, and_iff_right rfl]
    cases resource.toList with
    | nil => simp
    | cons c rest => simp [eq_comm]
  rw [Unseparated, afterLastSeparator?_eq_none_iff, List.infix_cons_iff, not_or, hhead]

theorem afterLastSeparator?_qualifiedName (moduleName resource : String) :
    afterLastSeparator? (qualifiedName moduleName resource).toList
      = some ((afterLastSeparator? ('_' :: resource.toList)).getD resource.toList) := by
  rw [toList_qualifiedName, afterLastSeparator?_append]

/-- The resource name is read off the resource, with one underscore in front of it. -/
theorem resourceName_eq {e : EntityType} {moduleName resource : String}
    (h : e.name = qualifiedName moduleName resource) :
    e.resourceName
      = String.ofList ((afterLastSeparator? ('_' :: resource.toList)).getD resource.toList) := by
  rw [resourceName, h, afterLastSeparator?_qualifiedName]

/-- What follows the last separator of a text makes none behind an underscore. -/
theorem unseparated_of_afterLastSeparator? {cs tail : List Char}
    (h : afterLastSeparator? cs = some tail) : Unseparated (String.ofList tail) := by
  obtain ⟨before, rfl⟩ := eq_append_of_afterLastSeparator? h
  rw [afterLastSeparator?_append] at h
  rw [unseparated_iff, String.toList_ofList]
  cases hlast : afterLastSeparator? ('_' :: tail) with
  | none => rfl
  | some tail' =>
      -- a later separator would leave less than what there is behind it
      obtain ⟨before', heq⟩ := eq_append_of_afterLastSeparator? hlast
      have hsame : tail' = tail := by
        rw [hlast] at h
        exact Option.some.inj h
      have hlength := congrArg List.length heq
      rw [hsame, List.length_append, List.length_cons, List.length_cons, List.length_cons] at hlength
      omega

theorem resourceName_eq_iff {e : EntityType} {moduleName resource : String}
    (h : e.name = qualifiedName moduleName resource) :
    e.resourceName = resource ↔ Unseparated resource := by
  rw [resourceName_eq h, unseparated_iff]
  cases hlast : afterLastSeparator? ('_' :: resource.toList) with
  | none => exact iff_of_true String.ofList_toList rfl
  | some tail =>
      refine iff_of_false (fun heq => ?_) (by simp)
      have hfree := unseparated_of_afterLastSeparator? hlast
      rw [show String.ofList tail = resource from heq, unseparated_iff, hlast] at hfree
      exact absurd hfree (by simp)

/-- **A resource is read off the name of its entity type unless it makes a separator itself.**  The
resource name is what follows the last separator of the name, and is the resource iff this neither
begins with an underscore nor holds two in a row.  The label of the entity type says the resource
name in words, while its key among the labels of the module has the resource itself, always. -/
theorem resourceName_of_qualifiedName {e : EntityType} {moduleName resource : String}
    (h : e.name = qualifiedName moduleName resource) :
    (∃ before, e.name = before ++ "__" ++ e.resourceName) ∧ Unseparated e.resourceName ∧
      (e.resourceName = resource ↔ Unseparated resource) ∧
      e.labels.get? (entityKey e.name) = some (sentenceCase e.resourceName) ∧
      toModule (entityKey e.name) = "fqm.entityType." ++ resource := by
  have hlast := afterLastSeparator?_qualifiedName moduleName resource
  rw [← h] at hlast
  refine ⟨?_, ?_, resourceName_eq_iff h, get?_labels_entityKey e, ?_⟩
  · obtain ⟨before, hname⟩ := eq_append_of_afterLastSeparator? hlast
    refine ⟨String.ofList before, String.toList_inj.mp ?_⟩
    rw [hname, resourceName_eq h]
    simp
  · rw [resourceName_eq h]
    exact unseparated_of_afterLastSeparator? hlast
  · rw [h]
    exact toModule_ownKey moduleName resource

/-- An entity type of orders. -/
def ofOrders (resource : String) : EntityType :=
  { id := idOf "mod-orders" resource
    name := qualifiedName "mod-orders" resource
    sources := []
    requiredPermissions := []
    defaultSort := []
    columns := [Field.plain "id" (.leaf .rangedUuid)] }

theorem resourceName_ofOrders :
    (ofOrders "order_line").name = qualifiedName "mod-orders" "order_line" ∧
      (ofOrders "order_line").resourceName = "order_line" ∧
      (∃ before, (ofOrders "order_line").name = before ++ "__" ++ (ofOrders "order_line").resourceName) ∧
      Unseparated (ofOrders "order_line").resourceName ∧
      ((ofOrders "order_line").resourceName = "order_line" ↔ Unseparated "order_line") ∧
      (ofOrders "order_line").labels.get? (entityKey (ofOrders "order_line").name)
        = some (sentenceCase (ofOrders "order_line").resourceName) ∧
      toModule (entityKey (ofOrders "order_line").name) = "fqm.entityType." ++ "order_line" :=
  ⟨rfl, by decide +kernel, resourceName_of_qualifiedName rfl⟩

/-- Of a resource that holds a separator only the end is read off the name and said in the label.  Its
key among the labels of the module has it all. -/
theorem resourceName_loses_order :
    (ofOrders "order__line").name = qualifiedName "mod-orders" "order__line" ∧
      (ofOrders "order__line").resourceName = "line" ∧
      (ofOrders "order__line").labels.get? (entityKey (ofOrders "order__line").name) = some "Line" ∧
      sentenceCase "order__line" = "Order line" ∧
      toModule (entityKey (ofOrders "order__line").name) = "fqm.entityType.order__line" := by
  refine ⟨rfl, ?_, ?_, ?_, ?_⟩
  · decide +kernel
  · decide +kernel
  · decide +kernel
  · decide +kernel

end EntityType

end EntityCatalog
