import EntityCatalog.Proofs.Schema.Keywords

/-!
# Schemas whose properties are revised

A revision is told the steps from the root to a property, and says what becomes of the property: it
goes, or its node is changed after what is below it.  `revised` carries one out, at any depth.  The
root and the items of arrays are never changed themselves, and neither is a node by what becomes of
the properties below it: it keeps its keywords in their order, and all of them but `properties` and
`items` keep their values (`sameMarks_revised`).  So only what a node holds is to be looked at
again: `properties?_revised`, `items?_revised`.
-/

namespace EntityCatalog

/-! ## Revisions -/

/-- What becomes of a property, to which steps lead from the root: it goes, or its node is changed
after what is below it. -/
abbrev Revision := List Step → Json → Option (Json → Json)

/-- What a revision does behind a step. -/
def Revision.behind (revise : Revision) (step : Step) : Revision :=
  fun steps => revise (step :: steps)

mutual
/-- The value of a node with the properties below it revised. -/
def Json.revised : Revision → Json → Json
  | revise, .object members => .object (revisedMembers revise members)
  | _, j => j

/-- The keywords of a node, revised where they hold properties or items. -/
def revisedMembers : Revision → List (String × Json) → List (String × Json)
  | _, [] => []
  | revise, (key, j) :: rest =>
      (key,
        if key = "properties" then j.revisedTable revise
        else if key = "items" then j.revised (revise.behind .items)
        else j) :: revisedMembers revise rest

/-- The value of `properties`, revised. -/
def Json.revisedTable : Revision → Json → Json
  | revise, .object properties => .object (revisedProperties revise properties)
  | _, j => j

/-- Properties, without those that go and with the others changed. -/
def revisedProperties : Revision → List (String × Json) → List (String × Json)
  | _, [] => []
  | revise, (key, j) :: rest =>
      match revise [.property key] j with
      | none => revisedProperties revise rest
      | some change =>
          (key, change (j.revised (revise.behind (.property key))))
            :: revisedProperties revise rest
end

/-! ## What a node says besides what it holds -/

namespace Schema

/-- Two nodes have the same keywords, with the same values unless they hold other nodes. -/
structure SameMarks (s s' : Schema) : Prop where
  keys : s.keywords.map (·.1) = s'.keywords.map (·.1)
  keyword? : ∀ key, key ∉ holders → s.keyword? key = s'.keyword? key

namespace SameMarks

variable {s s' : Schema}

theorem agreeOn (h : SameMarks s s') {keys : List String} (hkeys : ∀ key ∈ keys, key ∉ holders) :
    AgreeOn keys s s' := by
  intro key hkey
  exact h.keyword? key (hkeys key hkey)

theorem typeKeyword? (h : SameMarks s s') : s.typeKeyword? = s'.typeKeyword? :=
  typeKeyword?_congr (h.keyword? _ (by decide))

theorem requestedTag (h : SameMarks s s') : requestedTag s = requestedTag s' :=
  requestedTag_congr (h.agreeOn (by decide))

theorem unknownExtensions (h : SameMarks s s') : s.unknownExtensions = s'.unknownExtensions := by
  rw [Schema.unknownExtensions, Schema.unknownExtensions, extensionKeys, extensionKeys, h.keys]

end SameMarks

/-! ## Revised nodes -/

theorem keyword?_revised (revise : Revision) (j : Json) (key : String) :
    (ofJson (j.revised revise)).keyword? key
      = ((ofJson j).keyword? key).map fun value =>
          if key = "properties" then value.revisedTable revise
          else if key = "items" then value.revised (revise.behind .items)
          else value := by
  cases j with
  | object members =>
      show (revisedMembers revise members).lookup key = (members.lookup key).map _
      induction members with
      | nil => rfl
      | cons m rest ih =>
          obtain ⟨k, j⟩ := m
          rw [revisedMembers, List.lookup_cons, List.lookup_cons, ih]
          by_cases hk : key = k
          · rw [hk, beq_self_eq_true]
            rfl
          · rw [beq_eq_false_iff_ne.mpr hk]
  | null => rfl
  | bool _ => rfl
  | number _ => rfl
  | string _ => rfl
  | array _ => rfl

/-- A revised node says the same as before but for what it holds. -/
theorem sameMarks_revised (revise : Revision) (j : Json) :
    SameMarks (ofJson j) (ofJson (j.revised revise)) := by
  constructor
  · cases j with
    | object members =>
        show members.map (·.1) = (revisedMembers revise members).map (·.1)
        induction members with
        | nil => rfl
        | cons m rest ih =>
            obtain ⟨k, j⟩ := m
            rw [revisedMembers, List.map_cons, List.map_cons, ih]
    | null => rfl
    | bool _ => rfl
    | number _ => rfl
    | string _ => rfl
    | array _ => rfl
  · intro key hk
    have hproperties : key ≠ "properties" := fun h => hk (h ▸ by decide)
    have hitems : key ≠ "items" := fun h => hk (h ▸ by decide)
    rw [keyword?_revised]
    simp only [if_neg hproperties, if_neg hitems, Option.map_id']

/-- The nodes of properties. -/
def nodes (properties : List (String × Json)) : List (String × Schema) :=
  properties.map fun p => (p.1, ofJson p.2)

@[simp] theorem nodes_cons (key : String) (j : Json) (rest : List (String × Json)) :
    nodes ((key, j) :: rest) = (key, ofJson j) :: nodes rest := rfl

/-- A revised node declares its properties revised, if it declares some. -/
theorem properties?_revised (revise : Revision) (j : Json) :
    ((ofJson j).properties? = none ∧ (ofJson (j.revised revise)).properties? = none) ∨
      ∃ properties, (ofJson j).properties? = some (nodes properties) ∧
        (ofJson (j.revised revise)).properties?
          = some (nodes (revisedProperties revise properties)) := by
  unfold properties?
  rw [keyword?_revised]
  cases (ofJson j).keyword? "properties" with
  | none => exact Or.inl ⟨rfl, rfl⟩
  | some value =>
      cases value with
      | object properties => exact Or.inr ⟨properties, rfl, rfl⟩
      | null => exact Or.inl ⟨rfl, rfl⟩
      | bool _ => exact Or.inl ⟨rfl, rfl⟩
      | number _ => exact Or.inl ⟨rfl, rfl⟩
      | string _ => exact Or.inl ⟨rfl, rfl⟩
      | array _ => exact Or.inl ⟨rfl, rfl⟩

/-- A revised node has its items revised, if it has some. -/
theorem items?_revised (revise : Revision) (j : Json) :
    ((ofJson j).items? = none ∧ (ofJson (j.revised revise)).items? = none) ∨
      ∃ items : Json, (ofJson j).items? = some (ofJson items) ∧
        (ofJson (j.revised revise)).items?
          = some (ofJson (items.revised (revise.behind .items))) := by
  unfold items?
  rw [keyword?_revised]
  cases (ofJson j).keyword? "items" with
  | none => exact Or.inl ⟨rfl, rfl⟩
  | some items => exact Or.inr ⟨items, rfl, rfl⟩

end Schema

end EntityCatalog
