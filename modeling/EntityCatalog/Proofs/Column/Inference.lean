import EntityCatalog.Proofs.Schema.Extensions
import EntityCatalog.Resource

/-!
# Inference, one step at a time

`inferType` recurs on the number of levels that are left, and that number is a matter of the site:
a step to a property or to the items uses up one.  So the type of a node at a site is one step of
`nodeType` over the types at the sites below it (`typeAt_eq`), and levels are not mentioned again.

The properties of an object and those of the root go through different functions, which say
different things about what they leave out.  As far as columns go they agree: each gives, in order,
the column of every property that has one (`inferFieldsWith_value`, `inferColumns_value`).
-/

namespace EntityCatalog

/-! ## Levels -/

@[simp] theorem Site.levels_property (site : Site) (key : String) :
    (site.property key).levels = site.levels - 1 := by
  show maxSchemaDepth + 1 - (site.depth + 1) = maxSchemaDepth + 1 - site.depth - 1
  omega

@[simp] theorem Site.levels_elements (site : Site) : site.elements.levels = site.levels - 1 := by
  show maxSchemaDepth + 1 - (site.depth + 1) = maxSchemaDepth + 1 - site.depth - 1
  omega

/-- The type of a node, where `typeBelow` tells the types of the nodes below it. -/
def nodeType (typeBelow : Site → Schema → Inference DataType) (site : Site) (s : Schema) :
    Inference DataType :=
  match requestedTag s with
  | (.leaf t, findings) => .ok ⟨.leaf t, findings.map .here⟩
  | (.object, findings) =>
      (inferFieldsWith typeBelow site (s.properties?.getD [])).map fun fields =>
        ⟨.object fields.value, findings.map .here ++ fields.findings⟩
  | (.array kind, findings) =>
      match s.items? with
      | none => .ok ⟨.array kind (.leaf .string), findings.map .here ++ [.here .unknownItems]⟩
      | some items =>
          (typeBelow site.elements items).map fun item =>
            ⟨.array kind item.value,
              findings.map .here ++ (Extensions.unknown "array items" items).map .here
                ++ item.findings.map (.under .items)⟩

theorem inferType_succ (levels : Nat) (site : Site) (s : Schema) :
    inferType (levels + 1) site s = nodeType (inferType levels) site s := by
  rw [inferType, nodeType]
  cases requestedTag s with
  | mk tag findings => cases tag <;> rfl

/-- The columns of properties depend on the types of those that are kept. -/
theorem inferFieldsWith_congr {f g : Site → Schema → Inference DataType} {site : Site}
    {properties : List (String × Schema)}
    (h : ∀ p ∈ properties, p.2.standing = .kept →
      f (site.property p.1) p.2 = g (site.property p.1) p.2) :
    inferFieldsWith f site properties = inferFieldsWith g site properties := by
  induction properties with
  | nil => rfl
  | cons p rest ih =>
      obtain ⟨hp, hrest⟩ := List.forall_mem_cons.mp h
      have hone : inferFieldWith f site p.1 p.2 = inferFieldWith g site p.1 p.2 := by
        unfold inferFieldWith
        cases hk : p.2.standing with
        | ignored => rfl
        | skippedAsVirtual => rfl
        | kept => rw [hp hk]
      rw [inferFieldsWith, inferFieldsWith, ih hrest, hone]

/-- The type of a node depends on the types of the nodes that it leads to. -/
theorem nodeType_congr {f g : Site → Schema → Inference DataType} {site : Site} {s : Schema}
    (hproperties : (requestedTag s).1 = .object → ∀ p ∈ s.properties?.getD [],
      p.2.standing = .kept → f (site.property p.1) p.2 = g (site.property p.1) p.2)
    (hitems : ∀ kind, (requestedTag s).1 = .array kind → ∀ items, s.items? = some items →
      f site.elements items = g site.elements items) :
    nodeType f site s = nodeType g site s := by
  rw [nodeType, nodeType]
  cases htag : requestedTag s with
  | mk tag findings =>
      rw [htag] at hproperties hitems
      cases tag with
      | leaf t => rfl
      | object =>
          dsimp only
          rw [inferFieldsWith_congr (hproperties rfl)]
      | array kind =>
          dsimp only
          cases hi : s.items? with
          | none => rfl
          | some items =>
              dsimp only
              rw [hitems kind rfl items hi]

/-- The type of a node depends on the keywords that tell it and on those that hold other nodes. -/
theorem inferType_congr {s s' : Schema} (htype : Schema.AgreeOn Schema.typeKeys s s')
    (hholders : Schema.AgreeOn Schema.holders s s') (levels : Nat) (site : Site) :
    inferType levels site s = inferType levels site s' := by
  cases levels with
  | zero => rfl
  | succ levels =>
      rw [inferType_succ, inferType_succ, nodeType, nodeType, Schema.requestedTag_congr htype,
        Schema.properties?_congr (hholders _ (by decide)),
        Schema.items?_congr (hholders _ (by decide))]

theorem typeAt_tooDeep {site : Site} (h : site.levels = 0) (s : Schema) :
    typeAt site s = .ok ⟨.leaf .string, [.here .tooDeep]⟩ := by
  rw [typeAt, h, inferType]

/-- Above it, the type of a node is made of the types of the nodes below. -/
theorem typeAt_eq {site : Site} (h : site.levels ≠ 0) (s : Schema) :
    typeAt site s = nodeType typeAt site s := by
  obtain ⟨levels, hl⟩ := Nat.exists_eq_succ_of_ne_zero h
  have hbelow : ∀ key s, inferType levels (site.property key) s = typeAt (site.property key) s := by
    intro key s
    rw [typeAt, Site.levels_property, hl, Nat.succ_sub_one]
  have helements : ∀ s, inferType levels site.elements s = typeAt site.elements s := by
    intro s
    rw [typeAt, Site.levels_elements, hl, Nat.succ_sub_one]
  rw [typeAt, hl, inferType_succ]
  exact nodeType_congr (fun _ p _ _ => hbelow p.1 p.2) (fun _ _ items _ => helements items)

/-- How a node is typed, as long as there are levels: the tag that the node asks for, and the columns
of its properties or the type of its items.  What is found at the node comes first, and then what is
found at the parts. -/
inductive NodeNoted (site : Site) (s : Schema) : Noted DataType → Prop
  | leaf {type : LeafType} {own : List Finding} : requestedTag s = (.leaf type, own) →
      NodeNoted site s ⟨.leaf type, own.map .here⟩
  | object {own : List Finding} {fields : Noted (List Field)} : requestedTag s = (.object, own) →
      inferFieldsWith typeAt site (s.properties?.getD []) = .ok fields →
        NodeNoted site s ⟨.object fields.value, own.map .here ++ fields.findings⟩
  | unknownItems {kind : ArrayKind} {own : List Finding} : requestedTag s = (.array kind, own) →
      s.items? = none →
        NodeNoted site s ⟨.array kind (.leaf .string), own.map .here ++ [.here .unknownItems]⟩
  | array {kind : ArrayKind} {own : List Finding} {items : Schema} {item : Noted DataType} :
      requestedTag s = (.array kind, own) → s.items? = some items →
        typeAt site.elements items = .ok item →
          NodeNoted site s ⟨.array kind item.value,
            own.map .here ++ (Extensions.unknown "array items" items).map .here
              ++ item.findings.map (.under .items)⟩

theorem nodeNoted_of_typeAt {site : Site} (hl : site.levels ≠ 0) {s : Schema} {t : Noted DataType}
    (h : typeAt site s = .ok t) : NodeNoted site s t := by
  rw [typeAt_eq hl, nodeType] at h
  split at h
  · rename_i type findings htag
    rw [← Except.ok.inj h]
    exact .leaf htag
  · rename_i findings htag
    cases hf : inferFieldsWith typeAt site (s.properties?.getD []) with
    | error e =>
        rw [hf] at h
        exact absurd h (by simp [Except.map])
    | ok fields =>
        rw [hf] at h
        rw [← Except.ok.inj h]
        exact .object htag hf
  · rename_i kind findings htag
    split at h
    · rename_i hi
      rw [← Except.ok.inj h]
      exact .unknownItems htag hi
    · rename_i items hi
      cases hitem : typeAt site.elements items with
      | error e =>
          rw [hitem] at h
          exact absurd h (by simp [Except.map])
      | ok item =>
          rw [hitem] at h
          rw [← Except.ok.inj h]
          exact .array htag hi hitem

/-- What the type of a node is made of, as long as there are levels: the tag that the node asks for
and the columns of its properties, or the type of its items. -/
inductive NodeMade (site : Site) (s : Schema) : DataType → Prop
  | leaf {type : LeafType} : (requestedTag s).1 = .leaf type → NodeMade site s (.leaf type)
  | object {fields : Noted (List Field)} : (requestedTag s).1 = .object →
      inferFieldsWith typeAt site (s.properties?.getD []) = .ok fields →
        NodeMade site s (.object fields.value)
  | unknownItems {kind : ArrayKind} : (requestedTag s).1 = .array kind → s.items? = none →
      NodeMade site s (.array kind (.leaf .string))
  | array {kind : ArrayKind} {items : Schema} {item : Noted DataType} :
      (requestedTag s).1 = .array kind → s.items? = some items →
        typeAt site.elements items = .ok item → NodeMade site s (.array kind item.value)

theorem nodeMade_of_typeAt {site : Site} (hl : site.levels ≠ 0) {s : Schema} {t : Noted DataType}
    (h : typeAt site s = .ok t) : NodeMade site s t.value := by
  cases nodeNoted_of_typeAt hl h with
  | leaf htag => exact .leaf (congrArg Prod.fst htag)
  | object htag hfields => exact .object (congrArg Prod.fst htag) hfields
  | unknownItems htag hitems => exact .unknownItems (congrArg Prod.fst htag) hitems
  | array htag hitems hitem => exact .array (congrArg Prod.fst htag) hitems hitem

/-- A node that is an object has one level left at least, and its properties have columns. -/
theorem typeAt_object {site : Site} {s : Schema} {t : Noted DataType} (h : typeAt site s = .ok t)
    {properties : List Field} (ho : t.value = .object properties) :
    site.levels ≠ 0 ∧
      ∃ fields, inferFieldsWith typeAt site (s.properties?.getD []) = .ok fields ∧
        properties = fields.value := by
  by_cases hl : site.levels = 0
  · rw [typeAt_tooDeep hl] at h
    rw [← Except.ok.inj h] at ho
    exact absurd ho (by simp)
  · have hmade := nodeMade_of_typeAt hl h
    rw [ho] at hmade
    cases hmade with
    | object _ hf => exact ⟨hl, _, hf, rfl⟩

/-! ## One property -/

/-- Unless its visibility does not exist, a property has its extensions one by one, and so is found
what is wrong with them. -/
theorem ofSchema_eq_ok {key : String} {s : Schema} {e : Extensions} {findings : List Finding}
    (h : Extensions.ofSchema key s = .ok (e, findings)) :
    e = Extensions.given key s e.visibility ∧ findings = Extensions.findings key s := by
  rw [Extensions.ofSchema_eq] at h
  cases hv : Extensions.visibility? key s with
  | error e' =>
      rw [hv] at h
      exact absurd h (by simp [Except.map])
  | ok visibility =>
      rw [hv] at h
      obtain ⟨rfl, rfl⟩ := Prod.mk.inj (Except.ok.inj h)
      exact ⟨rfl, rfl⟩

/-- A kept property fails for its visibility or for its type, in this order, and otherwise has a
column; what is found at its extensions comes before what is found at its type. -/
theorem inferFieldWith_of_kept {typeAt : Site → Schema → Inference DataType} {site : Site}
    {key : String} {s : Schema} (hk : s.standing = .kept) :
    inferFieldWith typeAt site key s
      = (Extensions.visibility? key s).bind fun v =>
          (typeAt (site.property key) s).map fun t =>
            ⟨some (makeField site key s (Extensions.given key s v) t.value),
              (Extensions.findings key s).map .here ++ t.findings⟩ := by
  rw [inferFieldWith, hk, Extensions.ofSchema_eq]
  cases Extensions.visibility? key s with
  | error e => rfl
  | ok v => cases typeAt (site.property key) s <;> rfl

/-- Two kept properties of one name that have the same visibility, and whose types fail or are made
together, fail together or have columns. -/
theorem inferFieldWith_together {typeAt : Site → Schema → Inference DataType} {site : Site}
    {key : String} {s s' : Schema} {R : Noted DataType → Noted DataType → Prop}
    {R' : Noted (Option Field) → Noted (Option Field) → Prop} (hk : s.standing = .kept)
    (hk' : s'.standing = .kept)
    (hvisibility : Extensions.visibility? key s = Extensions.visibility? key s')
    (htype : Together Eq R (typeAt (site.property key) s) (typeAt (site.property key) s'))
    (hfield : ∀ v t t', R t t' →
      R' ⟨some (makeField site key s (Extensions.given key s v) t.value),
          (Extensions.findings key s).map .here ++ t.findings⟩
        ⟨some (makeField site key s' (Extensions.given key s' v) t'.value),
          (Extensions.findings key s').map .here ++ t'.findings⟩) :
    Together Eq R' (inferFieldWith typeAt site key s) (inferFieldWith typeAt site key s') := by
  rw [inferFieldWith_of_kept hk, inferFieldWith_of_kept hk', hvisibility]
  cases Extensions.visibility? key s' with
  | error e => exact .failed rfl
  | ok v => exact htype.map (hfield v)

/-- A visibility changes three marks of a column and nothing else. -/
theorem withVisibility_frame (info : ColumnInfo) (v : Option Visibility) :
    { info.withVisibility v with
        queryable := info.queryable
        queryOnly := info.queryOnly
        hidden := info.hidden } = info := by
  cases v with
  | none => rfl
  | some v => cases v <;> rfl

/-- A kept property has its extensions and its type, and what was found at either. -/
theorem fieldAt_eq_of_kept {site : Site} {key : String} {s : Schema} {n : Noted (Option Field)}
    (h : fieldAt site key s = .ok n) (hk : s.standing = .kept) :
    ∃ e findings t, Extensions.ofSchema key s = .ok (e, findings) ∧
      typeAt (site.property key) s = .ok t ∧
        n = ⟨some (makeField site key s e t.value), findings.map .here ++ t.findings⟩ := by
  unfold fieldAt inferFieldWith at h
  rw [hk] at h
  dsimp only at h
  cases he : Extensions.ofSchema key s with
  | error e =>
      rw [he] at h
      exact absurd h (by simp)
  | ok pair =>
      obtain ⟨e, findings⟩ := pair
      cases ht : typeAt (site.property key) s with
      | error e =>
          rw [he, ht] at h
          exact absurd h (by simp)
      | ok t =>
          rw [he, ht] at h
          exact ⟨e, findings, t, rfl, rfl, (Except.ok.inj h).symm⟩

theorem fieldAt_kept {site : Site} {key : String} {s : Schema} {n : Noted (Option Field)}
    (h : fieldAt site key s = .ok n) (hk : s.standing = .kept) :
    ∃ e findings t, Extensions.ofSchema key s = .ok (e, findings) ∧
      typeAt (site.property key) s = .ok t ∧ n.value = some (makeField site key s e t.value) := by
  obtain ⟨e, findings, t, he, ht, rfl⟩ := fieldAt_eq_of_kept h hk
  exact ⟨e, findings, t, he, ht, rfl⟩

theorem fieldAt_not_kept {site : Site} {key : String} {s : Schema} {n : Noted (Option Field)}
    (h : fieldAt site key s = .ok n) (hk : s.standing ≠ .kept) : n.value = none := by
  unfold fieldAt inferFieldWith at h
  split at h
  · rw [← Except.ok.inj h]
  · rw [← Except.ok.inj h]
  · rename_i hkept
    exact absurd hkept hk

/-- Only a kept property has a column. -/
theorem standing_of_value {site : Site} {key : String} {s : Schema} {n : Noted (Option Field)}
    {f : Field} (h : fieldAt site key s = .ok n) (hf : n.value = some f) : s.standing = .kept := by
  by_contra hk
  rw [fieldAt_not_kept h hk] at hf
  cases hf

/-- A column is made of the extensions and of the type of its property. -/
theorem makeField_of_value {site : Site} {key : String} {s : Schema} {n : Noted (Option Field)}
    {f : Field} (h : fieldAt site key s = .ok n) (hf : n.value = some f) :
    ∃ e findings t, Extensions.ofSchema key s = .ok (e, findings) ∧
      typeAt (site.property key) s = .ok t ∧ f = makeField site key s e t.value := by
  obtain ⟨e, findings, t, he, ht, hmade⟩ := fieldAt_kept h (standing_of_value h hf)
  exact ⟨e, findings, t, he, ht, Option.some.inj (hf.symm.trans hmade)⟩

/-! ## Several properties -/

/-- The column of a property of the value at a site, if it has one. -/
def fieldOf (site : Site) (p : String × Schema) : List Field :=
  match fieldAt site p.1 p.2 with
  | .ok n => n.value.toList
  | .error _ => []

theorem fieldOf_of_ok {site : Site} {p : String × Schema} {n : Noted (Option Field)}
    (h : fieldAt site p.1 p.2 = .ok n) : fieldOf site p = n.value.toList := by
  rw [fieldOf, h]

theorem standing_eq_ignored_iff {s : Schema} : s.standing = .ignored ↔ s.isIgnored = true := by
  rw [Schema.standing, Schema.isIgnored]
  cases s.ignoreMark with
  | absent => cases s.isVirtual <;> simp
  | set ignored => cases ignored <;> simp
  | malformed _ => simp

theorem not_isIgnored_of_standing {s : Schema} {standing : Standing} (h : s.standing = standing)
    (hne : standing ≠ .ignored) : ¬ s.isIgnored = true :=
  fun hignored => hne (h.symm.trans (standing_eq_ignored_iff.mpr hignored))

theorem standing_of_isIgnored {s : Schema} (h : s.isIgnored = true) : s.standing = .ignored :=
  standing_eq_ignored_iff.mpr h

theorem fieldAt_of_isIgnored {s : Schema} (h : s.isIgnored = true) (site : Site) (key : String) :
    fieldAt site key s = .ok ⟨none, []⟩ := by
  rw [fieldAt, inferFieldWith, standing_of_isIgnored h]

theorem fieldAt_of_skipped {s : Schema} (h : s.standing = .skippedAsVirtual) (site : Site)
    (key : String) : fieldAt site key s = .ok ⟨none, [.here .virtualProperty]⟩ := by
  rw [fieldAt, inferFieldWith, h]

/-- The properties of an object have their columns in order. -/
theorem inferFieldsWith_value {site : Site} :
    ∀ {properties : List (String × Schema)} {fields : Noted (List Field)},
      inferFieldsWith typeAt site properties = .ok fields →
        (∀ p ∈ properties, ∃ n, fieldAt site p.1 p.2 = .ok n) ∧
          fields.value = properties.flatMap (fieldOf site)
  | [], fields, h => by
      rw [← Except.ok.inj h]
      exact ⟨fun p hp => absurd hp List.not_mem_nil, rfl⟩
  | (key, s) :: rest, fields, h => by
      rw [inferFieldsWith] at h
      split at h
      · rename_i hig
        have hone := fieldAt_of_isIgnored hig site key
        obtain ⟨hall, hval⟩ := inferFieldsWith_value h
        refine ⟨List.forall_mem_cons.mpr ⟨⟨_, hone⟩, hall⟩, ?_⟩
        rw [List.flatMap_cons, fieldOf_of_ok hone, hval]
        rfl
      · split at h
        · exact absurd h (by simp)
        · rename_i n hone
          split at h
          · exact absurd h (by simp)
          · rename_i others hrest
            obtain ⟨hall, hval⟩ := inferFieldsWith_value hrest
            have hone : fieldAt site key s = .ok n := hone
            refine ⟨List.forall_mem_cons.mpr ⟨⟨n, hone⟩, hall⟩, ?_⟩
            rw [← Except.ok.inj h, List.flatMap_cons, fieldOf_of_ok hone, ← hval]

/-- What is found at a property of an object, as it is seen from the object. -/
def findingsOf (site : Site) (p : String × Schema) : List Located :=
  if p.2.isIgnored then []
  else
    match fieldAt site p.1 p.2 with
    | .ok n =>
        let found : List Located := match n.value with
          | some _ => n.findings
          | none => n.findings ++ [.here .noField]
        found.map (.under (.property p.1))
    | .error _ => []

/-- What is found at the properties of an object is found in their order. -/
theorem inferFieldsWith_findings {site : Site} :
    ∀ {properties : List (String × Schema)} {fields : Noted (List Field)},
      inferFieldsWith typeAt site properties = .ok fields →
        fields.findings = properties.flatMap (findingsOf site)
  | [], fields, h => by
      rw [← Except.ok.inj h]
      rfl
  | (key, s) :: rest, fields, h => by
      rw [inferFieldsWith] at h
      rw [List.flatMap_cons, findingsOf]
      split at h
      · rename_i hig
        rw [if_pos hig, inferFieldsWith_findings h, List.nil_append]
      · rename_i hig
        rw [if_neg hig]
        split at h
        · exact absurd h (by simp)
        · rename_i n hone
          have hone : fieldAt site key s = .ok n := hone
          split at h
          · exact absurd h (by simp)
          · rename_i others hrest
            have hothers := inferFieldsWith_findings hrest
            rw [hone, ← hothers]
            exact congrArg Noted.findings (Except.ok.inj h).symm

/-- So have the properties of the root. -/
theorem inferColumns_value {site : Site} :
    ∀ {properties : List (String × Schema)} {fields : Noted (List Field)},
      inferColumns site properties = .ok fields →
        (∀ p ∈ properties, ∃ n, fieldAt site p.1 p.2 = .ok n) ∧
          fields.value = properties.flatMap (fieldOf site)
  | [], fields, h => by
      rw [← Except.ok.inj h]
      exact ⟨fun p hp => absurd hp List.not_mem_nil, rfl⟩
  | (key, s) :: rest, fields, h => by
      rw [inferColumns] at h
      split at h
      · exact absurd h (by simp)
      · rename_i n hone
        split at h
        · exact absurd h (by simp)
        · rename_i others hrest
          obtain ⟨hall, hval⟩ := inferColumns_value hrest
          refine ⟨List.forall_mem_cons.mpr ⟨⟨n, hone⟩, hall⟩, ?_⟩
          rw [← Except.ok.inj h, List.flatMap_cons, fieldOf_of_ok hone, ← hval]

end EntityCatalog
