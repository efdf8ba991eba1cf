import EntityCatalog.Column.Inference
import Mathlib.Data.List.Basic

/-!
# What a node is read through

Inference sees a node through the values of its keywords, and each thing that it asks is answered by
a few of them.  So two nodes that agree on those few are not told apart, however they differ
otherwise: `requestedTag_congr`, `standing_congr`, `makeField_congr`.
-/

namespace EntityCatalog

/-- Whether a finding is about the type that a node asks for. -/
def Finding.isAboutType : Finding → Bool
  | .unknownOverride _ => true
  | .unknownReference _ => true
  | .unknownType _ => true
  | _ => false

namespace Schema

/-! ## The type and the standing of a node -/

/-- Two nodes have the same values of some keywords. -/
def AgreeOn (keys : List String) (s s' : Schema) : Prop :=
  ∀ key ∈ keys, s.keyword? key = s'.keyword? key

/-- The keywords that tell which type a node asks for. -/
def typeKeys : List String := [typeOverrideKey, "$ref", "type", "format", "pattern"]

/-- The keywords that hold other nodes. -/
def holders : List String := ["properties", "items"]

/-- The keywords that tell whether a property is left out. -/
def standingKeys : List String := ["x-fqm-ignore", virtualKey]

variable {s s' : Schema} {key : String}

theorem text?_congr (h : s.keyword? key = s'.keyword? key) : s.text? key = s'.text? key := by
  rw [text?, text?, h]

theorem typeKeyword?_congr (h : s.keyword? "type" = s'.keyword? "type") :
    s.typeKeyword? = s'.typeKeyword? := by
  rw [typeKeyword?, typeKeyword?, h]

theorem properties?_congr (h : s.keyword? "properties" = s'.keyword? "properties") :
    s.properties? = s'.properties? := by
  rw [properties?, properties?, h]

theorem items?_congr (h : s.keyword? "items" = s'.keyword? "items") : s.items? = s'.items? := by
  rw [items?, items?, h]

theorem requestedTag_congr (h : AgreeOn typeKeys s s') : requestedTag s = requestedTag s' := by
  have htext : textType s = textType s' := by
    have hformat : s.format? = s'.format? := text?_congr (h _ (by decide))
    have hpattern : s.pattern? = s'.pattern? := text?_congr (h _ (by decide))
    rw [textType, textType, hformat, hpattern]
  have hdeclared : declaredTag s = declaredTag s' := by
    have hreference : s.reference? = s'.reference? := text?_congr (h _ (by decide))
    rw [declaredTag, declaredTag, hreference, typeKeyword?_congr (h _ (by decide)), htext]
  rw [requestedTag, requestedTag, typeOverride, typeOverride, h _ (by decide), hdeclared]

theorem isAboutType_of_mem_declaredTag {s : Schema} {f : Finding} (h : f ∈ (declaredTag s).2) :
    f.isAboutType = true := by
  unfold declaredTag at h
  split at h
  · split at h
    · exact absurd h List.not_mem_nil
    · rw [List.mem_singleton.mp h]
      rfl
  · split at h <;> first
      | exact absurd h List.not_mem_nil
      | (rw [List.mem_singleton.mp h]; rfl)

/-- What is found at the type that a node asks for is about that type. -/
theorem isAboutType_of_mem_requestedTag {s : Schema} {f : Finding} (h : f ∈ (requestedTag s).2) :
    f.isAboutType = true := by
  unfold requestedTag at h
  split at h
  · exact absurd h List.not_mem_nil
  · rcases List.mem_cons.mp h with rfl | h
    · rfl
    · exact isAboutType_of_mem_declaredTag h
  · exact isAboutType_of_mem_declaredTag h

theorem ignoreMark_congr (h : s.keyword? "x-fqm-ignore" = s'.keyword? "x-fqm-ignore") :
    s.ignoreMark = s'.ignoreMark := by
  rw [ignoreMark, ignoreMark, h]

theorem isVirtual_congr (h : s.keyword? virtualKey = s'.keyword? virtualKey) :
    s.isVirtual = s'.isVirtual := by
  rw [isVirtual, isVirtual, h]

theorem standing_congr (h : AgreeOn standingKeys s s') : s.standing = s'.standing := by
  rw [standing, standing, ignoreMark_congr (h _ (by decide)), isVirtual_congr (h _ (by decide))]

/-- A column is made of the extensions of a property, of its type and of the values it allows. -/
theorem makeField_congr (h : s.keyword? "enum" = s'.keyword? "enum") (site : Site) (key : String)
    (e : Extensions) (t : DataType) : makeField site key s e t = makeField site key s' e t := by
  have hvalues : inferValues t s = inferValues t s' := by
    unfold inferValues enumValues?
    rw [h]
  rw [makeField, makeField, hvalues]

/-! ## Nodes without some keywords -/

/-- A node without the keywords of some keys. -/
def without (keys : List String) (s : Schema) : Schema :=
  ⟨s.keywords.filter fun m => !keys.contains m.1⟩

theorem keyword?_without (keys : List String) (s : Schema) (key : String) :
    (s.without keys).keyword? key = if key ∈ keys then none else s.keyword? key := by
  obtain ⟨members⟩ := s
  show (members.filter fun m => !keys.contains m.1).lookup key
    = if key ∈ keys then none else members.lookup key
  induction members with
  | nil => simp
  | cons m rest ih =>
      obtain ⟨k, j⟩ := m
      rw [List.filter_cons, List.lookup_cons]
      by_cases hk : key = k
      · subst hk
        by_cases hmem : key ∈ keys
        · rw [if_neg (by simpa using hmem), ih, if_pos hmem, if_pos hmem]
        · rw [if_pos (by simpa using hmem), List.lookup_cons_self, if_neg hmem, beq_self_eq_true]
      · have hne : (key == k) = false := beq_eq_false_iff_ne.mpr hk
        split
        · rw [List.lookup_cons, hne, ih]
        · rw [hne, ih]

/-- Keywords whose keys stay keep their values. -/
theorem agreeOn_without {keys others : List String} (h : ∀ key ∈ others, key ∉ keys)
    (s : Schema) : AgreeOn others s (s.without keys) := by
  intro key hkey
  rw [keyword?_without, if_neg (h key hkey)]

/-- Extensions that exist do not count among those that are none. -/
theorem unknownExtensions_without {keys : List String} (h : keys ⊆ allowedExtensions)
    (s : Schema) : (s.without keys).unknownExtensions = s.unknownExtensions := by
  have hkeys : (s.without keys).keywords.map (·.1)
      = (s.keywords.map (·.1)).filter fun key => !keys.contains key := by
    rw [List.filter_map]
    rfl
  rw [unknownExtensions, unknownExtensions, extensionKeys, extensionKeys, hkeys,
    List.filter_filter, List.filter_filter, List.filter_filter]
  refine List.filter_congr fun key _ => ?_
  by_cases hmem : key ∈ keys
  · have hallowed : key ∈ allowedExtensions := h hmem
    simp [hallowed]
  · simp [hmem]

end Schema

end EntityCatalog
