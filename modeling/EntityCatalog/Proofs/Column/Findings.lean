import EntityCatalog.Proofs.Column.Looked

/-!
# What is found at which node

Every finding of inference is raised at one node, out of what that node says of itself: its
extensions and the type that it asks for, that it is computed, or that it is too deep.  Inference
passes the findings up through properties and items and puts a step before them each time.  In the
end they are those of the nodes that it looks at, node after node, behind the steps that lead there
(`fieldAt_findings_eq`, `typeAt_findings`).

Nothing is silent: a property of an object has a column, or is found to have none, or asks to be
left out (`PropertiesAccounted`).
-/

namespace EntityCatalog

/-! ## What a node says of itself -/

/-- What is found at the type of a node at a depth.  Keys that look like extensions at the items of
an array are found at the array. -/
def typeFindings (depth : Nat) (s : Schema) : List Finding :=
  if maxSchemaDepth < depth then [.tooDeep]
  else
    (requestedTag s).2 ++
      match (requestedTag s).1 with
      | .array _ =>
          match s.items? with
          | none => [.unknownItems]
          | some items => Extensions.unknown "array items" items
      | _ => []

/-- What is found at a property that stands at a depth, and whether it is nested in another.  One that
is nested and has no column is found to have none. -/
def propertyFindings (depth : Nat) (nested : Bool) (key : String) (s : Schema) : List Finding :=
  match s.standing with
  | .ignored => []
  | .skippedAsVirtual => .virtualProperty :: if nested then [.noField] else []
  | .kept => Extensions.findings key s ++ typeFindings depth s

/-- What is found at a node, where its steps begin at a node that stands at a depth, is or is not
nested in another, and is reached by a step itself. -/
def Reached.findings (depth : Nat) (nested : Bool) (first : Step) (r : Reached) : List Located :=
  let found : List Finding := match r.steps.getLastD first with
    | .property key =>
        propertyFindings (depth + r.steps.length) (nested || !r.steps.isEmpty) key r.schema
    | .items => typeFindings (depth + r.steps.length) r.schema
  found.map (Located.mk r.steps)

/-- Seen from one step further out, what is found at a node is behind that step. -/
theorem Reached.findings_under (depth : Nat) (nested : Bool) (first step : Step) (r : Reached) :
    (r.under step).findings depth nested first
      = (r.findings (depth + 1) true step).map (.under step) := by
  have hdepth : depth + (r.steps.length + 1) = depth + 1 + r.steps.length := by omega
  simp only [findings, under, List.getLastD_cons, List.length_cons, List.isEmpty_cons, Bool.not_false,
    Bool.or_true, Bool.true_or, hdepth, List.map_map]
  rfl

theorem flatMap_findings_under (depth : Nat) (nested : Bool) (first step : Step)
    (nodes : List Reached) :
    (nodes.map (Reached.under step)).flatMap (Reached.findings depth nested first)
      = (nodes.flatMap (Reached.findings (depth + 1) true step)).map (.under step) := by
  rw [List.flatMap_map, List.map_flatMap]
  exact List.flatMap_congr fun r _ => r.findings_under depth nested first step

/-! ## One property -/

/-- The findings of an inference at a node are those of the nodes below it, behind its own. -/
def FoundBelow (site : Site) (s : Schema) : Prop :=
  ∀ t, typeAt site s = .ok t → ∀ nested first,
    t.findings = (typeFindings site.depth s).map .here
      ++ (lookedBelow site.levels s).flatMap (Reached.findings site.depth nested first)

/-- What is found at a property, and that it has no column if it is nested, is found at the nodes
from it on. -/
theorem found_eq_of_below {site : Site} {p : Property} {n : Noted (Option Field)}
    (h : fieldAt site p.1 p.2 = .ok n) (hbelow : FoundBelow (site.property p.1) p.2)
    (nested : Bool) :
    n.findings ++ (if p.2.standing = .skippedAsVirtual ∧ nested = true then [.here .noField] else [])
      = (lookedAt site p).flatMap
          (Reached.findings (site.depth + 1) nested (.property p.1)) := by
  rw [lookedAt, lookedFrom]
  cases hk : p.2.standing with
  | ignored =>
      rw [fieldAt_of_isIgnored (standing_eq_ignored_iff.mp hk)] at h
      rw [← Except.ok.inj h]
      rfl
  | skippedAsVirtual =>
      rw [fieldAt_of_skipped hk] at h
      rw [← Except.ok.inj h]
      simp only [List.flatMap_cons, List.flatMap_nil, List.append_nil, Reached.findings,
        List.getLastD_nil, propertyFindings, hk]
      cases nested <;> rfl
  | kept =>
      obtain ⟨e, findings, t, he, ht, rfl⟩ := fieldAt_eq_of_kept h hk
      have hown : Reached.findings (site.depth + 1) nested (.property p.1) ⟨[], p.2⟩
          = (Extensions.findings p.1 p.2).map .here
              ++ (typeFindings (site.property p.1).depth p.2).map .here := by
        rw [← List.map_append]
        simp only [Reached.findings, List.getLastD_nil, propertyFindings, hk]
        rfl
      rw [List.flatMap_cons, hown, (ofSchema_eq_ok he).2,
        hbelow t ht nested (.property p.1), if_neg (by simp), List.append_nil]
      exact (List.append_assoc _ _ _).symm

/-- What an object says of one of its properties: what is found there, and that it has no column if
it is skipped. -/
theorem findingsOf_eq {site : Site} {p : Property} {n : Noted (Option Field)}
    (h : fieldAt site p.1 p.2 = .ok n) :
    findingsOf site p
      = (n.findings
          ++ if p.2.standing = .skippedAsVirtual then [Located.here .noField] else []).map
            (.under (.property p.1)) := by
  rw [findingsOf, h]
  cases hk : p.2.standing with
  | ignored =>
      have hig := standing_eq_ignored_iff.mp hk
      rw [fieldAt_of_isIgnored hig] at h
      rw [if_pos hig, ← Except.ok.inj h]
      rfl
  | skippedAsVirtual =>
      have hig : ¬ p.2.isIgnored = true := not_isIgnored_of_standing hk (by simp)
      rw [fieldAt_of_skipped hk] at h
      rw [if_neg hig, ← Except.ok.inj h]
      rfl
  | kept =>
      have hig : ¬ p.2.isIgnored = true := not_isIgnored_of_standing hk (by simp)
      obtain ⟨e, findings, t, -, -, rfl⟩ := fieldAt_eq_of_kept h hk
      rw [if_neg hig]
      simp

/-! ## A node and what is below it -/

/-- What is found at the type of a node is found at the node and, one after the other, at the nodes
below it. -/
theorem typeAt_findings (site : Site) (s : Schema) : FoundBelow site s := by
  induction hl : site.levels generalizing site s with
  | zero =>
      intro t h nested first
      have hdeep : maxSchemaDepth < site.depth := by
        unfold Site.levels at hl
        omega
      rw [typeAt_tooDeep hl] at h
      rw [← Except.ok.inj h, typeFindings, if_pos hdeep, hl]
      rfl
  | succ levels ih =>
      intro t h nested first
      have hshallow : ¬ maxSchemaDepth < site.depth := by
        unfold Site.levels at hl
        omega
      have hproperty : ∀ key, (site.property key).levels = levels := by
        intro key
        rw [Site.levels_property, hl, Nat.add_sub_cancel]
      have helements : site.elements.levels = levels := by
        rw [Site.levels_elements, hl, Nat.add_sub_cancel]
      rw [typeFindings, if_neg hshallow, hl, lookedBelow]
      cases nodeNoted_of_typeAt (by omega) h with
      | leaf htag =>
          rw [htag]
          simp
      | @object own fields htag hfields =>
          rw [htag, inferFieldsWith_findings hfields, List.append_nil, List.flatMap_assoc]
          refine congrArg _ (List.flatMap_congr fun p hp => ?_)
          obtain ⟨n, hn⟩ := (inferFieldsWith_value hfields).1 p hp
          have hbelow : FoundBelow (site.property p.1) p.2 := ih _ p.2 (hproperty p.1)
          rw [findingsOf_eq hn, flatMap_findings_under, ← hproperty p.1]
          show _ = ((lookedAt site p).flatMap _).map _
          rw [← found_eq_of_below hn hbelow true]
          simp only [and_true]
      | unknownItems htag hitems =>
          rw [htag, hitems]
          simp
      | @array kind own items item htag hitems hitem =>
          have hown : Reached.findings (site.depth + 1) true .items ⟨[], items⟩
              = (typeFindings (site.depth + 1) items).map .here := rfl
          have hbelow := ih site.elements items helements item hitem true .items
          rw [htag, hitems]
          dsimp only
          rw [flatMap_findings_under, List.flatMap_cons, hown, hbelow, helements]
          simp only [List.map_append, List.append_assoc]
          rfl

/-- What is found at a property is found at the nodes from it on. -/
theorem fieldAt_findings_eq {site : Site} {p : Property} {n : Noted (Option Field)}
    (h : fieldAt site p.1 p.2 = .ok n) :
    n.findings = (lookedAt site p).flatMap
      (Reached.findings (site.depth + 1) false (.property p.1)) := by
  rw [← found_eq_of_below h (typeAt_findings _ _) false]
  simp

/-! ## The properties of an object -/

/-- Whether it is found at an object that one of its properties has no column. -/
def Located.isMissing : Located → Bool
  | ⟨[.property _], .noField⟩ => true
  | _ => false

/-- The columns of an object and what is found there account for its properties: those that are kept
have their columns in order, and of the others it is found that they have none, unless they ask to
be left out. -/
structure PropertiesAccounted (site : Site) (properties : List Property) (fields : List Field)
    (findings : List Located) : Prop where
  kept : List.Forall₂ (fun p f => ∃ n, fieldAt site p.1 p.2 = .ok n ∧ n.value = some f)
    (properties.filter (·.2.standing = .kept)) fields
  others : ∀ p ∈ properties, p.2.standing ≠ .kept →
    ∃ n, fieldAt site p.1 p.2 = .ok n ∧ n.value = none
  balance : fields.length + findings.countP Located.isMissing + properties.countP (·.2.isIgnored)
    = properties.length

/-- What is found at a kept property itself does not say that it has no column. -/
theorem noField_not_mem_own {depth : Nat} {p : Property} :
    Finding.noField ∉ Extensions.findings p.1 p.2 ++ typeFindings depth p.2 := by
  intro h
  rcases List.mem_append.mp h with h | h
  · exact nomatch Extensions.isAboutExtensions_of_mem_findings h
  · unfold typeFindings at h
    split at h
    · exact nomatch List.mem_singleton.mp h
    · rcases List.mem_append.mp h with h | h
      · exact nomatch Schema.isAboutType_of_mem_requestedTag h
      · split at h
        · split at h
          · exact nomatch List.mem_singleton.mp h
          · exact nomatch Extensions.isAboutExtensions_of_mem_unknown h
        · exact absurd h List.not_mem_nil

/-- Inside a property, nothing says that the property itself has no column. -/
theorem noField_not_mem_findings {site : Site} {p : Property} {n : Noted (Option Field)}
    (h : fieldAt site p.1 p.2 = .ok n) : Located.here .noField ∉ n.findings := by
  rw [fieldAt_findings_eq h]
  intro hmem
  obtain ⟨r, hr, hfound⟩ := List.mem_flatMap.mp hmem
  obtain ⟨f, hf, heq⟩ := List.mem_map.mp hfound
  obtain ⟨hsteps, rfl⟩ := Located.mk.inj heq
  rcases mem_lookedFrom.mp hr with ⟨hk, rfl⟩ | ⟨-, hbelow⟩
  · have hf : Finding.noField ∈ propertyFindings (site.depth + 1) false p.1 p.2 := hf
    unfold propertyFindings at hf
    split at hf
    · exact absurd hf List.not_mem_nil
    · exact absurd hf (by simp)
    · exact noField_not_mem_own hf
  · exact ne_nil_of_mem_lookedBelow hbelow hsteps

/-- A property of an object counts once: by its column, as one that has none, or as one that asks to
be left out. -/
theorem count_property {site : Site} {p : Property} {n : Noted (Option Field)}
    (h : fieldAt site p.1 p.2 = .ok n) :
    (fieldOf site p).length + (findingsOf site p).countP Located.isMissing
      + [p].countP (·.2.isIgnored) = 1 := by
  have hmissing : (n.findings.map (Located.under (.property p.1))).countP Located.isMissing = 0 := by
    refine List.countP_eq_zero.mpr fun l hl hmiss => ?_
    obtain ⟨⟨steps, finding⟩, hfound, rfl⟩ := List.mem_map.mp hl
    unfold Located.isMissing at hmiss
    split at hmiss
    · rename_i heq
      obtain ⟨hsteps, rfl⟩ := Located.mk.inj heq
      obtain rfl : steps = [] := (List.cons.inj hsteps).2
      exact noField_not_mem_findings h hfound
    · exact nomatch hmiss
  rw [fieldOf_of_ok h, findingsOf_eq h, List.map_append, List.countP_append, hmissing]
  cases hk : p.2.standing with
  | ignored =>
      have hig : p.2.isIgnored = true := standing_eq_ignored_iff.mp hk
      have hvalue : n.value = none := fieldAt_not_kept h (by rw [hk]; simp)
      rw [hvalue, List.countP_singleton, hig]
      rfl
  | skippedAsVirtual =>
      have hig : ¬ p.2.isIgnored = true := not_isIgnored_of_standing hk (by simp)
      have hvalue : n.value = none := fieldAt_not_kept h (by rw [hk]; simp)
      rw [hvalue, List.countP_singleton, if_neg hig]
      rfl
  | kept =>
      have hig : ¬ p.2.isIgnored = true := not_isIgnored_of_standing hk (by simp)
      obtain ⟨e, findings, t, -, -, hvalue⟩ := fieldAt_kept h hk
      rw [hvalue, List.countP_singleton, if_neg hig]
      rfl

theorem count_properties {site : Site} {properties : List Property}
    (h : ∀ p ∈ properties, ∃ n, fieldAt site p.1 p.2 = .ok n) :
    (properties.flatMap (fieldOf site)).length
        + (properties.flatMap (findingsOf site)).countP Located.isMissing
        + properties.countP (·.2.isIgnored) = properties.length := by
  induction properties with
  | nil => rfl
  | cons p rest ih =>
      obtain ⟨⟨n, hn⟩, hrest⟩ := List.forall_mem_cons.mp h
      have hone := count_property hn
      have hothers := ih hrest
      rw [List.countP_singleton] at hone
      rw [List.flatMap_cons, List.flatMap_cons, List.length_append, List.countP_append,
        List.countP_cons, List.length_cons]
      omega

theorem forall₂_kept {site : Site} {properties : List Property}
    (h : ∀ p ∈ properties, ∃ n, fieldAt site p.1 p.2 = .ok n) :
    List.Forall₂ (fun p f => ∃ n, fieldAt site p.1 p.2 = .ok n ∧ n.value = some f)
      (properties.filter (·.2.standing = .kept)) (properties.flatMap (fieldOf site)) := by
  induction properties with
  | nil => exact .nil
  | cons p rest ih =>
      obtain ⟨⟨n, hn⟩, hrest⟩ := List.forall_mem_cons.mp h
      rw [List.filter_cons, List.flatMap_cons, fieldOf_of_ok hn]
      by_cases hk : p.2.standing = .kept
      · obtain ⟨e, findings, t, -, -, hvalue⟩ := fieldAt_kept hn hk
        rw [if_pos (decide_eq_true hk), hvalue]
        exact .cons ⟨n, hn, hvalue⟩ (ih hrest)
      · rw [if_neg (fun hkept => hk (of_decide_eq_true hkept)), fieldAt_not_kept hn hk]
        exact ih hrest

/-- The properties of every node that is an object are accounted for. -/
theorem propertiesAccounted_of_typeAt {site : Site} {s : Schema} {t : Noted DataType}
    (h : typeAt site s = .ok t) {fields : List Field} (ho : t.value = .object fields) :
    PropertiesAccounted site (s.properties?.getD []) fields t.findings := by
  obtain ⟨hl, -⟩ := typeAt_object h ho
  cases nodeNoted_of_typeAt hl h with
  | leaf _ => exact nomatch ho
  | unknownItems _ _ => exact nomatch ho
  | array _ _ _ => exact nomatch ho
  | @object own made _ hfields =>
      obtain rfl : made.value = fields := DataType.object.inj ho
      obtain ⟨hok, hvalue⟩ := inferFieldsWith_value hfields
      have hown : (own.map Located.here).countP Located.isMissing = 0 := by
        refine List.countP_eq_zero.mpr fun l hl hmiss => ?_
        obtain ⟨f, -, rfl⟩ := List.mem_map.mp hl
        exact nomatch hmiss
      refine ⟨?_, fun p hp hk => ?_, ?_⟩
      · rw [hvalue]
        exact forall₂_kept hok
      · obtain ⟨n, hn⟩ := hok p hp
        exact ⟨n, hn, fieldAt_not_kept hn hk⟩
      · rw [List.countP_append, hown, Nat.zero_add, hvalue, inferFieldsWith_findings hfields]
        exact count_properties hok

/-! ## What is found further in -/

/-- A finding as it is seen from where steps begin that lead to it. -/
def Located.behind (steps : List Step) (l : Located) : Located := { l with steps := steps ++ l.steps }

theorem map_behind_cons (step : Step) (steps : List Step) (findings : List Located) :
    findings.map (Located.behind (step :: steps))
      = (findings.map (Located.behind steps)).map (.under step) := by
  rw [List.map_map]
  rfl

/-- What is found where a step leads is found, as it is, behind the step. -/
theorem findings_of_stepsTo {site : Site} {s s' : Schema} {step : Step} {t : Noted DataType}
    (h : typeAt site s = .ok t) (hl : site.levels ≠ 0) (hstep : StepsTo s step s') :
    ∃ t', typeAt (site.step step) s' = .ok t' ∧
      t'.findings.map (.under step) <:+: t.findings := by
  cases hstep with
  | @property p htag hp hk =>
      cases nodeNoted_of_typeAt hl h with
      | leaf hown => exact nomatch htag.symm.trans (congrArg Prod.fst hown)
      | unknownItems hown _ => exact nomatch htag.symm.trans (congrArg Prod.fst hown)
      | array hown _ _ => exact nomatch htag.symm.trans (congrArg Prod.fst hown)
      | object _ hfields =>
          obtain ⟨n, hn⟩ := (inferFieldsWith_value hfields).1 p hp
          have hpart : findingsOf site p <:+: (s.properties?.getD []).flatMap (findingsOf site) :=
            List.infix_of_mem_flatten (List.mem_map_of_mem hp)
          rw [← inferFieldsWith_findings hfields, findingsOf_eq hn, hk] at hpart
          obtain ⟨e, findings, t', -, ht', rfl⟩ := fieldAt_eq_of_kept hn hk
          refine ⟨t', ht', .trans ?_ (hpart.trans (List.suffix_append _ _).isInfix)⟩
          rw [if_neg nofun, List.append_nil]
          exact List.IsInfix.map _ (List.suffix_append _ _).isInfix
  | items htag hitems =>
      cases nodeNoted_of_typeAt hl h with
      | leaf hown => exact nomatch htag.symm.trans (congrArg Prod.fst hown)
      | object hown _ => exact nomatch htag.symm.trans (congrArg Prod.fst hown)
      | unknownItems _ hnone => exact nomatch hitems.symm.trans hnone
      | array _ hsome hitem =>
          obtain rfl := Option.some.inj (hsome.symm.trans hitems)
          exact ⟨_, hitem, (List.suffix_append _ _).isInfix⟩

/-- What is found at a node to which steps lead is found, as it is, behind the steps. -/
theorem findings_of_reaches {site : Site} {s s' : Schema} {steps : List Step}
    {t : Noted DataType} (h : typeAt site s = .ok t) (hreach : Reaches s steps s')
    (hlength : steps.length ≤ site.levels) :
    ∃ t', typeAt (site.follow steps) s' = .ok t' ∧
      t'.findings.map (.behind steps) <:+: t.findings := by
  induction hreach generalizing site t with
  | refl =>
      have hsame : t.findings.map (Located.behind []) = t.findings := List.map_id _
      exact ⟨t, h, hsame.symm ▸ List.infix_rfl⟩
  | @step s s' s'' step steps hstep _ ih =>
      rw [List.length_cons] at hlength
      obtain ⟨t', ht', hpart⟩ := findings_of_stepsTo h (by omega) hstep
      have hlevels : (site.step step).levels = site.levels - 1 := by
        cases step with
        | property key => exact site.levels_property key
        | items => exact site.levels_elements
      obtain ⟨t'', ht'', hinner⟩ := ih ht' (by omega)
      refine ⟨t'', ht'', ?_⟩
      rw [map_behind_cons]
      exact (hinner.map _).trans hpart

/-- A finding is worded with the steps to it in front, outermost first. -/
theorem Located.message_eq (l : Located) :
    l.message = String.join (l.steps.map Step.message) ++ l.finding.message := by
  obtain ⟨steps, finding⟩ := l
  induction steps with
  | nil => simp [message]
  | cons step steps ih =>
      rw [List.map_cons, String.join_cons, String.append_assoc, ← ih]
      rfl

/-! ## What is found is accounted for -/

/-- What is found at a property is what each node that is looked at has to say of itself, node after
node in the order of a walk, each with the steps to it in front; and the properties of all objects
are accounted for. -/
structure FindingsAccounted (site : Site) (p : Property) (n : Noted (Option Field)) : Prop where
  found : n.findings = (lookedAt site p).flatMap
    (Reached.findings (site.depth + 1) false (.property p.1))
  worded : ∀ l ∈ n.findings,
    l.message = String.join (l.steps.map Step.message) ++ l.finding.message
  looked : ∀ r, r ∈ lookedAt site p ↔
    (p.2.standing ≠ .ignored ∧ r = ⟨[], p.2⟩) ∨
      (p.2.standing = .kept ∧ LooksBelow p.2 r.steps r.schema ∧
        r.steps.length ≤ 32 - site.depth)
  ordered : (lookedAt site p).Pairwise fun r r' => Precedes p.2 r.steps r'.steps
  once : DistinctKeys p.2 → ((lookedAt site p).map Reached.steps).Nodup
  objects : p.2.standing = .kept → ∀ steps s, Reaches p.2 steps s →
    steps.length ≤ 32 - site.depth →
      ∃ t, typeAt ((site.property p.1).follow steps) s = .ok t ∧
        t.findings.map (.behind steps) <:+: n.findings ∧
        ∀ fields, t.value = .object fields →
          PropertiesAccounted ((site.property p.1).follow steps) (s.properties?.getD []) fields
            t.findings

/-- **Nothing that is found is lost, repeated or misplaced.**  If a property is inferred at all, what
is found is exactly what the nodes that are looked at have to say, each of them once and in the order
of a walk, behind the steps that lead there; and of every object the columns, the properties that
are found to have none and those that ask to be left out are all the properties that it declares. -/
theorem fieldAt_findings {site : Site} {p : Property} {n : Noted (Option Field)}
    (h : fieldAt site p.1 p.2 = .ok n) : FindingsAccounted site p n := by
  have hlevels : (site.property p.1).levels = 32 - site.depth := by
    show maxSchemaDepth + 1 - (site.depth + 1) = 32 - site.depth
    rw [maxSchemaDepth]
    omega
  refine ⟨fieldAt_findings_eq h, fun l _ => l.message_eq, fun r => ?_, pairwise_lookedAt site p,
    nodup_lookedAt site, fun hk steps s hreach hlength => ?_⟩
  · rw [lookedAt, mem_lookedFrom, mem_lookedBelow_iff, hlevels]
  · obtain ⟨e, findings, t, -, ht, rfl⟩ := fieldAt_eq_of_kept h hk
    obtain ⟨t', ht', hpart⟩ := findings_of_reaches ht hreach (hlevels ▸ hlength)
    exact ⟨t', ht', hpart.trans (List.suffix_append _ _).isInfix,
      fun fields ho => propertiesAccounted_of_typeAt ht' ho⟩

/-- The place of orders in their table. -/
def shipmentSite : Site := { sourceAlias := "orders", schemaPrefix := "$\x7btenant_id\x7d_mod_orders" }

/-- A shipment, an object with lines that are objects themselves, and with something wrong at most of
its nodes. -/
def shipment : Property :=
  ("shipment", .ofJson (.object
    [("type", .string "object"),
     ("x-fqm-colour", .string "red"),
     ("properties", .object
       [("secret", .object [("x-fqm-ignore", .bool true)]),
        ("total", .object [("type", .string "number"), ("folio:isVirtual", .bool true)]),
        ("lines", .object
          [("type", .string "array"),
           ("items", .object
             [("type", .string "object"),
              ("x-fqm-hue", .string "blue"),
              ("properties", .object
                [("amount", .object [("type", .string "money")]),
                 ("links", .object [("type", .string "array")]),
                 ("weight", .object [("folio:isVirtual", .bool true)])])])]),
        ("note", .object [("type", .string "string"), ("x-fqm-name", .bool true)])])]))

/-- What is found at the shipment, in words. -/
def shipmentFindings : List String :=
  ["Invalid custom properties found for property shipment: x-fqm-colour",
   "in object property total: " ++ Finding.virtualProperty.message,
   "in object property total: unable to generate field",
   "in object property lines: Invalid custom properties found for array items: x-fqm-hue",
   "in object property lines: in array: in object property amount: Unknown type: money",
   "in object property lines: in array: in object property links: "
     ++ "Array type with unknown item type; defaulting to string",
   "in object property lines: in array: in object property weight: "
     ++ Finding.virtualProperty.message,
   "in object property lines: in array: in object property weight: unable to generate field",
   "in object property note: Invalid value for x-fqm-name in property note: "
     ++ "invalid type: boolean `true`, expected a string"]

theorem fieldAt_findings_shipment :
    ∃ n, fieldAt shipmentSite shipment.1 shipment.2 = .ok n ∧
      n.findings.map Located.message = shipmentFindings ∧
      FindingsAccounted shipmentSite shipment n := by
  have hfound : (fieldAt shipmentSite shipment.1 shipment.2).toOption.map
      (fun n => n.findings.map Located.message) = some shipmentFindings := by
    decide +kernel
  obtain ⟨n, hn, hmessages⟩ := exists_ok_of_toOption hfound
  exact ⟨n, hn, hmessages, fieldAt_findings hn⟩

end EntityCatalog
