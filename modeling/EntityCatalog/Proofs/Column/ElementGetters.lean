import EntityCatalog.Proofs.Column.IndexStyle
import EntityCatalog.Proofs.Column.Reached

/-!
# What reads the columns inside arrays

A column inside an array has one value for each element of that array, and its expressions go
through them.  Which array that is, and what is read of an element, follows from the steps that lead
to the column's property: the keys before the first step into items reach the array, the keys behind
it are read of each element, and further arrays on the way leave no trace (`elementGetters`).

The steps are those that inference takes through the schema, so the statement is about all columns
at any depth together, each held against the property that it is made of
(`forall₂_elementGetters`).
-/

namespace EntityCatalog

/-- The expressions of a column. -/
def Field.getters (f : Field) : Getters := ⟨f.valueGetter, f.filterValueGetter, f.valueFunction⟩

/-- The expressions of a column that is read, by the keys `inside`, of each element of the array
that the keys `outside` reach from the document of a source. -/
def elementGetters (sourceAlias : String) (outside inside : List String) (type : DataType) :
    Getters :=
  let value := "elems.value" ++ keyPath inside
  let text := "elems.value" ++ keyPath inside.dropLast ++ "->>'" ++ inside.getLast?.getD "" ++ "'"
  let each (expression : String) : String :=
    "(SELECT array_agg(" ++ expression ++ ") FROM jsonb_array_elements("
      ++ (":" ++ sourceAlias ++ ".jsonb" ++ keyPath outside) ++ ") AS elems)"
  match type with
  | .leaf .integer =>
      { valueGetter := some (each ("(" ++ text ++ ")" ++ "::integer"))
        valueFunction := some "(:value)::integer" }
  | .leaf .number =>
      { valueGetter := some (each ("(" ++ text ++ ")" ++ "::float"))
        valueFunction := some "(:value)::float" }
  | .leaf _ =>
      { valueGetter := some (each text)
        filterValueGetter := some (each ("lower(" ++ text ++ ")"))
        valueFunction := some "lower(:value)" }
  | .object _ => { valueGetter := some (each value) }
  | .array _ _ => { valueGetter := some (each value) }

theorem inElements_eq (site : Site) (outside inside : List String) (key : String)
    (type : DataType) :
    Getters.inElements (site.reach outside) (keyPath inside) key type
      = elementGetters site.sourceAlias outside (inside ++ [key]) type := by
  have hvalue : "elems.value" ++ keyPath inside ++ "->'" ++ key ++ "'"
      = "elems.value" ++ keyPath (inside ++ [key]) := by
    rw [keyPath_concat]
    simp only [String.append_assoc]
  have htext : "elems.value" ++ keyPath inside ++ "->>'" ++ key ++ "'"
      = "elems.value" ++ keyPath (inside ++ [key]).dropLast ++ "->>'"
          ++ (inside ++ [key]).getLast?.getD "" ++ "'" := by
    rw [List.dropLast_concat, List.getLast?_concat]
    rfl
  unfold Getters.inElements elementGetters
  simp only [hvalue, htext]
  cases type with
  | object properties => rfl
  | array kind item => rfl
  | leaf t => cases t <;> rfl

theorem makeField_getters (site : Site) (key : String) (s : Schema) (e : Extensions)
    (t : DataType) : (makeField site key s e t).getters = Getters.synthesize site key t e :=
  congrArg (fun info => Field.getters ⟨info, t⟩) (withVisibility_frame _ e.visibility)

/-- A column inside an array is read of its elements, by the keys of its own property last. -/
theorem Visit.Makes.elementGetters {v : Visit} {g : Field} (h : v.Makes g)
    {outside inside : List String} (hs : v.site.scope = .element outside inside)
    (hgives : ¬ v.property.GivesGetter) :
    g.getters = EntityCatalog.elementGetters v.site.sourceAlias outside (inside ++ [v.property.1])
      g.dataType := by
  obtain ⟨n, hn, hval⟩ := h
  obtain ⟨e, findings, t, he, -, rfl⟩ := makeField_of_value hn hval
  have hno : e.overridesGetters = false :=
    Bool.not_eq_true _ ▸ fun hset => hgives ((overridesGetters_iff he).mp hset)
  rw [makeField_getters, synthesize_of_not_overrides hno, Getters.automatic, hs]
  exact inElements_eq v.site outside inside v.property.1 t.value

/-- What the steps to a property say of its column, if one of them goes into an array and the
property gives no expression itself. -/
def ReadOfElements (sourceAlias : String) (r : Reached) (g : Field) : Prop :=
  ∀ p, r.property? = some p → Step.items ∈ r.steps → ¬ p.GivesGetter →
    g.getters = elementGetters sourceAlias (keysOutside r.steps) (keysInside r.steps) g.dataType

theorem readOfElements_of_makes {root : Site} (hroot : root.scope = .document []) {r : Reached}
    {v : Visit} (hv : r.visit? root = some v) {g : Field} (h : v.Makes g) :
    ReadOfElements root.sourceAlias r g := by
  intro p hp hitems hgives
  -- the last step is the property's own, so the others go into the array
  obtain ⟨step, hlast, hkey⟩ : ∃ step, r.steps.getLast? = some step ∧ step = .property p.1 := by
    rw [Reached.property?] at hp
    obtain ⟨key, hkey, rfl⟩ := Option.map_eq_some_iff.mp hp
    obtain ⟨step, hlast, hstep⟩ := Option.bind_eq_some_iff.mp hkey
    cases step with
    | property key' => exact ⟨_, hlast, congrArg _ (Option.some.inj hstep)⟩
    | items => cases hstep
  obtain rfl := hkey
  have hsteps : r.steps.dropLast ++ [.property p.1] = r.steps :=
    List.dropLast_append_getLast? _ hlast
  have houter : Step.items ∈ r.steps.dropLast := by
    rw [← hsteps] at hitems
    simpa using hitems
  rw [Reached.visit?, hp] at hv
  obtain rfl := Option.some.inj hv
  have hgetters := h.elementGetters (Site.scope_follow_of_mem hroot houter) hgives
  rw [hgetters, Site.sourceAlias_follow, ← hsteps, keysOutside_concat houter,
    keysInside_concat houter, hsteps]
  rfl

/-- **A column inside an array is read of the array's elements.**  The columns at any depth in that
of a root property are those of the properties that inference comes to, one by one and in order.
Where one of the steps to a property goes into an array, and the property gives no expression, the
column's expressions go through the elements of the outermost array on the way and read of each the
keys that follow: as a text, with a cast or in lower case for what queries compare, or as it stands.
The index style of the resource has no part in them. -/
theorem forall₂_elementGetters {root : Site} (hroot : root.scope = .document []) {p : Property}
    {n : Noted (Option Field)} {f : Field} (h : fieldAt root p.1 p.2 = .ok n)
    (hf : n.value = some f) :
    List.Forall₂ (ReadOfElements root.sourceAlias) (propertiesReached root p) (allFields [f]) :=
  (forall₂_reached h hf).imp fun _ _ ⟨_, hv, hmakes⟩ => readOfElements_of_makes hroot hv hmakes

/-- The place of the root of an order's schema, in the older index style. -/
def orderSite : Site :=
  { sourceAlias := "orders", schemaPrefix := "mod_orders", legacyIndexStyle := true }

/-- The details of an order: lines, each with funds and with batches of batches. -/
def orderDetails : Property :=
  ("details", Schema.ofJson (.object
    [("type", .string "object"),
     ("properties", .object
       [("lines", .object
         [("type", .string "array"),
          ("items", .object
            [("type", .string "object"),
             ("properties", .object
               [("fund", .object
                 [("type", .string "object"),
                  ("properties", .object
                    [("code", .object [("type", .string "string")]),
                     ("share", .object [("type", .string "number")])])]),
                ("batches", .object
                  [("type", .string "array"),
                   ("items", .object
                     [("type", .string "array"),
                      ("items", .object
                        [("type", .string "object"),
                         ("properties", .object
                           [("poNumber", .object [("type", .string "integer")])])])])])])])])])]))

/-- What reads the columns of the details, by name. -/
def orderGetters : List (String × Option String) :=
  let each (expression : String) : Option String :=
    some ("(SELECT array_agg(" ++ expression ++ ") FROM jsonb_array_elements("
      ++ ":orders.jsonb->'details'->'lines') AS elems)")
  [("details", some ":orders.jsonb->'details'"),
   ("lines", some ":orders.jsonb->'details'->'lines'"),
   ("fund", each "elems.value->'fund'"),
   ("code", each "elems.value->'fund'->>'code'"),
   ("share", each "(elems.value->'fund'->>'share')::float"),
   ("batches", each "elems.value->'batches'"),
   ("po_number", each "(elems.value->'batches'->>'poNumber')::integer")]

theorem forall₂_elementGetters_orderDetails :
    orderSite.scope = .document [] ∧
      ∃ n f, fieldAt orderSite orderDetails.1 orderDetails.2 = .ok n ∧ n.value = some f ∧
        (allFields [f]).map (fun g => (g.name, g.valueGetter)) = orderGetters ∧
        List.Forall₂ (ReadOfElements orderSite.sourceAlias)
          (propertiesReached orderSite orderDetails) (allFields [f]) := by
  have hread : (fieldAt orderSite orderDetails.1 orderDetails.2).toOption.map
      (fun n => n.value.map fun f => (allFields [f]).map fun g => (g.name, g.valueGetter))
        = some (some orderGetters) := by
    decide +kernel
  obtain ⟨n, hn, hvalue⟩ := exists_ok_of_toOption hread
  obtain ⟨f, hf, hgetters⟩ := Option.map_eq_some_iff.mp hvalue
  exact ⟨rfl, n, f, hn, hf, hgetters, forall₂_elementGetters rfl hn hf⟩

end EntityCatalog
