import EntityCatalog.Proofs.Column.IndexStyle

/-!
# What is done to both sides of a comparison

A filter compares what the column stores, read by the filter getter or else by the value getter,
with what a user enters, to which the value function is applied.  It can only find something if both
sides are brought into the same form: case, accents and the numbers of a type.

The expressions of a column are texts, and a text does not say what it does: a key may hold `lower(`
as well as anything else.  So the module has them as trees (`expressions`), whose texts are the
getters that are made (`synthesize_eq_getters`), and what is done to the values is read off the
tree.  Accents and numbers are treated alike on both sides everywhere.  Lower case is not: an array
of anything but objects that is reached by keys alone has the case of its items dropped, and nothing
is done to what is entered (`synthesize_normalizes`).
-/

namespace EntityCatalog

/-- An expression of a column: what is done to a value that is stored, or that a user enters. -/
inductive Expression where
  | stored (place : String)
  | entered
  | asText (e : Expression)
  /-- A cast to numbers. -/
  | asNumber (cast : String) (e : Expression)
  | lower (e : Expression)
  /-- A value without accents, by a function of a schema. -/
  | unaccent (schemaPrefix : String) (e : Expression)
  /-- The values of an expression over the elements of an array. -/
  | each (e : Expression) (array : String)

namespace Expression

/-- The text of an expression. -/
def sql : Expression → String
  | stored place => place
  | entered => ":value"
  | asText e => e.sql ++ "::text"
  | asNumber cast e => "(" ++ e.sql ++ ")" ++ cast
  | lower e => "lower(" ++ e.sql ++ ")"
  | unaccent schemaPrefix e => schemaPrefix ++ ".f_unaccent(" ++ e.sql ++ ")"
  | each e array => Getters.aggregate e.sql array

/-- Whether values are put in lower case. -/
def lowers : Expression → Bool
  | stored _ | entered => false
  | lower _ => true
  | asText e | asNumber _ e | unaccent _ e | each e _ => e.lowers

/-- The schema whose function drops the accents of values, if they are dropped. -/
def unaccents? : Expression → Option String
  | stored _ | entered => none
  | unaccent schemaPrefix _ => some schemaPrefix
  | asText e | asNumber _ e | lower e | each e _ => e.unaccents?

/-- The cast to numbers, if there is one. -/
def cast? : Expression → Option String
  | stored _ | entered => none
  | asNumber cast _ => some cast
  | asText e | lower e | unaccent _ e | each e _ => e.cast?

end Expression

/-- The expressions of a column, as trees. -/
structure Expressions where
  value : Expression
  filter : Option Expression := none
  function : Option Expression := none

namespace Expressions

/-- The texts of the expressions. -/
def getters (x : Expressions) : Getters :=
  ⟨some x.value.sql, x.filter.map Expression.sql, x.function.map Expression.sql⟩

/-- The expressions of a property of what `base` reaches. -/
def inDocument (base key : String) (type : DataType) (folding : Option String) : Expressions :=
  let value := base ++ "->'" ++ key ++ "'"
  let text := Expression.stored (base ++ "->>'" ++ key ++ "'")
  match type with
  | .object _ => { value := .stored value }
  | .array _ (.object _) => { value := .stored value }
  | .array _ _ =>
      { value := .each (.asText (.stored "elems.value")) value
        filter := some (.each (.lower (.asText (.stored "elems.value"))) value) }
  | .leaf .rangedUuid => { value := text }
  | .leaf t =>
      match Getters.numericCast? (.leaf t), folding with
      | some cast, _ => { value := .asNumber cast text, function := some (.asNumber cast .entered) }
      | none, some schemaPrefix =>
          { value := text
            filter := some (.lower (.unaccent schemaPrefix (.asText text)))
            function := some (.lower (.unaccent schemaPrefix .entered)) }
      | none, none => { value := text }

/-- The expressions of a property of what `path` reaches inside the elements of `array`. -/
def inElements (array path key : String) (type : DataType) : Expressions :=
  let value := Expression.stored ("elems.value" ++ path ++ "->'" ++ key ++ "'")
  let text := Expression.stored ("elems.value" ++ path ++ "->>'" ++ key ++ "'")
  match type with
  | .object _ => { value := .each value array }
  | .array _ _ => { value := .each value array }
  | .leaf t =>
      match Getters.numericCast? (.leaf t) with
      | some cast =>
          { value := .each (.asNumber cast text) array
            function := some (.asNumber cast .entered) }
      | none =>
          { value := .each text array
            filter := some (.each (.lower text) array)
            function := some (.lower .entered) }

theorem sql_folded (schemaPrefix : String) (e : Expression) :
    (Expression.lower (.unaccent schemaPrefix e)).sql = Getters.folded schemaPrefix e.sql := by
  have hend : ")" ++ ")" = "))" := rfl
  rw [Expression.sql, Expression.sql, Getters.folded, ← hend]
  simp only [String.append_assoc]

theorem getters_inDocument (base key : String) (type : DataType) (folding : Option String) :
    (inDocument base key type folding).getters = Getters.inDocument base key type folding := by
  cases type with
  | object _ => rfl
  | array kind item => cases item <;> rfl
  | leaf t =>
      -- the texts of folded values are put together in another order
      have hfolded (schemaPrefix : String) (e : Expression) :
          some (Expression.lower (.unaccent schemaPrefix e)).sql
            = some (Getters.folded schemaPrefix e.sql) :=
        congrArg some (sql_folded schemaPrefix e)
      cases folding with
      | none => cases t <;> rfl
      | some schemaPrefix =>
          cases t <;> first
            | rfl
            | exact congrArg₂ (Getters.mk _) (hfolded _ (.asText (.stored _))) (hfolded _ .entered)

theorem getters_inElements (array path key : String) (type : DataType) :
    (inElements array path key type).getters = Getters.inElements array path key type := by
  cases type with
  | object _ => rfl
  | array _ _ => rfl
  | leaf t => cases t <;> rfl

end Expressions

/-- The expressions of a property of the value at a site. -/
def expressions (site : Site) (key : String) (type : DataType) : Expressions :=
  match site.scope with
  | .document keys =>
      .inDocument (site.reach keys) key type
        (if site.legacyIndexStyle then some site.schemaPrefix else none)
  | .element array keys => .inElements (site.reach array) (keyPath keys) key type

/-- The getters of a property that gives none are the texts of its expressions. -/
theorem synthesize_eq_getters {e : Extensions} (he : e.overridesGetters = false) (site : Site)
    (key : String) (type : DataType) :
    Getters.synthesize site key type e = (expressions site key type).getters := by
  rw [synthesize_of_not_overrides he, Getters.automatic, expressions]
  cases site.scope with
  | document keys => exact (Expressions.getters_inDocument _ _ _ _).symm
  | element array keys => exact (Expressions.getters_inElements _ _ _ _).symm

/-! ## Both sides -/

/-- Whether a type is that of an array whose items are anything but objects. -/
def DataType.isArrayOfOthers (t : DataType) : Bool := t.item?.any fun item => !item.isObject

namespace Expressions

/-- Whether what is stored and what is entered are both put in lower case, or neither. -/
def CaseAlike (x : Expressions) : Prop :=
  x.filter.any Expression.lowers = x.function.any Expression.lowers

/-- Whether the accents are dropped by one function on both sides, or on neither. -/
def AccentsAlike (x : Expressions) : Prop :=
  x.filter.bind Expression.unaccents? = x.function.bind Expression.unaccents?

/-- Whether the value and what is entered are cast to the same numbers, or neither is. -/
def NumbersAlike (x : Expressions) : Prop := x.value.cast? = x.function.bind Expression.cast?

/-- Whether only what is stored is put in lower case. -/
def LowersStored (x : Expressions) : Prop :=
  x.filter.any Expression.lowers = true ∧ x.function = none

theorem inDocument_alike (base key : String) (type : DataType) (folding : Option String) :
    let x := inDocument base key type folding
    (if type.isArrayOfOthers then x.LowersStored else x.CaseAlike) ∧
      x.AccentsAlike ∧ x.NumbersAlike := by
  cases type with
  | object _ => exact ⟨rfl, rfl, rfl⟩
  | array kind item =>
      cases item with
      | object _ => exact ⟨rfl, rfl, rfl⟩
      | leaf _ => exact ⟨⟨rfl, rfl⟩, rfl, rfl⟩
      | array _ _ => exact ⟨⟨rfl, rfl⟩, rfl, rfl⟩
  | leaf t => cases t <;> cases folding <;> exact ⟨rfl, rfl, rfl⟩

theorem inElements_alike (array path key : String) (type : DataType) :
    let x := inElements array path key type
    x.CaseAlike ∧ x.AccentsAlike ∧ x.NumbersAlike := by
  cases type with
  | object _ => exact ⟨rfl, rfl, rfl⟩
  | array _ _ => exact ⟨rfl, rfl, rfl⟩
  | leaf t => cases t <;> exact ⟨rfl, rfl, rfl⟩

end Expressions

/-- **Both sides of a comparison, by what is done to them.**  Where a property gives no expression,
what is stored and what is entered are alike as to accents and to numbers, wherever the property
stands, whatever its type and in both index styles.  They are alike as to case too, but for an array
of anything but objects that is reached by keys alone: its items are in lower case, and what is
entered is left as it is. -/
theorem synthesize_normalizes {e : Extensions} (he : e.overridesGetters = false) (site : Site)
    (key : String) (type : DataType) :
    Getters.synthesize site key type e = (expressions site key type).getters ∧
      (if site.scope.isDocument && type.isArrayOfOthers then
        (expressions site key type).LowersStored
      else (expressions site key type).CaseAlike) ∧
      (expressions site key type).AccentsAlike ∧ (expressions site key type).NumbersAlike := by
  refine ⟨synthesize_eq_getters he site key type, ?_⟩
  rw [expressions]
  cases site.scope with
  | document keys => exact Expressions.inDocument_alike _ _ _ _
  | element array keys => exact Expressions.inElements_alike _ _ _ _

/-- The resource that reads a source named `sauce`. -/
def sauceRoot : Site := { sourceAlias := "sauce", schemaPrefix := "$\x7btenant_id\x7d_mod_foo" }

/-- An array of texts. -/
def texts : DataType := .array .jsonb (.leaf .string)

theorem synthesize_normalizes_texts :
    ({} : Extensions).overridesGetters = false ∧
      Getters.synthesize sauceRoot "prop" texts {} = (expressions sauceRoot "prop" texts).getters ∧
      (if sauceRoot.scope.isDocument && texts.isArrayOfOthers then
        (expressions sauceRoot "prop" texts).LowersStored
      else (expressions sauceRoot "prop" texts).CaseAlike) ∧
      (expressions sauceRoot "prop" texts).AccentsAlike ∧
      (expressions sauceRoot "prop" texts).NumbersAlike :=
  ⟨rfl, synthesize_normalizes rfl sauceRoot "prop" texts⟩

/-- The items of an array of texts are compared in lower case with what is entered as it is. -/
theorem synthesize_lowers_one_side :
    Getters.synthesize sauceRoot "prop" texts {}
        = { valueGetter := some ("(SELECT array_agg(elems.value::text) FROM "
              ++ "jsonb_array_elements(:sauce.jsonb->'prop') AS elems)")
            filterValueGetter := some ("(SELECT array_agg(lower(elems.value::text)) FROM "
              ++ "jsonb_array_elements(:sauce.jsonb->'prop') AS elems)")
            valueFunction := none } ∧
      ¬ (expressions sauceRoot "prop" texts).CaseAlike := by
  refine ⟨by decide +kernel, ?_⟩
  rw [Expressions.CaseAlike]
  decide +kernel

end EntityCatalog
