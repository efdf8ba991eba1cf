import EntityCatalog.Column.Site
import EntityCatalog.Schema.Extensions

/-!
The expressions of a column.

A column has up to three: one that reads its value from the document, one that filters compare
against, and one that is applied to what a user enters before it is compared.  They follow from
the type of the column and from where its value stands; extensions of the schema replace or remove
each by itself.
-/

namespace EntityCatalog

/-- What stands for the source in an expression that is given. -/
def sourcePlaceholder : String := "$\x7bsource\x7d"

/-- The expressions of a column. -/
structure Getters where
  valueGetter : Option String := none
  filterValueGetter : Option String := none
  valueFunction : Option String := none
deriving DecidableEq, Repr

namespace Getters

/-- The values of an expression over the elements of an array. -/
def aggregate (expression array : String) : String :=
  "(SELECT array_agg(" ++ expression ++ ") FROM jsonb_array_elements(" ++ array ++ ") AS elems)"

/-- The cast to the numbers of a type, for numeric types. -/
def numericCast? : DataType → Option String
  | .leaf .integer => some "::integer"
  | .leaf .number => some "::float"
  | _ => none

/-- A text without accents and in lower case. -/
def folded (schemaPrefix expression : String) : String :=
  "lower(" ++ schemaPrefix ++ ".f_unaccent(" ++ expression ++ "))"

/-- The expressions of a property of what `base` reaches.  Accents and case are dropped where a
schema with the function for it is given. -/
def inDocument (base key : String) (type : DataType) (folding : Option String) : Getters :=
  let value := base ++ "->'" ++ key ++ "'"
  let text := base ++ "->>'" ++ key ++ "'"
  match type with
  | .object _ => { valueGetter := some value }
  | .array _ (.object _) => { valueGetter := some value }
  | .array _ _ =>
      { valueGetter := some (aggregate "elems.value::text" value)
        filterValueGetter := some (aggregate "lower(elems.value::text)" value) }
  | .leaf .rangedUuid => { valueGetter := some text }
  | .leaf t =>
      match numericCast? (.leaf t), folding with
      | some cast, _ =>
          { valueGetter := some ("(" ++ text ++ ")" ++ cast)
            valueFunction := some ("(:value)" ++ cast) }
      | none, some schemaPrefix =>
          { valueGetter := some text
            filterValueGetter := some (folded schemaPrefix (text ++ "::text"))
            valueFunction := some (folded schemaPrefix ":value") }
      | none, none => { valueGetter := some text }

/-- The expressions of a property of what `path` reaches inside the elements of `array`. -/
def inElements (array path key : String) (type : DataType) : Getters :=
  let value := "elems.value" ++ path ++ "->'" ++ key ++ "'"
  let text := "elems.value" ++ path ++ "->>'" ++ key ++ "'"
  match type with
  | .object _ => { valueGetter := some (aggregate value array) }
  | .array _ _ => { valueGetter := some (aggregate value array) }
  | .leaf t =>
      match numericCast? (.leaf t) with
      | some cast =>
          { valueGetter := some (aggregate ("(" ++ text ++ ")" ++ cast) array)
            valueFunction := some ("(:value)" ++ cast) }
      | none =>
          { valueGetter := some (aggregate text array)
            filterValueGetter := some (aggregate ("lower(" ++ text ++ ")") array)
            valueFunction := some "lower(:value)" }

/-- The expressions of a property of the value at a site, as far as nothing is said about them. -/
def automatic (site : Site) (key : String) (type : DataType) (legacy : Bool) : Getters :=
  match site.scope with
  | .document keys =>
      inDocument (site.reach keys) key type (if legacy then some site.schemaPrefix else none)
  | .element array keys => inElements (site.reach array) (keyPath keys) key type

/-- The expressions of a property of the value at a site. -/
def synthesize (site : Site) (key : String) (type : DataType) (e : Extensions) : Getters :=
  let inferred := automatic site key type (site.legacyIndexStyle && !e.overridesGetters)
  let expand := Text.replaceAll sourcePlaceholder (":" ++ site.sourceAlias)
  { valueGetter := e.valueGetter.apply expand inferred.valueGetter
    filterValueGetter := e.filterValueGetter.apply expand inferred.filterValueGetter
    valueFunction := e.valueFunction.apply expand inferred.valueFunction }

end Getters

end EntityCatalog
