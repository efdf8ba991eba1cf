import EntityCatalog.EntityType.Decoding
import EntityCatalog.Schema.Finding
import EntityCatalog.Schema.Basic

/-!
The extensions of a property's schema.

A malformed extension is a finding and counts as absent, so one mistake costs one finding and
nothing else.  The exception is a visibility that does not exist, which ends the work.
-/

namespace EntityCatalog

open Shape

/-- What becomes of an inferred expression. -/
inductive GetterOverride where
  | keep
  | remove
  | replace (expression : String)
deriving DecidableEq, Repr

namespace GetterOverride

/-- Whether the inferred expression is not kept. -/
def isSet : GetterOverride → Bool
  | .keep => false
  | _ => true

/-- The expression that remains, where `expand` completes one that is given. -/
def apply (expand : String → String) (inferred : Option String) : GetterOverride → Option String
  | .keep => inferred
  | .remove => none
  | .replace expression => some (expand expression)

end GetterOverride

/-- Who sees a column. -/
inductive Visibility where
  /-- Queries and results. -/
  | all
  /-- Queries. -/
  | queryOnly
  /-- Results. -/
  | resultsOnly
  /-- Nobody. -/
  | hidden
deriving DecidableEq, Repr

/-- The written names of the visibilities. -/
def Visibility.names : List (String × Visibility) :=
  [("all", .all), ("query-only", .queryOnly), ("results-only", .resultsOnly), ("hidden", .hidden)]

/-- The extensions of a property. -/
structure Extensions where
  name : Option String := none
  valueGetter : GetterOverride := .keep
  filterValueGetter : GetterOverride := .keep
  valueFunction : GetterOverride := .keep
  isIdColumn : Option Bool := none
  valueSourceApi : Option ValueSourceApi := none
  values : Option (List ValueLabel) := none
  visibleByDefault : Option Bool := none
  visibility : Option Visibility := none
  essential : Option Bool := none
  joinsTo : List DeclaredJoin := []
  joinsToRaw : Option (List ResolvedJoin) := none
  source : Option FieldSource := none

/-- Whether an expression is given or removed. -/
def Extensions.overridesGetters (e : Extensions) : Bool :=
  e.valueGetter.isSet || e.filterValueGetter.isSet || e.valueFunction.isSet

namespace Extensions

variable {α : Type}

/-! ## Single extensions -/

/-- The value of an extension, with what is wrong about it. -/
abbrev Read (α : Type) := α × List Finding

/-- An extension that has a shape. -/
def typed (property : String) (s : Schema) (key : String) (read : Reader α) : Read (Option α) :=
  match s.keyword? key with
  | none => (none, [])
  | some j =>
      match read .json j with
      | .ok a => (some a, [])
      | .error reason => (none, [.malformedExtension key property reason])

/-- An extension that gives or removes an expression. -/
def getter (property : String) (s : Schema) (key : String) : Read GetterOverride :=
  match s.keyword? key with
  | none => (.keep, [])
  | some .null => (.remove, [])
  | some (.string expression) => (.replace expression, [])
  | some found => (.keep, [.malformedGetter key property found])

/-- The joins, all of them or none. -/
def joins (s : Schema) : Read (List DeclaredJoin) :=
  match s.keyword? "x-fqm-joins-to" with
  | none => ([], [])
  | some j =>
      match list DeclaredJoin.read .json j with
      | .ok joins => (joins, [])
      | .error reason => ([], [.malformedJoins reason])

/-- The visibility. -/
def visibility? (property : String) (s : Schema) : Except InvalidVisibility (Option Visibility) :=
  match s.keyword? "x-fqm-visibility" with
  | none => .ok none
  | some j =>
      match j.text?.bind fun name => Visibility.names.lookup name with
      | some v => .ok (some v)
      | none => .error ⟨property, Schema.word j⟩

/-! ## All extensions of a node -/

/-- The keys that look like extensions and are none. -/
def unknown (owner : String) (s : Schema) : List Finding :=
  if s.unknownExtensions.isEmpty then [] else [.unknownExtensions owner s.unknownExtensions]

/-- A wish to be left out that is not a truth value. -/
def ignoreFindings (property : String) (s : Schema) : List Finding :=
  match s.ignoreMark with
  | .malformed j => [.malformedIgnore property j]
  | _ => []

/-- The extensions of a property's schema, with what is wrong about them. -/
def ofSchema (property : String) (s : Schema) : Except InvalidVisibility (Read Extensions) :=
  (visibility? property s).map fun visibility =>
    let joinsTo := joins s
    let name := typed property s "x-fqm-name" text
    let valueGetter := getter property s "x-fqm-value-getter"
    let filterValueGetter := getter property s "x-fqm-filter-value-getter"
    let valueFunction := getter property s "x-fqm-value-function"
    let isIdColumn := typed property s "x-fqm-is-id-column" truth
    let valueSourceApi := typed property s "x-fqm-value-source-api" ValueSourceApi.record.read
    let values := typed property s "x-fqm-values" (list ValueLabel.record.read)
    let visibleByDefault := typed property s "x-fqm-visible-by-default" truth
    let essential := typed property s "x-fqm-essential" truth
    let joinsToRaw := typed property s "x-fqm-joins-to-raw" (list ResolvedJoin.read)
    let source := typed property s "x-fqm-source" FieldSource.record.read
    ({ name := name.1, valueGetter := valueGetter.1, filterValueGetter := filterValueGetter.1,
       valueFunction := valueFunction.1, isIdColumn := isIdColumn.1,
       valueSourceApi := valueSourceApi.1, values := values.1,
       visibleByDefault := visibleByDefault.1, visibility, essential := essential.1,
       joinsTo := joinsTo.1, joinsToRaw := joinsToRaw.1, source := source.1 },
     unknown ("property " ++ property) s ++ ignoreFindings property s ++ joinsTo.2 ++ name.2
       ++ valueGetter.2 ++ filterValueGetter.2 ++ valueFunction.2 ++ isIdColumn.2
       ++ valueSourceApi.2 ++ values.2 ++ visibleByDefault.2 ++ essential.2 ++ joinsToRaw.2
       ++ source.2)

end Extensions

end EntityCatalog
