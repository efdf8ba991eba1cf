import EntityCatalog.Column.Getters
import EntityCatalog.Naming

/-!
Types and columns made from a schema.

`inferType` decides what a node is and follows its items and its properties; `inferFieldWith` makes
a column of a property from its type, its extensions and the expressions that read it.  The first
recurs on the number of levels that are still looked at, so the limit on nesting and the reason
why the recursion ends are one number.
-/

namespace EntityCatalog

open Schema (TypeOverride)

/-! ## The type that a node asks for -/

/-- Patterns that stand for the format of an identifier. -/
def uuidPatterns : List String :=
  ["^[a-fA-F0-9]\x7b8\x7d-[a-fA-F0-9]\x7b4\x7d-[a-fA-F0-9]\x7b4\x7d-[a-fA-F0-9]\x7b4\x7d-[a-fA-F0-9]\x7b12\x7d$",
   "^[0-9a-fA-F]\x7b8\x7d-[0-9a-fA-F]\x7b4\x7d-[1-5][0-9a-fA-F]\x7b3\x7d-[89abAB][0-9a-fA-F]\x7b3\x7d-[0-9a-fA-F]\x7b12\x7d$",
   "^[a-f0-9]\x7b8\x7d-[a-fA-F0-9]\x7b4\x7d-[a-fA-F0-9]\x7b4\x7d-[a-fA-F0-9]\x7b4\x7d-[a-fA-F0-9]\x7b12\x7d$"]

/-- The type of a text. -/
def textType (s : Schema) : LeafType :=
  match s.format? with
  | some "date" => .date
  | some "date-time" => .date
  | some "uuid" => .rangedUuid
  | _ => if s.pattern?.any uuidPatterns.contains then .rangedUuid else .string

/-- The type that a reference or the keyword `type` asks for. -/
def declaredTag (s : Schema) : TypeTag × List Finding :=
  match s.reference? with
  | some reference =>
      if Text.hasWord "uuid" reference then (.leaf .rangedUuid, [])
      else (.leaf .string, [.unknownReference reference])
  | none =>
      match s.typeKeyword? with
      | some "string" => (.leaf (textType s), [])
      | some "string,null" => (.leaf (textType s), [])
      | some "boolean" => (.leaf .boolean, [])
      | some "number" => (.leaf .number, [])
      | some "integer" => (.leaf .integer, [])
      | some "array" => (.array .jsonb, [])
      | some "object" => (.object, [])
      | keyword => (.leaf .string, [.unknownType keyword])

/-- The type that a node asks for: outright, by a reference, or by its `type`, the first that says
something. -/
def requestedTag (s : Schema) : TypeTag × List Finding :=
  match s.typeOverride with
  | .known tag => (tag, [])
  | .unknown tag => ((declaredTag s).1, .unknownOverride tag :: (declaredTag s).2)
  | .absent => declaredTag s

/-! ## Columns -/

/-- A result with findings, or the finding that ends the work. -/
abbrev Inference (α : Type) := Except InvalidVisibility (Noted α)

/-- What becomes of a property before its type is looked at. -/
inductive Standing where
  | ignored
  | skippedAsVirtual
  | kept
deriving DecidableEq, Repr

/-- What becomes of a property: it is left out if its schema says so, and also if it is computed
and its schema says nothing. -/
def Schema.standing (s : Schema) : Standing :=
  match s.ignoreMark with
  | .set true => .ignored
  | .absent => if s.isVirtual then .skippedAsVirtual else .kept
  | _ => .kept

/-- The values that a column offers. -/
def inferValues (type : DataType) (s : Schema) : Option (List ValueLabel) :=
  match s.enumValues? with
  | some values => some (values.map fun v => ⟨v, Naming.sentenceCase v⟩)
  | none =>
      match type with
      | .leaf .boolean => some [⟨"true", "True"⟩, ⟨"false", "False"⟩]
      | _ => none

/-- The column as seen by those a visibility names. -/
def ColumnInfo.withVisibility (c : ColumnInfo) : Option Visibility → ColumnInfo
  | none => c
  | some .all => { c with queryable := true, queryOnly := some false, hidden := some false }
  | some .queryOnly => { c with queryable := true, queryOnly := some true, hidden := some false }
  | some .resultsOnly =>
      { c with queryable := false, queryOnly := some false, hidden := some false }
  | some .hidden => { c with hidden := some true }

/-- Whether a column identifies its row: as the schema says, or because its key is `id`. -/
def idMark (key : String) (e : Extensions) : Option Bool :=
  match e.isIdColumn with
  | some b => some b
  | none => if Naming.snakeCase key = "id" then some true else none

/-- The column of a property of a type. -/
def makeField (site : Site) (key : String) (s : Schema) (e : Extensions) (type : DataType) :
    Field :=
  let getters := Getters.synthesize site key type e
  let info : ColumnInfo :=
    { name := e.name.getD (Naming.snakeCase key)
      sourceAlias := some site.sourceAlias
      isIdColumn := idMark key e
      queryable := !type.isObject
      visibleByDefault := e.visibleByDefault.getD false
      essential := e.essential
      valueGetter := getters.valueGetter
      filterValueGetter := getters.filterValueGetter
      valueFunction := getters.valueFunction
      values := e.values <|> inferValues type s
      valueSourceApi := e.valueSourceApi
      source := e.source
      joinsTo := e.joinsToRaw.filter (!·.isEmpty)
      declaredJoins := e.joinsTo }
  ⟨info.withVisibility e.visibility, type⟩

/-- The column of a property of the value at a site, if it is kept; `typeAt` tells the type of a
node. -/
def inferFieldWith (typeAt : Site → Schema → Inference DataType) (site : Site) (key : String)
    (s : Schema) : Inference (Option Field) :=
  match s.standing with
  | .ignored => .ok ⟨none, []⟩
  | .skippedAsVirtual => .ok ⟨none, [.here .virtualProperty]⟩
  | .kept =>
      match Extensions.ofSchema key s with
      | .error e => .error e
      | .ok (extensions, findings) =>
          match typeAt (site.property key) s with
          | .error e => .error e
          | .ok type =>
              .ok ⟨some (makeField site key s extensions type.value),
                findings.map .here ++ type.findings⟩

/-- The columns of properties, without those that are left out. -/
def inferFieldsWith (typeAt : Site → Schema → Inference DataType) (site : Site) :
    List (String × Schema) → Inference (List Field)
  | [] => .ok ⟨[], []⟩
  | (key, s) :: rest =>
      if s.isIgnored then inferFieldsWith typeAt site rest
      else
        match inferFieldWith typeAt site key s with
        | .error e => .error e
        | .ok field =>
            match inferFieldsWith typeAt site rest with
            | .error e => .error e
            | .ok fields =>
                let found : List Located := match field.value with
                  | some _ => field.findings
                  | none => field.findings ++ [.here .noField]
                .ok ⟨field.value.toList ++ fields.value,
                  found.map (.under (.property key)) ++ fields.findings⟩

/-! ## Types -/

/-- The type of a node, of which as many levels as given are looked at. -/
def inferType : (levels : Nat) → Site → Schema → Inference DataType
  | 0, _, _ => .ok ⟨.leaf .string, [.here .tooDeep]⟩
  | levels + 1, site, s =>
      let (tag, findings) := requestedTag s
      match tag with
      | .leaf t => .ok ⟨.leaf t, findings.map .here⟩
      | .object =>
          (inferFieldsWith (inferType levels) site (s.properties?.getD [])).map fun fields =>
            ⟨.object fields.value, findings.map .here ++ fields.findings⟩
      | .array kind =>
          match s.items? with
          | none =>
              .ok ⟨.array kind (.leaf .string), findings.map .here ++ [.here .unknownItems]⟩
          | some items =>
              (inferType levels site.elements items).map fun item =>
                ⟨.array kind item.value,
                  findings.map .here ++ (Extensions.unknown "array items" items).map .here
                    ++ item.findings.map (.under .items)⟩

/-- The number of levels that are looked at from a site on. -/
def Site.levels (site : Site) : Nat := maxSchemaDepth + 1 - site.depth

/-- The type of the node at a site. -/
def typeAt (site : Site) (s : Schema) : Inference DataType := inferType site.levels site s

/-- The column of a property of the value at a site, if it is kept. -/
def fieldAt (site : Site) (key : String) (s : Schema) : Inference (Option Field) :=
  inferFieldWith typeAt site key s

end EntityCatalog
