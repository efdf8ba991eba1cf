import EntityCatalog.EntityType.Basic
import EntityCatalog.Naming
import EntityCatalog.OrderedMap
import EntityCatalog.Text.Replace
import EntityCatalog.Text.WordChar

/-!
The labels that entity types and columns have by themselves.

Each entity type, each column and each property below a column has a key, and a text in English
that follows from its name:

    entityType.<entity>
    entityType.<entity>.<column>
    entityType.<entity>.<column>.<property>
    entityType.<entity>.<column>.<property>._qualified

The last is the property's text with its owner's in front.  An array adds nothing to a key: what
it holds is labelled under the key of the array, and where it holds identifiers the text says so.

Properties are labelled from the last to the first, and each in qualified form before its plain
one.  That order is seen where keys meet: the key keeps its first place and has the last text.
-/

namespace EntityCatalog

/-- Texts by key. -/
abbrev Labels := OrderedMap String

namespace Label

/-! ## Texts -/

/-- The labels of columns that many records have. -/
def conventions : List (String × String) :=
  [("created_date", "Created date"),
   ("created_by_user_id", "Created by user UUID"),
   ("created_by_username", "Created by username"),
   ("updated_date", "Updated date"),
   ("updated_by_user_id", "Updated by user UUID"),
   ("updated_by_username", "Updated by username")]

/-- The label of what has a name and a type. -/
def text (name : String) (type : DataType) : String :=
  if name = "jsonb" then "JSONB"
  else
    match conventions.lookup ((Text.stripStart? "metadata_" name).getD name) with
    | some label => label
    | none =>
        let label := Naming.sentenceCase name
        match type with
        | .leaf .rangedUuid => (Text.replaceWord? "id" "UUID" label).getD label
        | _ => label

/-! ## Columns -/

mutual
/-- The labels of what has a key, a name and a type, and of all below it, in the order in which
they are written. -/
def entries (key name : String) : DataType → List (String × String)
  | .leaf t => [(key, text name (.leaf t))]
  | .array kind item => (key, text name (.array kind item)) :: entries key name item
  | .object properties =>
      (key, text name (.object properties)) :: propertyEntries key name properties

/-- The labels of the properties of what has a key and a name. -/
def propertyEntries (key name : String) : List Field → List (String × String)
  | [] => []
  | ⟨info, t⟩ :: rest =>
      propertyEntries key name rest
        ++ entries (key ++ "." ++ info.name ++ "._qualified") (name ++ " " ++ info.name) t
        ++ entries (key ++ "." ++ info.name) info.name t
end

/-- The key of an entity type. -/
def entityKey (entity : String) : String := "entityType." ++ entity

end Label

/-- The labels of a column of the entity type with a name. -/
def Field.labels (f : Field) (entity : String) : Labels :=
  OrderedMap.ofList (Label.entries (Label.entityKey entity ++ "." ++ f.name) f.name f.dataType)

/-- The labels of an entity type and its columns. -/
def EntityType.labels (e : EntityType) : Labels :=
  e.columns.foldl (fun labels column => labels.extend (column.labels e.name))
    (OrderedMap.empty.insert (Label.entityKey e.name) (Naming.sentenceCase e.resourceName))

end EntityCatalog
