import EntityCatalog.Diagnostic.Basic
import EntityCatalog.EntityType.Decoding

/-!
Columns edited by hand.

A configuration adds columns, writes members over those of a column, and takes columns away, in
this order.  A column is found by its name, the first of several.  An edit that does not apply
leaves the columns as they are and is reported.
-/

namespace EntityCatalog

open Shape

/-! ## Edits that do not apply -/

/-- Why an edit does not apply. -/
inductive EditFailure where
  /-- There is no column to write over. -/
  | overrideOfNone (column : String)
  /-- What is to be written over a column is not a table of members. -/
  | overrideByValue (column : String)
  /-- What comes of a column is none. -/
  | overrideInvalid (column : String) (reason : Mismatch)
  /-- There is no column to take away. -/
  | exclusionOfNone (column : String)
deriving Repr

/-- The reason in words. -/
def EditFailure.message : EditFailure → String
  | .overrideOfNone column => "Field override for " ++ column ++ " does not match any field"
  | .overrideByValue column =>
      "Field override for " ++ column ++ " must be a table of field properties"
  | .overrideInvalid column reason =>
      "Invalid override for field " ++ column ++ ": " ++ reason.message
  | .exclusionOfNone column => "Field exclusion " ++ column ++ " does not match any field"

/-- The failure as it is reported. -/
def EditFailure.issue (e : EditFailure) : Issue := ⟨.warning, .config, e.message⟩

/-! ## Additions -/

/-- The columns with the first of a name replaced. -/
def replaceColumn (name : String) (new : Field) : List Field → List Field
  | [] => []
  | c :: rest => if c.name = name then new :: rest else c :: replaceColumn name new rest

/-- Whether there is a column with a name. -/
def hasColumn (columns : List Field) (name : String) : Bool := columns.any (·.name == name)

/-- The columns with one more, in the place of the first of its name if there is one. -/
def addColumn (columns : List Field) (new : Field) : List Field :=
  if hasColumn columns new.name then replaceColumn new.name new columns else columns ++ [new]

/-- The columns with others added, one after the other. -/
def addColumns (columns additions : List Field) : List Field := additions.foldl addColumn columns

/-! ## Overrides -/

/-- The members of a column in JSON. -/
def Field.members (f : Field) : List (String × Json) := f.toColumnInfo.members f.dataType.toJson

/-- The column that results where members are written over those of a column. -/
def Field.overridden (f : Field) (members : List (String × Json)) : Except Mismatch Field :=
  Field.read .json (.object (members.foldl (fun ms m => put m.1 m.2 ms) f.members))

/-- The columns with members written over those of one of them. -/
def overrideColumn (columns : List Field) (name : String) (value : Json) :
    Except EditFailure (List Field) :=
  match columns.find? (·.name == name), value with
  | none, _ => .error (.overrideOfNone name)
  | some column, .object members =>
      match column.overridden members with
      | .ok new => .ok (replaceColumn name new columns)
      | .error reason => .error (.overrideInvalid name reason)
  | some _, _ => .error (.overrideByValue name)

/-! ## Exclusions -/

/-- The columns without those of a name. -/
def excludeColumn (columns : List Field) (name : String) : Except EditFailure (List Field) :=
  if hasColumn columns name then .ok (columns.filter fun c => c.name != name)
  else .error (.exclusionOfNone name)

/-! ## Several edits -/

/-- The columns after edits, one after the other, with the edits that failed. -/
def editColumns {α : Type} (edit : List Field → α → Except EditFailure (List Field)) :
    List Field → List α → List Field × List EditFailure
  | columns, [] => (columns, [])
  | columns, a :: rest =>
      match edit columns a with
      | .ok new => editColumns edit new rest
      | .error failure =>
          let (result, failures) := editColumns edit columns rest
          (result, failure :: failures)

/-- The columns with members written over theirs, name by name. -/
def overrideColumns (columns : List Field) (overrides : OrderedMap Json) :
    List Field × List EditFailure :=
  editColumns (fun cs o => overrideColumn cs o.1 o.2) columns overrides.entries

/-- The columns without those that are named. -/
def excludeColumns (columns : List Field) (names : List String) :
    List Field × List EditFailure :=
  editColumns excludeColumn columns names

end EntityCatalog
