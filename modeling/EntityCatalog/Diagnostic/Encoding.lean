import EntityCatalog.Config.Encoding
import EntityCatalog.Diagnostic.Basic

/-!
The JSON form of issues and diagnostics.  The members of an issue's kind stand among those of the
issue, and these among those of the diagnostic.
-/

namespace EntityCatalog

open Json (string array object)

/-- The written name of a missing half. -/
def MissingTarget.name : MissingTarget → String
  | entity => "entity"
  | field => "field"

/-- The members that write a kind. -/
def IssueKind.members : IssueKind → List (String × Json)
  | schema => member "type" (string "schema")
  | join fieldName target targetField missing =>
      member "type" (string "join")
        ++ member "fieldName" (string fieldName)
        ++ member "target" (string target)
        ++ member "targetField" (string targetField)
        ++ member "missing" (string missing.name)
  | labelsExtra keys =>
      member "type" (string "labels-extra") ++ member "keys" (array (keys.map string))
  | labelsMissing keys =>
      member "type" (string "labels-missing") ++ member "keys" (array (keys.map string))
  | config => member "type" (string "config")

/-- The members that write an issue. -/
def Issue.members (i : Issue) : List (String × Json) :=
  member "severity" (string i.severity.name)
    ++ i.kind.members
    ++ member "message" (string i.message)

/-- An issue. -/
def Issue.toJson (i : Issue) : Json := object i.members

/-- A diagnostic. -/
def Diagnostic.toJson (d : Diagnostic) : Json :=
  object
    (d.issue.members
      ++ member? "entityTypeName" (d.entityType.map string)
      ++ member "metadata"
          (match d.metadata with
           | some m => m.toJson
           | none => .null))

end EntityCatalog
