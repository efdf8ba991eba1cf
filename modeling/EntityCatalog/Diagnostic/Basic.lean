import EntityCatalog.Source.Basic

/-!
What is reported about a batch.

An issue says what is wrong; a diagnostic says whose issue it is.  Issues are values and not
failures: a resource that is compiled may still carry some.
-/

namespace EntityCatalog

/-! ## Issues -/

/-- How bad an issue is. -/
inductive Severity where
  | info
  | warning
  | error
deriving DecidableEq, Repr

namespace Severity

/-- The place of a severity in their order. -/
def rank : Severity → Nat
  | info => 0
  | warning => 1
  | error => 2

instance : LE Severity := ⟨fun s t => s.rank ≤ t.rank⟩

instance (s t : Severity) : Decidable (s ≤ t) := inferInstanceAs (Decidable (s.rank ≤ t.rank))

/-- The written name of a severity. -/
def name : Severity → String
  | info => "info"
  | warning => "warning"
  | error => "error"

end Severity

/-- The half of a join's target that does not exist. -/
inductive MissingTarget where
  | entity
  | field
deriving DecidableEq, Repr

/-- What an issue is about. -/
inductive IssueKind where
  /-- A schema, or a column made from it. -/
  | schema
  /-- A join that cannot be resolved as it is declared. -/
  | join (fieldName target targetField : String) (missing : MissingTarget)
  /-- Labels that are provided and not expected. -/
  | labelsExtra (keys : List String)
  /-- Labels that are expected and not provided. -/
  | labelsMissing (keys : List String)
  /-- The configuration of a module. -/
  | config
deriving DecidableEq, Repr

/-- The kind in words. -/
def IssueKind.title : IssueKind → String
  | schema => "Schema issue"
  | join .. => "Unable to resolve join"
  | labelsExtra _ => "Extra translations found"
  | labelsMissing _ => "Missing translations"
  | config => "Configuration issue"

/-- Something that is reported. -/
structure Issue where
  severity : Severity
  kind : IssueKind
  message : String
deriving DecidableEq, Repr

namespace Issue

/-- Whether the issue is an error. -/
def isError (i : Issue) : Bool := i.severity == .error

/-- The issue in words. -/
def render (i : Issue) : String := i.kind.title ++ ": " ++ i.message

end Issue

/-! ## Diagnostics -/

/-- An issue with the resource and the module that it belongs to. -/
structure Diagnostic where
  issue : Issue
  /-- The name of the entity type. -/
  entityType : Option String := none
  metadata : Option ModuleMetadata := none
deriving DecidableEq, Repr

namespace Diagnostic

/-- How bad it is. -/
def severity (d : Diagnostic) : Severity := d.issue.severity

/-- The kind of the issue, and whose it is. -/
def title (d : Diagnostic) : String :=
  match d.entityType with
  | some name => d.issue.kind.title ++ " in " ++ name
  | none => d.issue.kind.title

/-- The module in front of a message. -/
def label (m : ModuleMetadata) : String :=
  "[" ++ m.domain.name ++ "->" ++ m.moduleName ++ " (team " ++ m.team ++ ")] "

/-- The diagnostic in words. -/
def render (d : Diagnostic) : String :=
  (d.metadata.map label).getD "" ++ d.title ++ ": " ++ d.issue.message

/-- The number of diagnostics that are at least so bad. -/
def countAtLeast (ds : List Diagnostic) (s : Severity) : Nat :=
  ds.countP fun d => decide (s ≤ d.severity)

end Diagnostic

end EntityCatalog
