import EntityCatalog.Diagnostic.Basic
import EntityCatalog.Text.Replace

/-!
Diagnostics as workflow commands: a line that a GitHub runner shows beside the code.

A command is one line, `::level title=…::…`.  What would end the line is escaped with a percent
sign, and so is the percent sign itself; in the title also what would end the title.

A text is escaped by one replacement after the other.  The percent sign comes first, because the
codes of the others hold it.
-/

namespace EntityCatalog.WorkflowCommand

/-- A character that may not stand in a part of a command, and what is written for it. -/
structure Escape where
  char : Char
  code : String
deriving DecidableEq, Repr

/-- What is escaped in a message, in this order. -/
def messageEscapes : List Escape := [⟨'%', "%25"⟩, ⟨'\r', "%0D"⟩, ⟨'\n', "%0A"⟩]

/-- What is escaped in a title, in this order. -/
def titleEscapes : List Escape := messageEscapes ++ [⟨':', "%3A"⟩, ⟨',', "%2C"⟩]

/-- A text with one character after the other escaped. -/
def escape (escapes : List Escape) (text : String) : String :=
  escapes.foldl (fun text e => Text.replaceAll (String.singleton e.char) e.code text) text

/-- The name of a severity in a command. -/
def level : Severity → String
  | .error => "error"
  | .warning => "warning"
  | .info => "notice"

end EntityCatalog.WorkflowCommand

namespace EntityCatalog

/-- The diagnostic as a workflow command. -/
def Diagnostic.workflowCommand (d : Diagnostic) : String :=
  "::" ++ WorkflowCommand.level d.severity
    ++ " title=" ++ WorkflowCommand.escape WorkflowCommand.titleEscapes d.title
    ++ "::" ++ WorkflowCommand.escape WorkflowCommand.messageEscapes d.issue.message

end EntityCatalog
