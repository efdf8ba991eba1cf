import EntityCatalog.CommandLine.Help
import EntityCatalog.CommandLine.Loading
import EntityCatalog.Diagnostic.WorkflowCommand
import EntityCatalog.EntityType.Encoding

/-!
What a call prints, and how it ends.

A call ends with 0 if all went well, with 1 if there are errors among the diagnostics or there are
no labels for a locale, and with 2 if the arguments make no sense or no module could be loaded.
-/

namespace EntityCatalog.CommandLine

/-- How a call ends. -/
structure Outcome where
  exitCode : UInt32
  stdout : String := ""
  stderr : String := ""
deriving DecidableEq, Repr

/-- Lines, each with its end. -/
def lines (ls : List String) : String := String.join (ls.map (· ++ "\n"))

/-- What the program calls itself, and its version. -/
def versionLine : String := "entype 0.1.0"

/-- How a call ends that is not run. -/
def Stop.outcome : Stop → Outcome
  | .help topic inFull => { exitCode := 0, stdout := lines (helpLines topic inFull) }
  | stop =>
      { exitCode := 2
        stderr := lines ["error: " ++ stop.message, "", "For more information, try '--help'."] }

/-- A diagnostic in a format. -/
def DiagnosticFormat.render : DiagnosticFormat → Diagnostic → String
  | plain => Diagnostic.render
  | github => Diagnostic.workflowCommand

/-- The line that tells an entity type. -/
def summary (e : EntityType) : String :=
  e.name ++ " (" ++ e.id.render ++ "): " ++ toString e.columns.length ++ " columns"

/-- Entity types in a format. -/
def OutputFormat.render : OutputFormat → List EntityType → List String
  | pretty, es => es.map summary
  | json, es => [(Json.array (es.map EntityType.toJson)).pretty]

/-- The line that tells the result of a check. -/
def tally (c : Catalog) : String :=
  let errors := Diagnostic.countAtLeast c.diagnostics .error
  let warnings := Diagnostic.countAtLeast c.diagnostics .warning - errors
  toString c.entityTypes.length ++ " entity types, " ++ toString errors ++ " errors, "
    ++ toString warnings ++ " warnings"

/-- How a call ends with a catalog. -/
def exitCode (c : Catalog) : UInt32 := if c.hasErrors then 1 else 0

/-- Labels under the keys that modules write. -/
def underModuleKeys (labels : Labels) : Labels :=
  OrderedMap.ofList (labels.entries.map fun e => (Label.toModule e.1, e.2))

/-- Labels in JSON. -/
def renderLabels (labels : Labels) : String :=
  (Json.object (labels.entries.map fun e => (e.1, .string e.2))).pretty

/-- How a call ends that asks for labels. -/
def labelsOutcome (c : Catalog) (locale : Option String) (moduleKeys : Bool) : Outcome :=
  let chosen : Except String Labels := match locale with
    | none => .ok c.labels
    | some l =>
        match c.locales.get? l with
        | some labels => .ok labels
        | none => .error ("No labels for locale '" ++ l ++ "'")
  match chosen with
  | .error line => { exitCode := 1, stderr := lines [line] }
  | .ok labels =>
      { exitCode := 0
        stdout := lines [renderLabels (if moduleKeys then underModuleKeys labels else labels)] }

variable {m : Type → Type} [Monad m]

/-- Makes the catalog of the modules of directories, and ends the call with it. -/
def withCatalog (files : Files m) (directories : List String) (force : Bool)
    (finish : Catalog → Outcome) : m Outcome := do
  let (modules, reported) ← loadModules files directories
  if modules.isEmpty then
    return {
      exitCode := 2
      stderr := lines (reported ++ ["No valid configs found. Exiting."]) }
  let outcome := finish (Catalog.compile modules force)
  return { outcome with stderr := lines reported ++ outcome.stderr }

/-- Runs a command. -/
def Command.run (files : Files m) : Command → m Outcome
  | .compile modules force output format =>
      withCatalog files modules force fun c =>
        { exitCode := exitCode c
          stdout := lines (output.render c.entityTypes)
          stderr := lines (c.diagnostics.map format.render) }
  | .validate modules force format =>
      withCatalog files modules force fun c =>
        { exitCode := exitCode c
          stdout := lines [tally c]
          stderr := lines (c.diagnostics.map format.render) }
  | .labels modules locale moduleKeys =>
      withCatalog files modules false fun c => labelsOutcome c locale moduleKeys
  | .version => return { exitCode := 0, stdout := lines [versionLine] }

/-- Runs a call. -/
def run (files : Files m) (arguments : List String) : m Outcome :=
  match Command.parse arguments with
  | .ok command => command.run files
  | .error stop => return stop.outcome

end EntityCatalog.CommandLine
