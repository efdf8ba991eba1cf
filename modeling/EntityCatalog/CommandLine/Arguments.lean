/-!
The arguments of a call.

A call names a command, modules, and options.  An option is written with one dash and a letter or
with two and a name; letters may stand together, and a value follows its option as the next
argument or in the same one, with or without an equals sign.  Behind two dashes alone there are
only modules.  No option may be given twice.

Arguments are taken from left to right, and the first that makes no sense ends the call, as does
the first that asks for help.
-/

namespace EntityCatalog.CommandLine

/-! ## Options -/

/-- An option of a command. -/
structure OptionRule where
  letter : Char
  name : String
  /-- What the option is for, if that is told. -/
  about : String := ""
  takesValue : Bool := false
  /-- The values that the option may have, with what they mean, the one that holds if it is not
  given in front.  Where there are none the option may have any value. -/
  choices : List (String × String) := []
deriving DecidableEq, Repr

/-- The option that prints help. -/
def helpRule : OptionRule := { letter := 'h', name := "help" }

/-- The option for force mode. -/
def forceRule (about : String) : OptionRule :=
  { letter := 'f', name := "force-generate-joins", about }

/-- The option for the form of entity types. -/
def outputRule : OptionRule :=
  { letter := 'o'
    name := "output"
    about := "Output format"
    takesValue := true
    choices :=
      [("pretty", "One summary line per entity type"), ("json", "Entity types as a JSON array")] }

/-- The option for the form of diagnostics. -/
def formatRule : OptionRule :=
  { letter := 'a'
    name := "annotations"
    about := "Diagnostic format"
    takesValue := true
    choices :=
      [("plain", "`[domain->module (team t)] Title: message`"),
       ("github", "GitHub Actions workflow commands")] }

/-- The option for a locale. -/
def localeRule : OptionRule :=
  { letter := 'l'
    name := "locale"
    about := "Locale to print (inferred defaults if not specified)"
    takesValue := true }

/-- The option for the keys of modules. -/
def keysRule : OptionRule :=
  { letter := 'm'
    name := "module-keys"
    about := "Print keys the way modules author them (`fqm.entityType.<resource>...`)" }

/-! ## Commands -/

/-- What a call may do. -/
inductive Verb where
  | compile
  | validate
  | labels
deriving DecidableEq, Repr

namespace Verb

/-- The name of a command. -/
def name : Verb → String
  | compile => "compile"
  | validate => "validate"
  | labels => "labels"

/-- What a command does. -/
def about : Verb → String
  | compile => "Compile modules and print the entity types"
  | validate => "Compile modules and report diagnostics only"
  | labels => "Print the label map of the batch"

/-- The options of a command. -/
def rules : Verb → List OptionRule
  | compile =>
      [forceRule "Use a placeholder for joins to entity types outside the batch", outputRule,
       formatRule]
  | validate => [forceRule "", formatRule]
  | labels => [localeRule, keysRule]

/-- All commands. -/
def all : List Verb := [compile, validate, labels]

/-- The command with a name. -/
def ofName? (name : String) : Option Verb := all.find? (·.name == name)

end Verb

/-- The name that asks for help where the name of a command may stand. -/
def helpName : String := "help"

/-- What help may be about. -/
inductive Topic where
  /-- All commands. -/
  | program
  | command (verb : Verb)
  /-- Help itself. -/
  | help
deriving DecidableEq, Repr

/-- What help about a name is about. -/
def Topic.ofName? (name : String) : Option Topic :=
  if name = helpName then some help else (Verb.ofName? name).map command

/-- Why a call is not run. -/
inductive Stop where
  /-- It asks for help, in full or in short. -/
  | help (topic : Topic) (inFull : Bool)
  | unknownOption (text : String)
  | missingValue (option : String)
  | unexpectedValue (option : String)
  | repeated (option : String)
  | invalidValue (option value : String)
  | missingModules
  | missingCommand
  | unknownCommand (name : String)
deriving DecidableEq, Repr

/-- The reason in words. -/
def Stop.message : Stop → String
  | help .. => ""
  | unknownOption text => "unexpected argument '" ++ text ++ "' found"
  | missingValue option => "a value is required for '--" ++ option ++ "' but none was supplied"
  | unexpectedValue option =>
      "unexpected value for '--" ++ option ++ "' found; no more were expected"
  | repeated option => "the argument '--" ++ option ++ "' cannot be used multiple times"
  | invalidValue option value => "invalid value '" ++ value ++ "' for '" ++ option ++ "'"
  | missingModules => "the following required arguments were not provided: <MODULES>..."
  | missingCommand => "a subcommand is required"
  | unknownCommand name => "unrecognized subcommand '" ++ name ++ "'"

/-! ## Parts of a call -/

/-- A part of a call. -/
inductive Given where
  | operand (text : String)
  | option (name : String) (value : String)
deriving DecidableEq, Repr

/-- What an argument is taken for. -/
inductive ArgumentKind where
  | operand
  | endOfOptions
  | named (text : List Char)
  | lettered (text : List Char)
deriving DecidableEq, Repr

/-- What an argument is taken for.  A dash alone is no option. -/
def ArgumentKind.of (argument : String) : ArgumentKind :=
  match argument.toList with
  | ['-'] => .operand
  | ['-', '-'] => .endOfOptions
  | '-' :: '-' :: text => .named text
  | '-' :: text => .lettered text
  | _ => .operand

/-- What comes behind the options in one argument. -/
inductive Sequel where
  /-- Another argument. -/
  | free
  /-- The value of an option. -/
  | value (rule : OptionRule)
  /-- Nothing, because the call is not run. -/
  | stop (reason : Stop)
deriving DecidableEq, Repr

/-- The option of a command that satisfies `p`; `written` is how it was written. -/
def optionOf (verb : Verb) (p : OptionRule → Bool) (written : String) (inFull : Bool) :
    Except Stop OptionRule :=
  if p helpRule then .error (.help (.command verb) inFull)
  else
    match verb.rules.find? p with
    | some rule => .ok rule
    | none => .error (.unknownOption written)

/-- The options whose letters stand in one argument. -/
def letters (verb : Verb) : List Char → List Given × Sequel
  | [] => ([], .free)
  | letter :: rest =>
      match optionOf verb (·.letter == letter) ("-" ++ letter.toString) false with
      | .error reason => ([], .stop reason)
      | .ok rule =>
          if rule.takesValue then
            match rest with
            | [] => ([], .value rule)
            | '=' :: value => ([.option rule.name (String.ofList value)], .free)
            | value => ([.option rule.name (String.ofList value)], .free)
          else
            let (given, sequel) := letters verb rest
            (.option rule.name "" :: given, sequel)

/-- The option that is named in one argument.  Help asked for with a value is not given. -/
def named (verb : Verb) (text : List Char) : List Given × Sequel :=
  let name := String.ofList (text.takeWhile (· ≠ '='))
  match optionOf verb (·.name == name) ("--" ++ name) true, text.dropWhile (· ≠ '=') with
  | .error (.help ..), _ :: _ => ([], .stop (.unexpectedValue name))
  | .error reason, _ => ([], .stop reason)
  | .ok rule, value =>
      match value, rule.takesValue with
      | [], true => ([], .value rule)
      | [], false => ([.option rule.name ""], .free)
      | _ :: value, true => ([.option rule.name (String.ofList value)], .free)
      | _ :: _, false => ([], .stop (.unexpectedValue rule.name))

/-- The parts of a call up to its end, or up to where there is a reason not to run it. -/
def scan (verb : Verb) : Sequel → List String → List Given × Option Stop
  | .stop reason, _ => ([], some reason)
  | .free, [] => ([], none)
  | .value rule, [] => ([], some (.missingValue rule.name))
  | .value rule, argument :: rest =>
      match ArgumentKind.of argument with
      | .operand =>
          let (given, stop) := scan verb .free rest
          (.option rule.name argument :: given, stop)
      | _ => ([], some (.missingValue rule.name))
  | .free, argument :: rest =>
      match ArgumentKind.of argument with
      | .operand =>
          let (given, stop) := scan verb .free rest
          (.operand argument :: given, stop)
      | .endOfOptions => (rest.map .operand, none)
      | .named text =>
          let (first, sequel) := named verb text
          let (given, stop) := scan verb sequel rest
          (first ++ given, stop)
      | .lettered text =>
          let (first, sequel) := letters verb text
          let (given, stop) := scan verb sequel rest
          (first ++ given, stop)

/-- The values of an option in a call. -/
def valuesOf (rule : OptionRule) (given : List Given) : List String :=
  given.filterMap fun
    | .option name value => if name = rule.name then some value else none
    | .operand _ => none

/-- Refuses an option that is given twice, or with a value that it may not have. -/
def OptionRule.check (rule : OptionRule) (given : List Given) : Except Stop Unit :=
  match valuesOf rule given with
  | [] => .ok ()
  | [value] =>
      if rule.choices.isEmpty || rule.choices.any (·.1 == value) then .ok ()
      else .error (.invalidValue ("--" ++ rule.name) value)
  | _ => .error (.repeated rule.name)

/-- Refuses modules without a name, and options that are not given as they should be. -/
def check (verb : Verb) (given : List Given) : Except Stop Unit := do
  verb.rules.forM fun rule => rule.check given
  if given.contains (.operand "") then throw (.invalidValue "<MODULES>..." "")

/-! ## Calls -/

/-- How entity types are printed. -/
inductive OutputFormat where
  /-- A line for each. -/
  | pretty
  | json
deriving DecidableEq, Repr

/-- How diagnostics are printed. -/
inductive DiagnosticFormat where
  | plain
  | github
deriving DecidableEq, Repr

/-- What a call asks for. -/
inductive Command where
  /-- Prints the entity types. -/
  | compile (modules : List String) (force : Bool) (output : OutputFormat)
      (format : DiagnosticFormat)
  /-- Prints diagnostics only. -/
  | validate (modules : List String) (force : Bool) (format : DiagnosticFormat)
  /-- Prints labels, of a locale or as they are by themselves, under the keys of the batch or of
  the modules. -/
  | labels (modules : List String) (locale : Option String) (moduleKeys : Bool)
  | version
deriving DecidableEq, Repr

/-- The value of an option, if it is given. -/
def value? (rule : OptionRule) (given : List Given) : Option String := (valuesOf rule given).head?

/-- Whether an option is given. -/
def isGiven (rule : OptionRule) (given : List Given) : Bool := (value? rule given).isSome

/-- The form of entity types. -/
def outputOf (given : List Given) : OutputFormat :=
  if value? outputRule given = some "json" then .json else .pretty

/-- The form of diagnostics. -/
def formatOf (given : List Given) : DiagnosticFormat :=
  if value? formatRule given = some "github" then .github else .plain

/-- The modules of a call. -/
def modulesOf (given : List Given) : List String :=
  given.filterMap fun
    | .operand text => some text
    | .option _ _ => none

/-- The call of a command with its parts. -/
def Verb.command (verb : Verb) (given : List Given) : Command :=
  let modules := modulesOf given
  match verb with
  | compile => .compile modules (isGiven (forceRule "") given) (outputOf given) (formatOf given)
  | validate => .validate modules (isGiven (forceRule "") given) (formatOf given)
  | labels => .labels modules (value? localeRule given) (isGiven keysRule given)

/-- Reads the arguments of a command. -/
def Verb.parse (verb : Verb) (arguments : List String) : Except Stop Command := do
  let (given, stop) := scan verb .free arguments
  check verb given
  match stop with
  | some reason => throw reason
  | none =>
      if (modulesOf given).isEmpty then throw .missingModules
      return verb.command given

/-- Reads a request for help, where the arguments name a topic or none. -/
def helpOf : List String → Stop
  | [] => .help .program true
  | name :: rest =>
      match Topic.ofName? name, rest with
      | some topic, [] => .help topic true
      | some _, other :: _ => .unknownCommand other
      | none, _ => .unknownCommand name

/-- Reads the arguments of a call. -/
def Command.parse : List String → Except Stop Command
  | [] => .error .missingCommand
  | argument :: rest =>
      match ArgumentKind.of argument with
      | .named text =>
          if text = "version".toList then .ok .version
          else if text = helpRule.name.toList then .error (.help .program true)
          else .error (.unknownOption argument)
      | .lettered ('V' :: _) => .ok .version
      | .lettered ('h' :: _) => .error (.help .program false)
      | .lettered _ => .error (.unknownOption argument)
      | .endOfOptions => .error .missingCommand
      | .operand =>
          match Verb.ofName? argument with
          | some verb => verb.parse rest
          | none => .error (if argument = helpName then helpOf rest else .unknownCommand argument)

end EntityCatalog.CommandLine
