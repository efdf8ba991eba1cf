import EntityCatalog.CommandLine.Arguments

/-!
Help about the commands.

Help about a command lists its options, in short with a line for each, in full with room around
each and with what its values mean.  Only a command with an option whose values mean something has
help in full.
-/

namespace EntityCatalog.CommandLine

/-- Spaces. -/
def blanks (count : Nat) : String := String.ofList (List.replicate count ' ')

/-- A text with spaces behind it up to a width. -/
def padded (width : Nat) (text : String) : String := text ++ blanks (width - text.length)

/-! ## All commands -/

/-- What help is for. -/
def helpAbout : String := "Print this message or the help of the given subcommand(s)"

/-- The names of the commands, each with what it does. -/
def commandLines : List String :=
  ((Verb.all.map fun verb => (verb.name, verb.about)) ++ [(helpName, helpAbout)]).map
    fun (name, about) => "  " ++ padded 10 name ++ about

/-- Help about all commands. -/
def usage : List String :=
  ["entype - Compile JSON Schema resources into query-engine entity types",
   "",
   "Usage: entype <COMMAND>",
   "",
   "Commands:"]
    ++ commandLines
    ++ ["",
        "Options:",
        "  -h, --help     Print help",
        "  -V, --version  Print version"]

/-- Help about help. -/
def helpUsage : List String :=
  [helpAbout,
   "",
   "Usage: entype help [COMMAND]...",
   "",
   "Arguments:",
   "  [COMMAND]...  Print help for the subcommand(s)"]

/-! ## Single commands -/

namespace OptionRule

/-- The name of an option with what stands for its value. -/
def title (rule : OptionRule) : String :=
  "--" ++ rule.name ++ (if rule.takesValue then " <" ++ rule.name.toUpper ++ ">" else "")

/-- An option as it is written in help. -/
def heading (rule : OptionRule) (text : String) : String :=
  "  -" ++ rule.letter.toString ++ ", " ++ text

/-- The value that holds if the option is not given, for help. -/
def presetNote (rule : OptionRule) : List String :=
  match rule.choices with
  | [] => []
  | first :: _ => ["[default: " ++ first.1 ++ "]"]

/-- The values that the option may have, for help. -/
def choicesNote (rule : OptionRule) : List String :=
  if rule.choices.isEmpty then []
  else ["[possible values: " ++ ", ".intercalate (rule.choices.map (·.1)) ++ "]"]

/-- An option in a line, whose titles have a width. -/
def line (width : Nat) (rule : OptionRule) : String :=
  let notes := (if rule.about.isEmpty then [] else [rule.about]) ++ rule.presetNote
    ++ rule.choicesNote
  rule.heading (padded width rule.title) ++ "  " ++ " ".intercalate notes

/-- What the values of an option mean. -/
def meanings (rule : OptionRule) : List String :=
  let width := (rule.choices.map (·.1.length)).foldl max 0
  rule.choices.map fun (value, meaning) =>
    blanks 10 ++ "- " ++ padded (width + 2) (value ++ ":") ++ meaning

/-- An option with what its values mean. -/
def paragraph (rule : OptionRule) : List String :=
  [rule.heading rule.title, blanks 10 ++ rule.about]
    ++ (if rule.choices.isEmpty then []
        else ["", blanks 10 ++ "Possible values:"] ++ rule.meanings)
    ++ rule.presetNote.flatMap (fun note => [blanks 10, blanks 10 ++ note])

end OptionRule

namespace Verb

/-- Whether the help of a command has more to tell in full. -/
def hasMore (verb : Verb) : Bool := verb.rules.any fun rule => !rule.choices.isEmpty

/-- The options of a command, with the one for help. -/
def allRules (verb : Verb) (inFull : Bool) : List OptionRule :=
  let about :=
    if !verb.hasMore then "Print help"
    else if inFull then "Print help (see a summary with '-h')"
    else "Print help (see more with '--help')"
  verb.rules ++ [{ helpRule with about }]

/-- Help about a command. -/
def usage (verb : Verb) (inFull : Bool) : List String :=
  let rules := verb.allRules inFull
  let width := (rules.map (·.title.length)).foldl max 0
  [verb.about, "", "Usage: entype " ++ verb.name ++ " [OPTIONS] <MODULES>...", "", "Arguments:"]
    ++ if inFull && verb.hasMore then
        ["  <MODULES>...", blanks 10 ++ "Module directories", "", "Options:"]
          ++ [""].intercalate (rules.map OptionRule.paragraph)
      else
        ["  <MODULES>...  Module directories", "", "Options:"] ++ rules.map (OptionRule.line width)

end Verb

/-- The help that a call asks for. -/
def helpLines (topic : Topic) (inFull : Bool) : List String :=
  match topic with
  | .program => usage
  | .command verb => verb.usage inFull
  | .help => helpUsage

end EntityCatalog.CommandLine
