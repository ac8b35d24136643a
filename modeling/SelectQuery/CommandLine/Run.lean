import SelectQuery.CommandLine.Options
import SelectQuery.Configuration.Loader
import SelectQuery.Dialect.Adaptation
import SelectQuery.LogLevel
import SelectQuery.Screen.Check
import SelectQuery.Settings
import SelectQuery.Statement.Pretty
import SelectQuery.Text.Surrogate
import SelectQuery.Text.Terminal
import SelectQuery.Value.Writer

/-!
# Running the command

The command reads a configuration as a JSON document, from a file or from its input, and
prints the query. It can print the query with its values beside it, and it can check a
query instead. What the user can mend is reported in one line each; everything else that
fails ends the command with an uncaught error. So does a half of a surrogate pair in what is
to be printed, and a document that is nested deeper than the machine can follow.
-/

namespace SelectQuery.CommandLine

/-- How the command ends. -/
structure Outcome where
  exit : Nat := 0
  output : String := ""
  messages : List String := []
  uncaught : Option Error := none

namespace Outcome

/-- The command was not called as it should be. -/
def misused : Outcome := { exit := 2 }

/-- An error that is not reported ends the command. -/
def failed (e : Error) : Outcome := { exit := 1, uncaught := some e }

/-- Prints one line after the other, up to one that cannot be printed. -/
def printed : List String → Outcome
  | [] => {}
  | line :: rest =>
    match Text.plain? (Text.withoutSequences line.toList) with
    | some shown =>
      let later := printed rest
      { later with output := String.ofList (shown ++ ['\n']) ++ later.output }
    | none => failed .unprintable

/-- Messages are reported, and the command fails. -/
def refused (messages : List String) : Outcome :=
  { exit := 1
    messages := messages.map fun m =>
      String.ofList (Text.escaped (Text.withoutSequences m.toList)) }

end Outcome

def complaint (m : String) : String := "Error: " ++ m

/-- What a caller is told about a refused configuration. Other errors are not reported. -/
def refusalText? : Error → Option String
  | .configuration cause path =>
    (Error.configuration cause path).report?.map Report.text
  | _ => none

/-- Reports a refused configuration, with something in front, and lets other errors pass. -/
def orRefused (opening : String) (e : Error) : Except Error Outcome :=
  match refusalText? e with
  | some message => .ok (.refused [complaint (opening ++ message)])
  | none => .error e

def validation (s : String) : Outcome :=
  if Screen.isValid s then .printed ["OK"]
  else .refused ((Screen.errors s).map fun m => "- " ++ m)

/-- A text, laid out if that is asked for and the text was not adapted. -/
def laidOut {ν : Type} [Entry ν] (o : Options) (dialect : Option String) (s : Statement ν)
    (text : String) : String :=
  if o.pretty && (targetDialect? dialect).isNone then s.pretty else text

def query (lib : Translator) (o : Options) (dialect : Option String) (c : Configuration Value) :
    Except Error Outcome := do
  if o.parameterized then
    match c.prepare lib dialect with
    | .error e => orRefused "" e
    | .ok p =>
      let s := c.statement .bound
      let params : Value := .object (p.params.map fun (name, v) => (name, v.toValue))
      return .printed [laidOut o dialect s p.text, Json.write params]
  else
    let text ← c.preview lib dialect
    return .printed [laidOut o dialect (c.statement .preview) text]

/-- Renders the configuration of a document. The machine bounds how deep one is nested. -/
def document (lib : Translator) (nesting : Nat) (o : Options) (dialect : Option String)
    (s : String) : Except Error Outcome :=
  match Json.readWithin nesting s with
  | .error e =>
    match e.toError with
    | .malformed problem => .ok (.refused [complaint ("Invalid JSON: " ++ problem.message)])
    | e => .error e
  | .ok (.object fields) =>
    match ((Configuration.load (.object fields)).outcome {}).1 with
    | .ok c => query lib o dialect c
    | .error e => orRefused "Invalid configuration: " e
  | .ok _ => .ok (.refused [complaint "Configuration must be a JSON object"])

/-- What counts of an option: an empty one is as good as none. -/
def given? (v : Option String) : Option String := v.filter (· != "")

/-- The text on the input, without the blanks around it. -/
def inputText (input : String) : String :=
  Text.trimmed (String.ofList (Text.lineFeeds (Text.kept input.toList)))

def session (lib : Translator) (nesting : Nat) (environment : List (String × String))
    (o : Options) (input : String) : Except Error Outcome := do
  let settings ← Settings.ofEnvironment environment
  let _ ← logThresholds ((given? o.logLevel).getD settings.logLevel)
  let text := inputText input
  if text == "" then return .refused [complaint "No input provided"]
  if o.validate then return validation text
  document lib nesting o ((given? o.dialect).or settings.dialect) text

/-- The name that stands for the input in place of a file. -/
def standardInput : String := "-"

/-- The text that the command reads, if it can be read. -/
def source? (o : Options) (input : String) (read : String → Option String) : Option String :=
  match o.files with
  | [] => some input
  | [file] => if file == standardInput then some input else read file
  | _ => none

/-- The settings in the environment, as text is kept. -/
def keptEnvironment (environment : List (String × String)) : List (String × String) :=
  environment.map fun (name, v) => (name, Text.keptText v)

/-- Runs the command, given its environment and arguments, its input and the contents of
the files that can be read. How deep a document may be nested is up to the machine. -/
def run (lib : Translator) (nesting : Nat) (environment : List (String × String))
    (args : List String) (input : String) (read : String → Option String) : Outcome :=
  match Options.ofArguments args with
  | none => .misused
  | some o =>
    if o.help then {}
    else
      match source? o input read with
      | none => .misused
      | some text =>
        match session lib nesting (keptEnvironment environment) o.kept text with
        | .ok outcome => outcome
        | .error e => .failed e

end SelectQuery.CommandLine
