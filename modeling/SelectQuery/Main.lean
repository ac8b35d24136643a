import SelectQuery.CommandLine.Run

/-!
# The command

The outer layer of the command: it fetches the environment, the input and the file, runs
`CommandLine.run` and prints what comes out.
-/

namespace SelectQuery.CommandLine

/-- The environment variables that hold settings, in upper and in lower case. -/
def fetchEnvironment : IO (List (String × String)) := do
  let mut found := []
  for field in Settings.fieldNames do
    let name := Settings.variableStem ++ field
    for spelling in [name, Text.upper name] do
      if let some held := ← IO.getEnv spelling then
        found := found ++ [(spelling, held)]
  return found

/-- The text of a file, if it can be read. -/
def fetchFile (path : String) : IO (Option String) := do
  try
    return some (← IO.FS.readFile path)
  catch _ =>
    return none

def fetchInput : IO String := do
  (← IO.getStdin).readToEnd

/-- Runs the command with a library for dialects, where a bound is set on how deep a document
may be nested. -/
def command (lib : Translator) (nesting : Nat) (args : List String) : IO UInt32 := do
  let files := ((Options.ofArguments args).map Options.files).getD []
  let contents ← files.mapM fun file => return (file, ← fetchFile file)
  let readsInput := files.isEmpty || files.contains standardInput
  let input ← if readsInput then fetchInput else pure ""
  let outcome := run lib nesting (← fetchEnvironment) args input fun file =>
    (contents.lookup file).join
  IO.print outcome.output
  for message in outcome.messages do
    IO.eprintln message
  if let some e := outcome.uncaught then
    IO.eprintln ((e.report?.map Report.text).getD "The command failed.")
  return outcome.exit.toUInt32

end SelectQuery.CommandLine
