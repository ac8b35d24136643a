import SelectQuery.Text.Surrogate

/-!
# Options of the command

The arguments of the command are options and at most one file. An option begins with a
dash. It either switches something or takes a value, which follows as the next argument or
in the same one. After two dashes everything is a file.
-/

namespace SelectQuery.CommandLine

/-- What was asked for. -/
structure Options where
  files : List String := []
  dialect : Option String := none
  logLevel : Option String := none
  validate : Bool := false
  parameterized : Bool := false
  pretty : Bool := false
  help : Bool := false
  deriving DecidableEq, Repr

/-- What an option does. -/
inductive Effect
  | switch (change : Options → Options)
  | value (change : String → Options → Options)

/-- The option for the dialect. -/
def setDialect (v : String) (o : Options) : Options := { o with dialect := some v }

def longOptions : List (String × Effect) :=
  [("--dialect", .value setDialect),
    ("--log-level", .value fun v o => { o with logLevel := some v }),
    ("--validate", .switch fun o => { o with validate := true }),
    ("--parameterized", .switch fun o => { o with parameterized := true }),
    ("--pretty", .switch fun o => { o with pretty := true }),
    ("--no-pretty", .switch fun o => { o with pretty := false }),
    ("--help", .switch fun o => { o with help := true })]

/-- The short name of the option for the dialect. -/
def shortDialect : List Char := ['-', 'd']

/-- An argument as an option. -/
inductive Reading
  /-- The argument is complete. -/
  | done (change : Options → Options)
  /-- The value of the option is the next argument. -/
  | needsValue (change : String → Options → Options)
  /-- There is no such option. -/
  | wrong

def splitValue (cs : List Char) : List Char × Option (List Char) :=
  match cs.dropWhile (· != '=') with
  | _ :: value => (cs.takeWhile (· != '='), some value)
  | [] => (cs, none)

def readOption (cs : List Char) : Reading :=
  let (name, value) := splitValue cs
  match longOptions.lookup (String.ofList name), value with
  | some (.switch change), none => .done change
  | some (.switch _), some _ => .wrong
  | some (.value change), some v => .done (change (String.ofList v))
  | some (.value change), none => .needsValue change
  | none, _ =>
    if cs.take 2 != shortDialect then .wrong
    else if cs.length == 2 then .needsValue setDialect
    else .done (setDialect (String.ofList (cs.drop 2)))

/-- An argument is an option. A single dash is a file. -/
def isOption (arg : String) : Bool := arg.toList.head? == some '-' && arg != "-"

def endOfOptions : String := "--"

def readFrom (o : Options) : List String → Option Options
  | [] => some o
  | arg :: rest =>
    if arg == endOfOptions then some { o with files := o.files ++ rest }
    else if isOption arg then
      match readOption arg.toList with
      | .done change => readFrom (change o) rest
      | .needsValue change =>
        match rest with
        | value :: rest => readFrom (change value o) rest
        | [] => none
      | .wrong => none
    else readFrom { o with files := o.files ++ [arg] } rest

def Options.ofArguments (args : List String) : Option Options := readFrom {} args

/-- The options with their values as text is kept. Files are outside. -/
def Options.kept (o : Options) : Options :=
  { o with
    dialect := o.dialect.map Text.keptText
    logLevel := o.logLevel.map Text.keptText }

end SelectQuery.CommandLine
