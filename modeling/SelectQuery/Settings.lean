import SelectQuery.Error
import SelectQuery.Text.Blank
import SelectQuery.Text.Case

/-!
# Settings

Settings are read from the environment or given directly. Every field has a default. A
value that does not fit its field is refused, and all refusals are reported together, in
the order of the fields.
-/

namespace SelectQuery

/-- The settings of the query builder. -/
structure Settings where
  databaseUrl : Option String := none
  logLevel : String := "INFO"
  defaultSchema : String := "public"
  dialect : Option String := none
  maxRows : Int := 10000
  pageSize : Int := 50
  deriving DecidableEq

namespace Settings

/-- Why a value does not fit its field. -/
inductive Problem
  | notText
  | notInteger
  | unreadable
  | fractional
  | notFinite
  | unknownField
  deriving DecidableEq, Repr

def Problem.code : Problem → String
  | .notText => "string_type"
  | .notInteger => "int_type"
  | .unreadable => "int_parsing"
  | .fractional => "int_from_float"
  | .notFinite => "finite_number"
  | .unknownField => "extra_forbidden"

/-- The names of the fields, in order. -/
def fieldNames : List String :=
  ["database_url", "log_level", "default_schema", "dialect", "max_rows", "page_size"]

def digits? (cs : List Char) : Option Nat :=
  if !cs.isEmpty && cs.all Char.isDigit then
    some (cs.foldl (fun n c => 10 * n + (c.toNat - '0'.toNat)) 0)
  else none

/-- A whole number without its sign; a fraction of zeros may follow. -/
def magnitude? (cs : List Char) : Option Nat :=
  let fraction := (cs.dropWhile (· != '.')).drop 1
  if fraction.all (· == '0') then digits? (cs.takeWhile (· != '.')) else none

/-- A whole number with blanks around it and perhaps a sign. -/
def integer? (s : String) : Option Int :=
  match Text.trim s.toList with
  | '-' :: rest => (magnitude? rest).map fun n => -(n : Int)
  | '+' :: rest => (magnitude? rest).map Int.ofNat
  | cs => (magnitude? cs).map Int.ofNat

def asText : Value → Except Problem String
  | .text s => .ok s
  | _ => .error .notText

/-- A value as text, where there may be none. -/
def asOptionalText : Value → Except Problem (Option String)
  | .null => .ok none
  | v => some <$> asText v

def asInteger : Value → Except Problem Int
  | .int n => .ok n
  | .bool b => .ok b.toNat
  | .text s =>
    match integer? s with
    | some n => .ok n
    | none => .error .unreadable
  | .float x =>
    match x.truncate? with
    | some n => if x.isInteger n then .ok n else .error .fractional
    | none => .error .notFinite
  | _ => .error .notInteger

/-- The problem with a field, under its name. -/
def complaint {α : Type} (name : String) : Except Problem α → List (String × String)
  | .ok _ => []
  | .error p => [(name, p.code)]

/-- What was read, or the default. -/
def orDefault {α : Type} (default : α) : Except Problem α → α
  | .ok a => a
  | .error _ => default

def ofFields (fields : List (String × Value)) : Except Error Settings :=
  let defaults : Settings := {}
  let field {α : Type} (name : String) (read : Value → Except Problem α) (default : α) :
      Except Problem α :=
    match Value.field? name fields with
    | some v => read v
    | none => .ok default
  let databaseUrl := field "database_url" asOptionalText defaults.databaseUrl
  let logLevel := field "log_level" asText defaults.logLevel
  let defaultSchema := field "default_schema" asText defaults.defaultSchema
  let dialect := field "dialect" asOptionalText defaults.dialect
  let maxRows := field "max_rows" asInteger defaults.maxRows
  let pageSize := field "page_size" asInteger defaults.pageSize
  let unknown := (fields.map Prod.fst).filter (!fieldNames.contains ·)
  let complaints := complaint "database_url" databaseUrl ++ complaint "log_level" logLevel ++
    complaint "default_schema" defaultSchema ++ complaint "dialect" dialect ++
    complaint "max_rows" maxRows ++ complaint "page_size" pageSize ++
    unknown.map fun name => (name, Problem.unknownField.code)
  if complaints.isEmpty then
    .ok ⟨orDefault defaults.databaseUrl databaseUrl, orDefault defaults.logLevel logLevel,
      orDefault defaults.defaultSchema defaultSchema, orDefault defaults.dialect dialect,
      orDefault defaults.maxRows maxRows, orDefault defaults.pageSize pageSize⟩
  else .error (.settings complaints)

/-- The beginning of the environment variables that hold settings, in lower case. -/
def variableStem : String := "qbuilder_"

/-- The value of a field in the environment. Case does not matter, and the last of several
spellings counts. -/
def held? (environment : List (String × String)) (field : String) : Option Value :=
  ((environment.filter fun v => Text.lower v.1 == variableStem ++ field).getLast?).map
    fun v => .text v.2

def ofEnvironment (environment : List (String × String)) : Except Error Settings :=
  ofFields (fieldNames.filterMap fun name =>
    (held? environment name).map fun v => (name, v))

def toValue (s : Settings) : Value :=
  let text? (t : Option String) : Value := (t.map .text).getD .null
  .object [("database_url", text? s.databaseUrl), ("log_level", .text s.logLevel),
    ("default_schema", .text s.defaultSchema), ("dialect", text? s.dialect),
    ("max_rows", .int s.maxRows), ("page_size", .int s.pageSize)]

end Settings
end SelectQuery
