import SelectQuery.Value.Display
import SelectQuery.Value.Reader

/-!
# Errors

Every refusal of the library is a cause with its data (`Error`). What a caller is told
about it, the wording and the attributes, is computed from the cause in one place
(`Error.report`, `BadValue.message`).
-/

namespace SelectQuery

/-- A value was put to a use that it does not have. -/
inductive Misuse
  /-- Something other than text was trimmed or matched. -/
  | notText
  /-- An optional field was asked of something other than an object. -/
  | notObject
  /-- A field was looked for in something that has none. -/
  | notSearchable
  /-- The items were asked of something that has none. -/
  | notIterable
  /-- A list or an object was looked up in a set. -/
  | notAtomic
  /-- Something other than text was joined to text. -/
  | notJoinable
  /-- Something other than a number was used as one. -/
  | notNumber
  /-- Values without an order were compared. -/
  | notOrdered
  /-- A required field is missing, or a field is not known. -/
  | wrongFields
  deriving DecidableEq, Repr

/-- Why a configuration, or a change of one, is refused. -/
inductive Refusal
  | unknownTerm (kind : String) (shown : String) (supported : List String)
  | fixedFields (subject : String) (names : List String)
  | tableNotSelected (reference : String)
  | notMembership (operator : String)
  | emptySubquery (name : String)
  | aliasNotIdentifier (shown : String)
  | selectNotIdentifier (shown : String)
  | limitNotPositive (shown : String)
  | noDatabaseUrl
  | parametersLost (dialect : String) (names : List String)
  deriving DecidableEq, Repr

def Refusal.message : Refusal → String
  | .unknownTerm kind shown supported =>
    "Unknown " ++ kind ++ " '" ++ shown ++ "'. Supported: " ++ ", ".intercalate supported
  | .fixedFields subject names =>
    subject ++ " fields cannot be changed: " ++ ", ".intercalate names
  | .tableNotSelected reference =>
    "Join refers to a table that is not selected: " ++ reference
  | .notMembership operator => "Subqueries are attached with IN or NOT IN, got " ++ operator
  | .emptySubquery name => "Subquery " ++ name ++ " has no tables"
  | .aliasNotIdentifier shown => "Subquery alias must be an identifier, got " ++ shown
  | .selectNotIdentifier shown => "Subquery column must be an identifier, got " ++ shown
  | .limitNotPositive shown => "Limit must be a positive integer, got " ++ shown
  | .noDatabaseUrl => "Database URL is not configured"
  | .parametersLost dialect names =>
    "Bind parameters lost when rendering for " ++ dialect ++ ": " ++ ", ".intercalate names

/-- What was looked for and not found. -/
inductive Missing
  | table (qualified : String)
  | column (id : Value)
  | join (id : Value)
  | joinCondition (id : Value)
  | condition (id : Value)
  | savedQuery (id : Value)
  | catalogTable (name : Value)

def Missing.name : Missing → Value
  | .table qualified => .text qualified
  | .column id | .join id | .joinCondition id | .condition id => id
  | .savedQuery id => .text id.display
  | .catalogTable name => name

def Missing.message : Missing → String
  | .table qualified => "Table is not selected: " ++ qualified
  | .column id => "Column is not selected: " ++ id.display
  | .join id => "Join not found: " ++ id.display
  | .joinCondition id => "Join condition not found: " ++ id.display
  | .condition id => "Condition not found: " ++ id.display
  | .savedQuery id => "Saved query not found: " ++ id.display
  | .catalogTable name => "Table not found: " ++ name.display

/-- A value of the right kind that is out of range. -/
inductive BadValue
  | notInteger (shown : String)
  | tooManyDigits (digits : Nat)
  | integerTooLong
  | nanAsInteger
  | pageNotPositive
  | pageSizeNotPositive
  | nameBlank
  | unknownLevel (name : String)
  deriving DecidableEq, Repr

/-- The most characters of a refused text that are shown. -/
def shownLimit : Nat := 200

def BadValue.message : BadValue → String
  | .notInteger shown =>
    "invalid literal for int() with base 10: " ++ String.ofList (shown.toList.take shownLimit)
  | .tooManyDigits digits =>
    "Exceeds the limit (" ++ toString digitLimit ++
      " digits) for integer string conversion: value has " ++ toString digits ++
      " digits; use sys.set_int_max_str_digits() to increase the limit"
  | .integerTooLong =>
    "Exceeds the limit (" ++ toString digitLimit ++
      " digits) for integer string conversion; " ++
      "use sys.set_int_max_str_digits() to increase the limit"
  | .nanAsInteger => "cannot convert float NaN to integer"
  | .pageNotPositive => "page and page_size must be positive integers"
  | .pageSizeNotPositive => "page_size must be positive integer"
  | .nameBlank => "Saved query name must not be empty"
  | .unknownLevel name => "Unknown level: " ++ Text.quoted name

namespace Json

def Problem.message : Problem → String
  | .expectingValue => "Expecting value"
  | .expectingName => "Expecting property name enclosed in double quotes"
  | .expectingColon => "Expecting ':' delimiter"
  | .expectingComma => "Expecting ',' delimiter"
  | .extraData => "Extra data"
  | .unterminatedText => "Unterminated string starting at"
  | .controlCharacter => "Invalid control character at"
  | .badEscape => "Invalid \\escape"
  | .badUnicodeEscape => "Invalid \\uXXXX escape"
  | .byteOrderMark => "Unexpected UTF-8 BOM (decode using utf-8-sig)"
  | .tooDeep => "maximum recursion depth exceeded while decoding a JSON document"
  | .tooManyDigits digits => (BadValue.tooManyDigits digits).message

/-- The wording of a refused document, with its place. -/
def Error.message (e : Error) : String :=
  e.problem.message ++ ": line " ++ toString e.line ++ " column " ++ toString e.column ++
    " (char " ++ toString e.position ++ ")"

end Json

/-- What was asked of the database when it failed. -/
inductive DatabaseAction
  | query
  | listTables
  | readColumns (table : String)
  deriving DecidableEq, Repr

def DatabaseAction.message (reason : String) : DatabaseAction → String
  | .query => "Query execution failed: " ++ reason
  | .listTables => "Failed to list tables: " ++ reason
  | .readColumns table => "Failed to read columns of " ++ table ++ ": " ++ reason

/-- All that can go wrong. -/
inductive Error
  | misuse (cause : Misuse)
  | configuration (cause : Refusal) (path : String)
  | notFound (what : Missing)
  | rejected (errors : List String) (sql : String)
  | execution (action : DatabaseAction) (reason : String) (sql : Option String)
  | noCatalog
  | badValue (cause : BadValue)
  | malformed (cause : Json.Error)
  | infinite
  /-- A document is nested deeper than the machine can follow. -/
  | tooDeep
  /-- A half of a surrogate pair cannot be printed. -/
  | unprintable
  | crash
  | unusableUrl
  /-- An error of another library that passes through. -/
  | foreign (kind message : String)
  | settings (fields : List (String × String))

/-- What a caller is told about an error of the library's own. -/
inductive Report
  | general (message : String)
  | configuration (message : String) (path : Option String)
  | rejected (errors : List String) (sql : Option String)
  | execution (message : String) (sql : Option String)
  | notFound (name : Value) (message : String)

def Report.text : Report → String
  | .general message => message
  | .configuration message path =>
    match path with
    | some place => if place == "" then message else message ++ " (at " ++ place ++ ")"
    | none => message
  | .rejected errors _ =>
    let all := "; ".intercalate errors
    if all == "" then "Query rejected" else all
  | .execution message _ => message
  | .notFound name message =>
    if message == "" then "Not found: " ++ name.display else message

/-- What a caller is told. Errors that are not the library's own have no report. -/
def Error.report? : Error → Option Report
  | .configuration cause path => some (.configuration cause.message (some path))
  | .notFound what => some (.notFound what.name what.message)
  | .rejected errors sql => some (.rejected errors (some sql))
  | .execution action reason sql => some (.execution (action.message reason) sql)
  | .noCatalog => some (.general "Schema introspection is not configured")
  | _ => none

/-- The error of a text that is no integer. -/
def IntegerError.toError (s : String) : IntegerError → Error
  | .malformed => .badValue (.notInteger (Text.quoted s))
  | .tooManyDigits digits => .badValue (.tooManyDigits digits)

/-- The error of a refused document. A number with too many digits is out of range, and a
document that is nested too deep is not followed; the document itself may be well formed. -/
def Json.Error.toError (e : Json.Error) : SelectQuery.Error :=
  match e.problem with
  | .tooManyDigits digits => .badValue (.tooManyDigits digits)
  | .tooDeep => .tooDeep
  | _ => .malformed e

end SelectQuery
