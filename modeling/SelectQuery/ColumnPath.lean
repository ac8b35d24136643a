import SelectQuery.Text.Blank
import SelectQuery.Text.Scan

/-!
# Column paths

A column path names a column by one to three identifiers between points: the column, its
table, its schema. Any other text in the place of a path is an expression, which the
library never looks into.
-/

namespace SelectQuery

/-- A column with the table and schema it was named with. -/
structure ColumnPath where
  column : String
  table : Option String := none
  schema : Option String := none
  deriving DecidableEq, Repr

namespace ColumnPath

open Text

/-- A character that an identifier may start with. -/
def isInitial (c : Char) : Bool := c.isAlpha || c == '_'

def isInner (c : Char) : Bool := c.isAlphanum || c == '_' || c == '$'

/-- An identifier: a letter or underscore, and then letters, digits, underscores and
dollar signs. -/
def isIdentifier : List Char → Bool
  | [] => false
  | c :: rest => isInitial c && rest.all isInner

/-- Reads a path; blanks around it are passed over. -/
def parse? (s : String) : Option ColumnPath :=
  let pieces := splitOn '.' (trim s.toList)
  if pieces.all isIdentifier then
    match pieces.map String.ofList with
    | [column] => some ⟨column, none, none⟩
    | [table, column] => some ⟨column, some table, none⟩
    | [schema, table, column] => some ⟨column, some table, some schema⟩
    | _ => none
  else none

/-- A path as text. Empty parts are left out. -/
def text (p : ColumnPath) : String :=
  ".".intercalate ([p.schema.getD "", p.table.getD "", p.column].filter (· != ""))

/-- The path of a column in a table, with its schema if there is one. -/
def form (table column : String) (schema : Option String) : String :=
  text ⟨column, some table, schema.filter (· != "")⟩

def isPlainColumn (s : String) : Bool :=
  match parse? s with
  | some p => p.table.isNone
  | none => false

end ColumnPath
end SelectQuery
