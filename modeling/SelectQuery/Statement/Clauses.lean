import SelectQuery.ColumnPath
import SelectQuery.Configuration.Reference
import SelectQuery.Literal.Items
import SelectQuery.Literal.Operand
import SelectQuery.Statement.Basic

/-!
# The statement of a configuration

Every part of a configuration gives its clauses, and what is empty or incomplete gives
none. Without joins, all tables after the first are combined with `CROSS JOIN`. The
conditions are written in one of two modes: as a preview with the values in the text, or
with placeholders for the values and the values beside the text. The two modes agree on
everything but the value parts of conditions.

Everything here is total. What cannot be rendered in a configuration with unchecked
entries is told by `Configuration.fault?`.
-/

namespace SelectQuery

variable {ν : Type} [Entry ν]

open Entry

/-- How values are written. -/
inductive Mode
  | preview
  | bound
  deriving DecidableEq, Repr

/-- A table behind `FROM` or `JOIN`. -/
def Table.render (t : Table ν) : ν :=
  match present? t.aliasName with
  | some a => ofText (text t.qualifiedName ++ " AS " ++ text a)
  | none => t.qualifiedName

def wildcard : String := "*"

def truncationPrecision : String := "day"

def extractedPart : String := "year"

/-- A function applied to a column. Only counting looks at the name of the column. -/
def AggregateFunction.apply (f : AggregateFunction) (isWildcard : Bool) (expression : String) :
    String :=
  match f with
  | .dateTrunc => "DATE_TRUNC('" ++ truncationPrecision ++ "', " ++ expression ++ ")"
  | .extract => "EXTRACT(" ++ extractedPart ++ " FROM " ++ expression ++ ")"
  | .count => if isWildcard then "COUNT(*)" else "COUNT(" ++ expression ++ ")"
  | f => f.word ++ "(" ++ expression ++ ")"

namespace Column

def qualified (c : Column ν) (qualifier : ν) : ν :=
  if isPresent qualifier then ofText (text qualifier ++ "." ++ text c.name) else c.name

def applied (c : Column ν) (qualifier : ν) : ν :=
  match c.function with
  | some f => ofText (f.apply (same c.name (ofText wildcard)) (text (c.qualified qualifier)))
  | none => c.qualified qualifier

def render (c : Column ν) (qualifier : ν) : ν :=
  match present? c.aliasName with
  | some a => ofText (text (c.applied qualifier) ++ " AS " ++ text a)
  | none => c.applied qualifier

/-- Why a column cannot be rendered: its alias cannot be joined to it. -/
def renderFault? (c : Column ν) (qualifier : ν) : Option Misuse :=
  if (present? c.aliasName).isSome && !isText (c.applied qualifier) then some .notJoinable
  else none

@[simp] theorem renderFault?_string (c : Column String) (qualifier : String) :
    c.renderFault? qualifier = none := by
  simp [renderFault?]

end Column

/-- A column path inside a query. Expressions are kept. The table of a path is left out in
a query that reads a single table, and is otherwise replaced by what the query calls it. -/
def Configuration.renderPath (c : Configuration ν) (qualify : Bool) (path : String) : String :=
  match ColumnPath.parse? path with
  | none => Text.trimmed path
  | some p =>
    match p.table with
    | some t =>
      if qualify then
        text (c.qualifier (ofText t) (ofText (p.schema.getD "")) : ν) ++ "." ++ p.column
      else p.column
    | none => p.column

/-- What is wrong with a column path inside a query. -/
def Configuration.pathFault? (c : Configuration ν) (qualify : Bool) (path : String) :
    Option Misuse :=
  match ColumnPath.parse? path with
  | none => none
  | some p =>
    match p.table with
    | some t => if qualify then c.lookupFault? (ofText t) (ofText (p.schema.getD "")) else none
    | none => none

/-- An entry is nothing but blanks. -/
def isBlankEntry (v : ν) : Bool := Text.isAllBlank (text v)

namespace Condition

/-- The values that a condition hands over in a mode. Without a known operator there are
none, and neither are there for a membership test on anything but a list of literals. -/
def bindings (mode : Mode) (c : Condition ν) : List Literal :=
  match mode, c.operator with
  | .bound, .term op =>
    if op.isMembership && !Literal.isLiteralList (chars c.value) then []
    else Literal.values op (chars c.value)
  | _, _ => []

/-- A condition keeps its value in the text. -/
def isInline (mode : Mode) (c : Condition ν) : Bool :=
  match mode, c.operator with
  | .bound, .term op => op.isMembership && !Literal.isLiteralList (chars c.value)
  | _, _ => true

def shape (op : ConditionOperator) (count : Nat) : Shape :=
  if op.isMembership then .list else if op.isRange && count == 2 then .range else .single

/-- The value part of a condition whose placeholders start at a number. -/
def operand? (mode : Mode) (start : Nat) (c : Condition ν) : Option Operand :=
  if c.isInline mode then
    (Literal.format c.operator.term? (chars c.value)).map fun cs => .written (String.ofList cs)
  else
    match c.operator with
    | .term op =>
      let count := (c.bindings mode).length
      if count == 0 then none else some (.bound (shape op count) start count)
    | .verbatim _ => none

/-- The connector in front of a condition. -/
def connectorText (c : Condition ν) : String := (c.connector.getD (.term .and)).text

end Condition

namespace Configuration

/-- Paths are qualified as soon as more than one table is read. -/
def qualifies (c : Configuration ν) : Bool := 1 < c.tables.length || !c.joins.isEmpty

def selectItems (c : Configuration ν) : List (Item ν) :=
  if c.columns.isEmpty then [.entry (ofText wildcard)]
  else c.columns.map fun col => .entry (col.render (c.qualifier col.table col.schema))

def selectClause (c : Configuration ν) : Clause ν where
  kind := .select
  keyword := if c.distinct.isOn then "SELECT DISTINCT" else "SELECT"
  items := c.selectItems
  multiline := !c.columns.isEmpty

/-- The table behind `FROM`. -/
def fromClauses (c : Configuration ν) : List (Clause ν) :=
  c.anchor?.toList.map fun t => { kind := .from, keyword := "FROM", items := [.entry t.render] }

/-- The tables that are combined without a join. -/
def crossClauses (c : Configuration ν) : List (Clause ν) :=
  if c.joins.isEmpty then
    c.tables.tail.map fun t =>
      { kind := .join, keyword := "CROSS JOIN", items := [.entry t.render] }
  else []

/-- The table that is joined: a selected one, or what stands in its place. -/
def joinTarget (c : Configuration ν) (j : Join ν) : ν :=
  match c.tableFor j.rightTable with
  | some t => t.render
  | none => j.rightTable

/-- Two columns that must be equal. -/
def equality (left leftColumn right rightColumn : ν) : String :=
  text left ++ "." ++ text leftColumn ++ " = " ++ text right ++ "." ++ text rightColumn

def joinEqualities (c : Configuration ν) (j : Join ν) : List String :=
  let left := c.qualifier j.leftTable
  let right := c.qualifier j.rightTable
  equality left j.leftColumn right j.rightColumn ::
    j.conditions.map fun x => equality left x.left right x.right

def joinClause (c : Configuration ν) (j : Join ν) : Clause ν where
  kind := .join
  keyword := j.type.keyword ++ " JOIN"
  items := [.entry (ofText
    (text (c.joinTarget j) ++ " ON " ++ " AND ".intercalate (c.joinEqualities j)))]

/-- The conditions that have a column. -/
def activeConditions (c : Configuration ν) : List (Condition ν) :=
  c.conditions.filter fun x => !isBlankEntry x.column

/-- The item of a condition whose placeholders start at a number. -/
def predicate (c : Configuration ν) (mode : Mode) (isFirst : Bool) (start : Nat)
    (x : Condition ν) : Predicate where
  connector := if isFirst then none else some x.connectorText
  column := c.renderPath c.qualifies (text x.column)
  operator := x.operator.text
  operand := x.operand? mode start

/-- The items of conditions, numbered on from a start. -/
def predicates (c : Configuration ν) (mode : Mode) :
    Bool → Nat → List (Condition ν) → List Predicate
  | _, _, [] => []
  | isFirst, start, x :: rest =>
    c.predicate mode isFirst start x ::
      c.predicates mode false (start + (x.bindings mode).length) rest

/-- A clause that is left out if it has no items. -/
def clauseOf (kind : ClauseKind) (keyword : String) (items : List (Item ν))
    (separator : String := ", ") : List (Clause ν) :=
  if items.isEmpty then [] else [{ kind, keyword, items, separator }]

/-- The items of `WHERE`. -/
def whereItems (c : Configuration ν) (mode : Mode) : List Predicate :=
  c.predicates mode true 1 c.activeConditions

def whereClauses (c : Configuration ν) (mode : Mode) : List (Clause ν) :=
  clauseOf .where "WHERE" ((c.whereItems mode).map .predicate) " "

def groupClauses (c : Configuration ν) : List (Clause ν) :=
  clauseOf .groupBy "GROUP BY"
    ((c.groupBy.filter fun path => !isBlankEntry path).map fun path =>
      .entry (ofText (c.renderPath c.qualifies (text path))))

/-- The orderings that have a column. -/
def activeOrderings (c : Configuration ν) : List (Ordering ν) :=
  c.orderBy.filter fun o => isPresent o.column && !isBlankEntry o.column

def orderClauses (c : Configuration ν) : List (Clause ν) :=
  clauseOf .orderBy "ORDER BY"
    (c.activeOrderings.map fun o =>
      .entry (ofText (c.renderPath c.qualifies (text o.column) ++ " " ++ o.direction.text)))

/-- The row limit, if it is positive. -/
def limitClauses (c : Configuration ν) : List (Clause ν) :=
  match c.limit with
  | some n => if 0 < n then clauseOf .limit "LIMIT" [.entry (ofText (toString n))] else []
  | none => []

def clauses (c : Configuration ν) (mode : Mode) : List (Clause ν) :=
  c.selectClause :: c.fromClauses ++ c.crossClauses ++ c.joins.map c.joinClause ++
    c.whereClauses mode ++ c.groupClauses ++ c.orderClauses ++ c.limitClauses

def bindings (c : Configuration ν) (mode : Mode) : List Literal :=
  c.activeConditions.flatMap (Condition.bindings mode)

def named (values : List Literal) : List (String × Literal) :=
  values.zipIdx.map fun (v, i) => (parameterName (i + 1), v)

def statement (c : Configuration ν) (mode : Mode) : Statement ν :=
  ⟨c.clauses mode, named (c.bindings mode)⟩

end Configuration
end SelectQuery
