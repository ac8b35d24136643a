import SelectQuery.Statement.Clauses

/-!
# What cannot be rendered

Entries that were never checked may be of a kind that rendering has no use for. `fault?`
goes through a configuration in the order of its clauses and tells the first such use. A
configuration with entries of text has none, except for an integer with too many digits
among the values that are handed over, or as the row limit.
-/

namespace SelectQuery

variable {ν : Type} [Entry ν]

open Entry

/-- The first fault in a list of checks. -/
def firstFault? {α β : Type} (check : α → Option β) (items : List α) : Option β :=
  items.findSome? check

/-- An entry that is expected to be text. -/
def textFault? (v : ν) : Option Misuse := if isText v then none else some .notText

/-- What is wrong with the value that a condition hands over. -/
def Condition.excess? (mode : Mode) (c : Condition ν) : Option Error :=
  match mode, c.operator with
  | .bound, .term op =>
    if c.isInline mode then none
    else (Literal.excess? op (chars c.value)).map fun n => .badValue (.tooManyDigits n)
  | _, _ => none

namespace Configuration

def columnFault? (c : Configuration ν) (col : Column ν) : Option Misuse :=
  c.lookupFault? col.table col.schema <|>
    col.renderFault? (c.qualifier col.table col.schema)

def joinFault? (c : Configuration ν) (j : Join ν) : Option Misuse :=
  c.lookupFault? j.rightTable <|> c.lookupFault? j.leftTable

/-- What is wrong with a condition. One without a column is not looked at. -/
def conditionFault? (c : Configuration ν) (mode : Mode) (x : Condition ν) : Option Error :=
  match textFault? x.column with
  | some cause => some (.misuse cause)
  | none =>
    if isBlankEntry x.column then none
    else
      ((c.pathFault? c.qualifies (text x.column) <|> textFault? x.value).map .misuse) <|>
        x.excess? mode

def groupFault? (c : Configuration ν) (path : ν) : Option Misuse :=
  textFault? path <|>
    if isBlankEntry path then none else c.pathFault? c.qualifies (text path)

def orderFault? (c : Configuration ν) (o : Ordering ν) : Option Misuse :=
  if isPresent o.column then c.groupFault? o.column else none

/-- A row limit with too many digits cannot be written. -/
def limitFault? (c : Configuration ν) : Option Error :=
  match c.limit with
  | some n => if n.toNat < Nat.pow 10 digitLimit then none else some (.badValue .integerTooLong)
  | none => none

/-- The first thing in a configuration that cannot be rendered. -/
def fault? (c : Configuration ν) (mode : Mode) : Option Error :=
  ((firstFault? c.columnFault? c.columns <|> firstFault? c.joinFault? c.joins).map .misuse) <|>
    firstFault? (c.conditionFault? mode) c.conditions <|>
      ((firstFault? c.groupFault? c.groupBy <|>
        firstFault? c.orderFault? c.orderBy).map .misuse) <|>
      c.limitFault?

def build (c : Configuration ν) (mode : Mode) : Except Error (Statement ν) :=
  match c.fault? mode with
  | some e => .error e
  | none => .ok (c.statement mode)

@[simp] theorem pathFault?_string (c : Configuration String) (qualify : Bool) (path : String) :
    c.pathFault? qualify path = none := by
  unfold pathFault?
  split
  · rfl
  · split <;> simp

end Configuration

/-- The text of a statement whose clauses can be joined. -/
def Statement.render (s : Statement ν) : Except Error String :=
  match s.textFault? with
  | some cause => .error (.misuse cause)
  | none => .ok s.text

/-- The one line text of a statement whose clauses can be joined. -/
def Statement.renderInline (s : Statement ν) : Except Error String :=
  match s.textFault? with
  | some cause => .error (.misuse cause)
  | none => .ok s.inlineText

namespace Subquery

/-- A subquery as the value of a membership test that selects one of its columns. -/
def text (s : Subquery ν) (select : ν) : String :=
  "(SELECT " ++ Entry.text select ++ " FROM (" ++ (s.config.statement .preview).inlineText ++
    ") " ++ Entry.text s.aliasName ++ ")"

def render (s : Subquery ν) (select : ν) : Except Error String := do
  let _ ← (← s.config.build .preview).renderInline
  return s.text select

end Subquery
end SelectQuery
