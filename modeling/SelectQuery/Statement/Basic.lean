import SelectQuery.Entry
import SelectQuery.Error
import SelectQuery.Literal.Basic

/-!
# Statements

A statement is a query as a list of clauses, with the values that are handed over beside
its text. A clause has a keyword and items. The items of `WHERE` keep their parts
(`Predicate`); all others are plain text. The text of a statement has one clause a line,
with the select list spread over lines of its own; the inline text is one line.
-/

namespace SelectQuery

/-- The kinds of clause in the order in which they follow each other. -/
inductive ClauseKind
  | select | from | join | where | groupBy | orderBy | limit
  deriving DecidableEq, Repr

namespace ClauseKind

def word : ClauseKind → String
  | .select => "select"
  | .from => "from"
  | .join => "join"
  | .where => "where"
  | .groupBy => "group_by"
  | .orderBy => "order_by"
  | .limit => "limit"

/-- The place of a kind of clause in a statement. -/
def rank : ClauseKind → Nat
  | .select => 0
  | .from => 1
  | .join => 2
  | .where => 3
  | .groupBy => 4
  | .orderBy => 5
  | .limit => 6

end ClauseKind

/-- How placeholders stand for an operand. -/
inductive Shape
  | list
  | range
  | single
  deriving DecidableEq, Repr

def parameterName (n : Nat) : String := "p" ++ toString n

def placeholder (n : Nat) : String := ":" ++ parameterName n

def placeholders (first count : Nat) : List String := (List.range' first count).map placeholder

/-- The value part of a condition: written out, or placeholders from a number on. -/
inductive Operand
  | written (s : String)
  | bound (shape : Shape) (first count : Nat)
  deriving DecidableEq, Repr

def Operand.text : Operand → String
  | .written s => s
  | .bound .list first count => "(" ++ ", ".intercalate (placeholders first count) ++ ")"
  | .bound .range first count => " AND ".intercalate (placeholders first count)
  | .bound .single first _ => placeholder first

/-- An item of `WHERE`. Only the first item has no connector. -/
structure Predicate where
  connector : Option String
  column : String
  operator : String
  operand : Option Operand
  deriving DecidableEq, Repr

/-- The text of an item of `WHERE`. -/
def Predicate.text (p : Predicate) : String :=
  (match p.connector with
    | some k => k ++ " "
    | none => "") ++
    p.column ++ " " ++ p.operator ++
    (match p.operand with
      | some v => " " ++ v.text
      | none => "")

/-- An item of a clause. -/
inductive Item (ν : Type)
  | entry (v : ν)
  | predicate (p : Predicate)

/-- A clause. A multiline clause has its items on lines of their own. -/
structure Clause (ν : Type) where
  kind : ClauseKind
  keyword : String
  items : List (Item ν)
  separator : String := ", "
  multiline : Bool := false

/-- A query as clauses, with the values of its parameters by name. -/
structure Statement (ν : Type) where
  clauses : List (Clause ν)
  params : List (String × Literal) := []

variable {ν : Type} [Entry ν]

namespace Item

def text : Item ν → String
  | .entry v => Entry.text v
  | .predicate p => p.text

def toValue : Item ν → Value
  | .entry v => Entry.toValue v
  | .predicate p => .text p.text

def isText : Item ν → Bool
  | .entry v => Entry.isText v
  | .predicate _ => true

end Item

namespace Clause

/-- The text of a clause within a statement of several lines. -/
def text (c : Clause ν) : String :=
  if c.multiline then c.keyword ++ "\n  " ++ ",\n  ".intercalate (c.items.map Item.text)
  else c.keyword ++ " " ++ c.separator.intercalate (c.items.map Item.text)

def inlineText (c : Clause ν) : String :=
  c.keyword ++ " " ++ c.separator.intercalate (c.items.map Item.text)

end Clause

namespace Statement

def text (s : Statement ν) : String := "\n".intercalate (s.clauses.map Clause.text)

def inlineText (s : Statement ν) : String := " ".intercalate (s.clauses.map Clause.inlineText)

def kinds (s : Statement ν) : List ClauseKind := s.clauses.map Clause.kind

def itemsOf (s : Statement ν) (kind : ClauseKind) : List (Item ν) :=
  (s.clauses.filter fun c => c.kind == kind).flatMap Clause.items

/-- Why the clauses of a statement cannot be joined into text. -/
def textFault? (s : Statement ν) : Option Misuse :=
  if s.clauses.all fun c => c.items.all Item.isText then none else some .notJoinable

end Statement

@[simp] theorem Item.isText_string (item : Item String) : item.isText = true := by
  cases item <;> simp [isText]

@[simp] theorem Statement.textFault?_string (s : Statement String) : s.textFault? = none := by
  simp [textFault?]

end SelectQuery
