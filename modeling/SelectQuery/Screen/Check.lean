import SelectQuery.Error
import SelectQuery.Screen.Forbidden
import SelectQuery.Screen.Script.Select

/-!
# The check of a query

Query text goes through two screens before it reaches the database. The first lets only
scripts through that select. The second tells all that is wrong with the text by four
rules. They keep obvious mistakes out and are no security boundary.
-/

namespace SelectQuery.Screen

open Text

/-- A rule that a query breaks. -/
inductive Problem
  | notSelect
  | noFrom
  | unbalancedParentheses
  | restricted (keywords : List String)
  deriving DecidableEq, Repr

def Problem.message : Problem → String
  | .notSelect => "Query must start with SELECT"
  | .noFrom => "Query must include FROM clause"
  | .unbalancedParentheses => "Unbalanced parentheses in query"
  | .restricted keywords =>
    "Query contains restricted keywords: " ++ ", ".intercalate keywords

/-- The first run of word characters, if the text begins with one. -/
def firstRun (s : String) : String := String.ofList (s.toList.takeWhile isWord)

/-- Begins with the word `select`. -/
def startsWithSelect (s : String) : Bool := firstRun (normalize s) == "select"

/-- Has the word `from`. -/
def hasFrom (s : String) : Bool := (runs (normalize s)).contains "from"

def isBalanced (s : String) : Bool := s.toList.count '(' == s.toList.count ')'

def problems (s : String) : List Problem :=
  (if startsWithSelect s then [] else [.notSelect]) ++
    (if hasFrom s then [] else [.noFrom]) ++
    (if isBalanced s then [] else [.unbalancedParentheses]) ++
    (if (findForbidden s).isEmpty then [] else [.restricted (findForbidden s)])

/-- A query breaks no rule. -/
def isValid (s : String) : Bool := (problems s).isEmpty

/-- The wording of all that is wrong with a query. -/
def errors (s : String) : List String := (problems s).map Problem.message

def outcome (s : String) : Value :=
  .object [("isValid", .bool (isValid s)), ("errors", .list ((errors s).map .text))]

/-- What is said about a script that does not only select. -/
def readOnly : String := "Only SELECT queries are allowed"

/-- Why a query is not let through by the two screens. -/
def refusal? (s : String) : Option (List String) :=
  if !Script.isSelect s then some [readOnly]
  else if isValid s then none
  else some (errors s)

/-- Lets a query through both screens or rejects it. -/
def check (s : String) : Except Error Unit :=
  match refusal? s with
  | some errors => .error (.rejected errors s)
  | none => .ok ()

end SelectQuery.Screen
