import SelectQuery.Screen.Token
import SelectQuery.Text.Word

/-!
# Forbidden keywords

Words that change data or tables are not allowed in a query, in any letter case. Where the
text can be cut into tokens, its words are looked at, and otherwise every run of word
characters.
-/

namespace SelectQuery.Screen

open Text

def forbiddenKeywords : List String :=
  ["drop", "delete", "update", "insert", "alter", "create", "truncate"]

/-- A text without the blanks around it, in lower case. -/
def normalize (s : String) : String := lower (trimmed s)

/-- The runs of word characters in a text. The first argument is the run that was begun. -/
def runsFrom : List Char → List Char → List (List Char)
  | run, [] => if run.isEmpty then [] else [run.reverse]
  | run, c :: rest =>
    if isWord c then runsFrom (c :: run) rest
    else if run.isEmpty then runsFrom [] rest
    else run.reverse :: runsFrom [] rest

def runs (s : String) : List String := (runsFrom [] s.toList).map String.ofList

/-- The words of some tokens, in lower case. -/
def wordsOf (tokens : List Token) : List String :=
  (tokens.filter (·.kind == .word)).map fun t => lower (String.ofList t.text)

def words (s : String) : List String :=
  match tokens? s.toList with
  | some tokens => wordsOf (outsideArguments .start tokens)
  | none => runs (normalize s)

/-- The forbidden keywords in a text, each once, in the order of their first appearance. -/
def findForbidden (s : String) : List String :=
  ((words s).filter forbiddenKeywords.contains).eraseDups

end SelectQuery.Screen
