import SelectQuery.Screen.Script.Split

/-!
# Scripts that only select

A statement selects if it begins with the word `SELECT`. It does not if that word turns
out to be a name: one that is cast, assigned to, qualified, or called.
-/

namespace SelectQuery.Screen.Script

open Text

/-- Drops the white space in front. -/
def skipSpace (ls : List Lexeme) : List Lexeme := ls.dropWhile Lexeme.isSpace

/-- A cast or an assignment follows, with something behind it. -/
def isCastOrSet (ls : List Lexeme) : Bool :=
  match skipSpace ls with
  | l :: rest => (l.isMark "::" || l.isMark ":=") && !(skipSpace rest).isEmpty
  | [] => false

/-- A parenthesis is closed again, from inside a number of them. -/
def closes : Nat → List Lexeme → Bool
  | _, [] => false
  | depth, l :: rest =>
    if l.isMark "(" then closes (depth + 1) rest
    else if l.isMark ")" then
      match depth with
      | 0 => true
      | depth + 1 => closes depth rest
    else closes depth rest

/-- A point, or a parenthesis that is closed again, follows. -/
def isQualifiedOrCalled (ls : List Lexeme) : Bool :=
  match skipSpace ls with
  | l :: rest => l.isMark "." || (l.isMark "(" && closes 0 rest)
  | [] => false

/-- A statement without the white space and comments in front. -/
def body (statement : List Lexeme) : List Lexeme :=
  statement.dropWhile fun l => l.isSpace || l.isComment

/-- A statement, without what stands in front of it, begins with `SELECT`. -/
def selects : List Lexeme → Bool
  | [] => false
  | l :: rest =>
    if l.kind == .name then
      lower (String.ofList l.text) == "select" && !isQualifiedOrCalled rest
    else l.upperWord? == some "SELECT" && !isCastOrSet rest

/-- There is a statement, and every one selects. -/
def isSelect (s : String) : Bool :=
  let bodies := ((statements s).map body).filter (!·.isEmpty)
  !bodies.isEmpty && bodies.all selects

end SelectQuery.Screen.Script
