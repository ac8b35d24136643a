import SelectQuery.Screen.Script.Lexeme

/-!
# Statements of a script

A script is split into statements at semicolons outside parentheses and blocks, and behind
the word `GO`. Blanks and line comments on the rest of the line still belong to the
statement before them.
-/

namespace SelectQuery.Screen.Script

open Text

namespace Lexeme

def upperWord? (l : Lexeme) : Option String :=
  if l.kind == .word then some (upperText l.text) else none

def isMark (l : Lexeme) (mark : String) : Bool := l.kind == .mark && l.text == mark.toList

def isSpace (l : Lexeme) : Bool := l.kind == .blank || l.kind == .lineEnd

def isComment (l : Lexeme) : Bool := l.kind == .lineComment || l.kind == .blockComment

/-- The word `GO` in upper case, with or without a count. -/
def isGo (l : Lexeme) : Bool :=
  l.kind == .word && l.text.takeWhile (!isBlank ·) == ['G', 'O']

/-- Belongs to the statement that has just ended. -/
def trails (l : Lexeme) : Bool := l.kind == .blank || l.kind == .lineComment

end Lexeme

/-- How deep a place is inside parentheses and blocks. A block that has only been opened
turns out to be none if a semicolon follows. -/
structure Depth where
  level : Int := 0
  blocks : Nat := 0
  inCase : Bool := false
  opened : Bool := false
  deriving DecidableEq, Repr

namespace Depth

/-- The depth behind a word. -/
def afterWord (d : Depth) (word : String) : Depth :=
  if word == "BEGIN" then
    { d with level := d.level + 1, blocks := d.blocks + 1, opened := true }
  else if word == "END" then
    if d.inCase then { d with level := d.level - 1, inCase := false, opened := false }
    else { d with level := d.level - 1, blocks := d.blocks - 1, opened := false }
  else if word == "CASE" && 0 < d.blocks then
    { d with level := d.level + 1, inCase := true, opened := false }
  else if word == "IF" && 0 < d.blocks then { d with level := d.level + 1, opened := false }
  else if word == "END IF" || word == "END WHILE" then
    { d with level := d.level - 1, opened := false }
  else { d with opened := false }

/-- The depth behind a lexeme. -/
def after (d : Depth) (l : Lexeme) : Depth :=
  if l.isSpace || l.isComment then d
  else if l.isMark "(" then { d with level := d.level + 1, opened := false }
  else if l.isMark ")" then { d with level := d.level - 1, opened := false }
  else if l.isMark ";" && d.opened then
    { d with level := d.level - 1, blocks := d.blocks - 1, opened := false }
  else
    match l.upperWord? with
    | some w => d.afterWord w
    | none => { d with opened := false }

/-- A semicolon ends a statement here. -/
def isOutside (d : Depth) : Bool := d.level ≤ 0 && d.blocks == 0

end Depth

/-- A lexeme ends the statement, at the depth behind it. -/
def endsStatement (d : Depth) (l : Lexeme) : Bool :=
  (l.isMark ";" && d.isOutside) || l.isGo

/-- Splits lexemes into statements: the statement so far in reverse, whether it has ended,
and how deep it is. -/
def splitFrom (part : List Lexeme) (ended : Bool) (d : Depth) :
    List Lexeme → List (List Lexeme)
  | [] => if part.isEmpty then [] else [part.reverse]
  | l :: rest =>
    if ended && !l.trails then
      let behind := Depth.after {} l
      part.reverse :: splitFrom [l] (endsStatement behind l) behind rest
    else
      let behind := d.after l
      splitFrom (l :: part) (ended || endsStatement behind l) behind rest

/-- The statements of a script. -/
def statements (s : String) : List (List Lexeme) := splitFrom [] false {} (lexemes s)

end SelectQuery.Screen.Script
