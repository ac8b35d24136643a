import SelectQuery.Text.Blank
import SelectQuery.Text.Case

/-!
# Tokens

Query text is cut into tokens to find the words in it. What stands between quotes and in
comments holds no words. Text in which a quote or a comment is not closed has no tokens.

Every token is scanned as its first character and a number of further ones, so that the
tokens are consecutive pieces of the text.
-/

namespace SelectQuery.Screen

open Text

/-- The kinds of token. -/
inductive TokenKind
  | word
  | number
  | quoted
  | semicolon
  | atSign
  | mark
  /-- Blanks and comments. -/
  | skipped
  deriving DecidableEq, Repr

/-- A token. It is told of a token whether a semicolon follows it directly. -/
structure Token where
  kind : TokenKind
  text : List Char
  beforeSemicolon : Bool
  deriving DecidableEq, Repr

def marks : List Char := "()[]\x7b\x7d&^:,.-=><%!|+;/\\*~?@#'\x60\"".toList

def endsWord (c : Char) : Bool := isBlank c || marks.contains c

/-- The characters up to the end of a quoted text, its closing quote included. A quote
inside is written twice. -/
def quotedLength? (quote : Char) : List Char → Option Nat
  | [] => none
  | [c] => if c = quote then some 1 else none
  | c :: d :: rest =>
    if c = quote then
      if d = quote then (quotedLength? quote rest).map (2 + ·) else some 1
    else (quotedLength? quote (d :: rest)).map (1 + ·)

/-- A kind of comment: how it opens and closes. -/
structure CommentMarks where
  opening : List Char
  closing : List Char

/-- The comments that may be nested. -/
def commentMarks : List CommentMarks :=
  [⟨['/', '*', '+'], ['*', '/']⟩, ⟨['/', '*'], ['*', '/']⟩, ⟨['\x7b', '#'], ['#', '\x7d']⟩]

/-- The characters up to the end of a comment, its closing mark included, within a number
of open comments. -/
def commentLength? (m : CommentMarks) (depth : Nat) (cs : List Char) : Option Nat :=
  match cs with
  | [] => none
  | [_] => none
  | _ :: rest =>
    let closes := m.closing.isPrefixOf cs
    if closes && depth ≤ 1 then some m.closing.length
    else
      let depth := if closes then depth - 1 else depth
      if m.opening.isPrefixOf rest then
        (commentLength? m (depth + 1) (rest.drop m.opening.length)).map
          (1 + m.opening.length + ·)
      else (commentLength? m depth rest).map (1 + ·)
termination_by cs.length
decreasing_by
  all_goals simp only [List.length_cons, List.length_drop]
  all_goals omega

/-- A digit of ASCII. -/
def isPlainDigit (c : Char) : Bool := c.isDigit

/-- The further characters of a number. It has at most one point, none behind an `@`, and
at most one exponent, whose sign must be followed by a digit. -/
def numberLength (pointLeft : Bool) (exponents : Nat) : List Char → Nat
  | [] => 0
  | c :: rest =>
    if isPlainDigit c then 1 + numberLength pointLeft exponents rest
    else if c = '.' && pointLeft then 1 + numberLength false exponents rest
    else if (c = '+' || c = '-') && exponents == 1 then
      if (rest.head?.map isPlainDigit).getD false then 1 + numberLength pointLeft 2 rest else 0
    else if (c = 'e' || c = 'E') && exponents == 0 then 1 + numberLength pointLeft 1 rest
    else 0

def isLineEnd (c : Char) : Bool := c = '\n' || c = '\r'

/-- A run of marks that ends in a minus and is a single token: no comment begins with that
minus. -/
def dashedMarks : List (List Char) := ["\x7b%-".toList, "\x7b\x7b-".toList, "-|-".toList]

/-- The kind of the token that begins with a character, and how many characters it has
besides. There is none where a quote or a comment is not closed. -/
def scan? (afterAt : Bool) (c : Char) (rest : List Char) : Option (TokenKind × Nat) :=
  if isBlank c then some (.skipped, 0)
  else if isPlainDigit c then some (.number, numberLength (!afterAt) 0 rest)
  else if c = '"' || c = '\'' then (quotedLength? c rest).map (.quoted, ·)
  else if (c = 'n' || c = 'N') && rest.head? == some '\'' then
    (quotedLength? '\'' (rest.drop 1)).map fun n => (.quoted, 1 + n)
  else if c = '-' && rest.head? == some '-' then
    some (.skipped, (rest.takeWhile (!isLineEnd ·)).length)
  else
    match commentMarks.find? fun m => m.opening.isPrefixOf (c :: rest) with
    | some m =>
      let more := m.opening.length - 1
      (commentLength? m 1 (rest.drop more)).map fun n => (.skipped, more + n)
    | none =>
      if dashedMarks.any (·.isPrefixOf (c :: rest)) then some (.mark, 2)
      else if c = ';' then some (.semicolon, 0)
      else if c = '@' then some (.atSign, 0)
      else if marks.contains c then some (.mark, 0)
      else some (.word, (rest.takeWhile (!endsWord ·)).length)

def tokensFrom (afterAt : Bool) (cs : List Char) : Option (List Token) :=
  match cs with
  | [] => some []
  | c :: rest =>
    match scan? afterAt c rest with
    | none => none
    | some (kind, more) =>
      let behind := rest.drop more
      let token := ⟨kind, c :: rest.take more, behind.head? == some ';'⟩
      let afterAt := if kind == .skipped then afterAt else kind == .atSign
      (tokensFrom afterAt behind).map (token :: ·)
termination_by cs.length
decreasing_by
  simp only [List.length_cons, List.length_drop]
  omega

/-- The tokens of a text, without blanks and comments. -/
def tokens? (cs : List Char) : Option (List Token) :=
  (tokensFrom false cs).map (·.filter (·.kind != .skipped))

namespace Token

/-- The words that take the rest of a statement as their argument. -/
def commands : List String :=
  ["CALL", "EXPLAIN", "OPTIMIZE", "PREPARE", "VACUUM", "EXECUTE", "FETCH", "SHOW", "RENAME"]

def upperWord? (t : Token) : Option String :=
  if t.kind == .word then some (upper (String.ofList t.text)) else none

def isCommand (t : Token) : Bool :=
  !t.beforeSemicolon && (t.upperWord?.map commands.contains).getD false

def isBegin (t : Token) : Bool := t.upperWord? == some "BEGIN"

end Token

/-- Where a token stands: at the beginning of a statement, inside one, behind an `@`, or in
the argument of a command. -/
inductive Position
  | start | inside | afterAt | argument
  deriving DecidableEq, Repr

/-- The position behind a token that is in no argument. -/
def Position.behind (p : Position) (t : Token) : Position :=
  match t.kind with
  | .semicolon => .start
  | .atSign => .afterAt
  | _ =>
    if p == .start && t.isCommand then .argument
    else if p != .afterAt && t.isBegin then .start
    else .inside

/-- The tokens that are in no argument of a command. -/
def outsideArguments : Position → List Token → List Token
  | _, [] => []
  | .argument, t :: rest =>
    if t.kind == .semicolon then t :: outsideArguments .start rest
    else outsideArguments .argument rest
  | p, t :: rest => t :: outsideArguments (p.behind t) rest

end SelectQuery.Screen
