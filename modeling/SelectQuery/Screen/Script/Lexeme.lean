import SelectQuery.Screen.Script.Number
import SelectQuery.Text.Blank
import SelectQuery.Text.Case
import SelectQuery.Text.Scan
import SelectQuery.Text.Word

/-!
# Lexemes

A script is a text with any number of statements. To find where its statements end it is
cut into lexemes, consecutive pieces that are never empty. The lexeme at a place is told by
the first rule that fits there; the rules look at the rest of the text and at the one
character before it. A character that no rule fits is a lexeme of its own, and so is a
quote that is never closed.
-/

namespace SelectQuery.Screen.Script

open Text

/-- The kinds of lexeme. -/
inductive LexemeKind
  | blank
  | lineEnd
  | lineComment
  | blockComment
  /-- A word that stands for a thing. -/
  | name
  /-- A word that may be a keyword. -/
  | word
  | mark
  /-- Numbers, quoted text, operators, placeholders. -/
  | other
  deriving DecidableEq, Repr

/-- A lexeme. -/
structure Lexeme where
  kind : LexemeKind
  text : List Char
  deriving DecidableEq, Repr

/-- A rule: the kind of the lexeme at a place, and what follows it. -/
abbrev Rule := Option (LexemeKind × List Char)

/-- The text behind a line end, if there is one. -/
def afterLineEnd? : List Char → Option (List Char)
  | '\r' :: '\n' :: rest => some rest
  | '\r' :: rest => some rest
  | '\n' :: rest => some rest
  | _ => none

/-- The text behind the next line end. -/
def afterLine (cs : List Char) : List Char :=
  let rest := cs.dropWhile fun c => c != '\r' && c != '\n'
  (afterLineEnd? rest).getD rest

/-- The text behind the next occurrence of a part, under an equality of characters. -/
def behind? (same : Char → Char → Bool) (part : List Char) : List Char → Option (List Char)
  | [] => none
  | c :: rest =>
    if (c :: rest).length < part.length then none
    else if ((c :: rest).zip part).all fun (a, b) => same a b then
      some ((c :: rest).drop part.length)
    else behind? same part rest

/-- A comment: to the end of its line, or to its closing mark. -/
def comment (cs : List Char) : Rule :=
  match cs with
  | '-' :: '-' :: rest => some (.lineComment, afterLine rest)
  | '#' :: ' ' :: rest => some (.lineComment, afterLine rest)
  | '/' :: '*' :: rest => (behind? (· == ·) ['*', '/'] rest).map (.blockComment, ·)
  | _ => none

def space (cs : List Char) : Rule :=
  match afterLineEnd? cs, cs with
  | some rest, _ => some (.lineEnd, rest)
  | none, c :: rest => if isBlank c then some (.blank, rest) else none
  | none, [] => none

/-- The text behind a closing quote. A doubled quote, and with `backslash` also a quote
behind a backslash, goes on, as long as another quote follows. -/
def afterQuote? (quote : Char) (backslash : Bool) : List Char → Option (List Char)
  | [] => none
  | c :: rest =>
    if c == quote then
      match rest with
      | d :: more =>
        if d == quote && more.contains quote then afterQuote? quote backslash more
        else some rest
      | [] => some rest
    else
      match rest with
      | d :: more =>
        if backslash && c == '\\' && d == quote && more.contains quote then
          afterQuote? quote backslash more
        else afterQuote? quote backslash (d :: more)
      | [] => none

def quotedName (cs : List Char) : Rule :=
  match cs with
  | c :: rest =>
    if c == '\x60' || c == '´' then (afterQuote? c false rest).map (.other, ·) else none
  | [] => none

def sameLetter (a b : Char) : Bool := lowerChar a == lowerChar b

def dollarText (before : Option Char) (cs : List Char) : Rule :=
  match cs with
  | '$' :: rest =>
    let blocked := (before.map fun c => isWord c || c == '"' || c == '$').getD false
    let tag :=
      match rest with
      | c :: inner => if isLetter c || c == '_' then c :: inner.takeWhile isWord else []
      | [] => []
    match rest.drop tag.length with
    | '$' :: content =>
      if blocked then none
      else (behind? sameLetter ('$' :: tag ++ ['$']) content).map (.other, ·)
    | _ => none
  | _ => none

/-- A character that is no word character stands in front. -/
def notInWord (before : Option Char) : Bool := !(before.map isWord).getD false

def placeholder (before : Option Char) (cs : List Char) : Rule :=
  match cs with
  | '?' :: rest => some (.other, rest)
  | '%' :: rest =>
    let named :=
      match rest with
      | '(' :: inner =>
        match inner.takeWhile isWord, inner.dropWhile isWord with
        | _ :: _, ')' :: more => more
        | _, _ => rest
      | _ => rest
    match named with
    | s :: more => if sameLetter s 's' || s == 'ſ' then some (.other, more) else none
    | [] => none
  | c :: w :: rest =>
    if (c == '$' || c == ':') && notInWord before && isWord w then
      some (.other, rest.dropWhile isWord)
    else none
  | _ => none

/-- A word behind a backslash. -/
def escapedWord (cs : List Char) : Rule :=
  match cs with
  | '\\' :: w :: rest => if isWord w then some (.other, rest.dropWhile isWord) else none
  | _ => none

/-- The words that are keywords wherever they stand. -/
def reserved : List String := ["CASE", "IN", "VALUES", "USING", "FROM", "AS"]

def upperText (cs : List Char) : String := upper (String.ofList cs)

def reservedWord (cs : List Char) : Rule :=
  if reserved.contains (upperText (cs.takeWhile isWord)) then
    some (.word, cs.dropWhile isWord)
  else none

/-- A letter and at least one word character behind it. -/
def afterTwo? (cs : List Char) : Option (List Char) :=
  match cs with
  | c :: w :: rest => if isLetter c && isWord w then some (rest.dropWhile isWord) else none
  | _ => none

/-- A name behind a sign. -/
def signedName (cs : List Char) : Rule :=
  match cs with
  | '@' :: rest => (afterTwo? rest).map (.other, ·)
  | '#' :: '#' :: rest => (afterTwo? rest).map (.other, ·)
  | '#' :: rest => (afterTwo? rest).map (.other, ·)
  | _ => none

/-- Blanks and a point that is not the point of a number. -/
def pointFollows (cs : List Char) : Bool :=
  match cs.dropWhile isBlank with
  | '.' :: c :: _ => !isDigit c
  | ['.'] => true
  | _ => false

/-- A word that stands for a thing: one with a point before or behind it, or directly in
front of a parenthesis. -/
def nameWord (before : Option Char) (cs : List Char) : Rule :=
  match cs with
  | c :: inner =>
    let rest := inner.dropWhile isWord
    if isLetter c && (pointFollows rest || before == some '.' || rest.head? == some '(') then
      some (.name, rest)
    else none
  | [] => none

def quotedText (cs : List Char) : Rule :=
  match cs with
  | c :: rest =>
    if c == '\'' || c == '"' then (afterQuote? c true rest).map (.other, ·) else none
  | [] => none

/-- A name between brackets that is no index. -/
def bracketName (before : Option Char) (cs : List Char) : Rule :=
  match cs with
  | '[' :: rest =>
    let index := (before.map fun c => isWord c || c == ']' || c == ')').getD false
    match rest.span fun c => c != '[' && c != ']' with
    | (_ :: _, ']' :: more) => if index then none else some (.other, more)
    | _ => none
  | _ => none

/-- A word boundary in front of a text that follows a word. -/
def wordEnds (cs : List Char) : Bool := !(cs.head?.map isWord).getD false

/-- The text behind a word in any letter case. -/
def afterWord? (word : String) (cs : List Char) : Option (List Char) :=
  let n := word.length
  if upperText (cs.take n) == word then some (cs.drop n) else none

/-- The words that may follow `END`. -/
def endedBlocks : List String := ["IF", "LOOP", "WHILE"]

/-- `END`, with the kind of block that it ends. -/
def endWord (cs : List Char) : Rule :=
  match afterWord? "END" cs with
  | none => none
  | some rest =>
    let behind := rest.dropWhile isBlank
    let ended := if behind.length < rest.length then
        endedBlocks.findSome? fun w => (afterWord? w behind).filter wordEnds
      else none
    match ended with
    | some more => some (.word, more)
    | none => if wordEnds rest then some (.word, rest) else none

/-- `GO` with a count. -/
def goWord (cs : List Char) : Rule :=
  match afterWord? "GO" cs with
  | some (b :: rest) =>
    let behind := rest.dropWhile isDigit
    if isBlank b && behind.length < rest.length && wordEnds behind then some (.word, behind)
    else none
  | _ => none

def continuesWord (c : Char) : Bool := isWord c || c == '$' || c == '#'

def plainWord (cs : List Char) : Rule :=
  match cs with
  | c :: rest => if isWord c then some (.word, rest.dropWhile continuesWord) else none
  | [] => none

/-- The operators that are told by more than a run of signs. -/
def fixedOperators : List (List Char) :=
  ["->>", "->", "#>>", "#>", "@>", "<@", "-", "#-"].map String.toList

def comparisonSigns : List Char := "<>=~!".toList

def operatorSigns : List Char := "+/@#%^&|-".toList

def sign (cs : List Char) : Rule :=
  match cs with
  | [] => none
  | c :: rest =>
    if ";:()[],.".toList.contains c then some (.mark, rest)
    else
      match fixedOperators.findSome? (after? · cs) with
      | some more => some (.other, more)
      | none =>
        if comparisonSigns.contains c then
          some (.other, rest.dropWhile comparisonSigns.contains)
        else if operatorSigns.contains c then
          some (.other, rest.dropWhile operatorSigns.contains)
        else none

/-- Assignments, casts and the star. -/
def doubleMark (cs : List Char) : Rule :=
  match cs with
  | ':' :: '=' :: rest => some (.mark, rest)
  | ':' :: ':' :: rest => some (.mark, rest)
  | '*' :: rest => some (.other, rest)
  | _ => none

/-- The lexeme at a place, by the first rule that fits. -/
def rule (before : Option Char) (cs : List Char) : Rule :=
  comment cs <|> space cs <|> doubleMark cs <|> quotedName cs <|> dollarText before cs <|>
    placeholder before cs <|> escapedWord cs <|> reservedWord cs <|> signedName cs <|>
    nameWord before cs <|> (afterNumber? cs).map (.other, ·) <|> quotedText cs <|>
    bracketName before cs <|> endWord cs <|> goWord cs <|> plainWord cs <|> sign cs

/-- The lexemes of a script behind a character. -/
def lexemesFrom (before : Option Char) (cs : List Char) : List Lexeme :=
  match cs with
  | [] => []
  | c :: rest =>
    let (kind, behind) := (rule before (c :: rest)).getD (.other, rest)
    let more := rest.length - behind.length
    let text := c :: rest.take more
    ⟨kind, text⟩ :: lexemesFrom text.getLast? (rest.drop more)
termination_by cs.length
decreasing_by
  simp only [List.length_cons, List.length_drop]
  omega

/-- The lexemes of a script. -/
def lexemes (s : String) : List Lexeme := lexemesFrom none s.toList

end SelectQuery.Screen.Script
