/-!
# Surrogates

A text may hold halves of surrogate pairs, which are code points but no characters. A text is
kept as characters all the same: a half is a mark with a stand-in behind it, a character for
private use, and a mark of the text itself is written twice. Text from outside has no halves and
is kept by `kept`. Text that is handed out must have none (`plain?`), or shows them as escapes
(`escaped`).
-/

namespace SelectQuery.Text

/-- The last code point, which is assigned to no character. -/
def mark : Char := Char.ofNat 0x10FFFF

def isSurrogate (n : Nat) : Bool := 0xD800 ≤ n && n ≤ 0xDFFF

/-- How far the stand-in of a half is from it. -/
def standInOffset : Nat := 0x800

/-- What a text holds: characters, and halves by their code point. -/
inductive Point
  | char (c : Char)
  | half (n : Nat)
  deriving DecidableEq, Repr

def Point.code : Point → Nat
  | .char c => c.toNat
  | .half n => n

/-- How a part of a text is kept. -/
def Point.kept : Point → List Char
  | .char c => if c == mark then [mark, mark] else [c]
  | .half n => [mark, Char.ofNat (n + standInOffset)]

/-- The character, unless it is a half. -/
def Point.char? : Point → Option Char
  | .char c => some c
  | .half _ => none

/-- Text from outside, as it is kept. -/
def kept (cs : List Char) : List Char := cs.flatMap fun c => (Point.char c).kept

def keptText (s : String) : String := String.ofList (kept s.toList)

/-- What stands in a text that is kept. A mark is never its last character. -/
def points : List Char → List Point
  | c :: d :: rest =>
    if c == mark then
      (if d == mark then .char mark else .half (d.toNat - standInOffset)) :: points rest
    else .char c :: points (d :: rest)
  | [c] => [if c == mark then .half 0 else .char c]
  | [] => []

/-- A text as it is handed out, if it has no halves. -/
def plain? (cs : List Char) : Option (List Char) := (points cs).mapM Point.char?

/-- A digit of a hexadecimal number, in lower case. -/
def hexDigit (n : Nat) : Char := (Nat.toDigits 16 (n % 16)).headD '0'

/-- A number in hexadecimal with a fixed count of digits. -/
def hexDigits : Nat → Nat → List Char
  | 0, _ => []
  | width + 1, n => hexDigits width (n / 16) ++ [hexDigit n]

/-- A code point of four digits as an escape. -/
def escape (n : Nat) : List Char := '\\' :: 'u' :: hexDigits 4 n

/-- A text as it is handed out, with its halves as escapes. -/
def escaped (cs : List Char) : List Char :=
  (points cs).flatMap fun
    | .char c => [c]
    | .half n => escape n

/-- Order by code point. -/
def less (s t : String) : Bool :=
  decide ((points s.toList).map Point.code < (points t.toList).map Point.code)

end SelectQuery.Text
