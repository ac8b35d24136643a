import SelectQuery.Number.Binary64
import SelectQuery.Text.Blank
import SelectQuery.Text.Digit
import SelectQuery.Number.Integer
import SelectQuery.Value.Basic

/-!
# Literals

A literal in a condition is a text in single quotes, with a quote inside it written
twice, or a number. What a user typed is taken as a literal as it stands if it has either
form, and is quoted otherwise.
-/

namespace SelectQuery

/-- The value of a literal. -/
inductive Literal
  | text (s : String)
  | integer (n : Int)
  | float (x : Binary64)
  deriving DecidableEq

namespace Literal

open Text

def toValue : Literal → Value
  | .text s => .text s
  | .integer n => .int n
  | .float x => .float x

/-- Writes every quote twice. -/
def doubleQuotes (cs : List Char) : List Char :=
  cs.flatMap fun c => if c = '\'' then ['\'', '\''] else [c]

def quote (cs : List Char) : List Char := '\'' :: doubleQuotes cs ++ ['\'']

/-- A text between single quotes. The quotes in between are not looked at. -/
def isQuoted (cs : List Char) : Bool :=
  2 ≤ cs.length && cs.head? == some '\'' && cs.getLast? == some '\''

/-- Reads every pair of quotes as one quote. -/
def undoubleQuotes : List Char → List Char
  | '\'' :: '\'' :: rest => '\'' :: undoubleQuotes rest
  | c :: rest => c :: undoubleQuotes rest
  | [] => []

def unquote (cs : List Char) : List Char := undoubleQuotes (cs.drop 1).dropLast

/-- The parts of a number: its sign, the digits before and after the point, whether there
is a point, and the sign and digits of the exponent. -/
structure NumberParts where
  negative : Bool
  whole : List Char
  hasPoint : Bool
  fraction : List Char
  exponent : Option (Bool × List Char)
  deriving DecidableEq, Repr

/-- The exponent at the end of a number. A line feed may follow. -/
def exponentEnd? : List Char → Option (Option (Bool × List Char))
  | [] => some none
  | ['\n'] => some none
  | c :: rest =>
    if c = 'e' ∨ c = 'E' then
      let (negative, digits) := Integer.splitSign rest
      let run := digits.takeWhile isDigit
      let left := digits.dropWhile isDigit
      if !run.isEmpty && (left.isEmpty || left == ['\n']) then some (some (negative, run))
      else none
    else none

/-- Reads a number. One line feed at the end is passed over. -/
def numberParts? (cs : List Char) : Option NumberParts :=
  let (negative, unsigned) := Integer.splitSign cs
  let whole := unsigned.takeWhile isDigit
  let rest := unsigned.dropWhile isDigit
  let (hasPoint, behind) :=
    match rest with
    | '.' :: behind => (true, behind)
    | _ => (false, rest)
  let fraction := if hasPoint then behind.takeWhile isDigit else []
  let rest := if hasPoint then behind.dropWhile isDigit else rest
  if whole.isEmpty && fraction.isEmpty then none
  else (exponentEnd? rest).map fun exponent => ⟨negative, whole, hasPoint, fraction, exponent⟩

def isNumeric (cs : List Char) : Bool := (numberParts? cs).isSome

namespace NumberParts

/-- A number without point and exponent. -/
def isInteger (p : NumberParts) : Bool := !p.hasPoint && p.exponent.isNone

/-- The power of ten that a number is multiplied with. -/
def power (p : NumberParts) : Int :=
  match p.exponent with
  | some (negative, digits) =>
    let n : Int := digitsValue digits
    if negative then -n else n
  | none => 0

def value (p : NumberParts) : Literal :=
  if p.isInteger then
    let n : Int := digitsValue p.whole
    .integer (if p.negative then -n else n)
  else
    .float (.ofDecimal p.negative (digitsValue (p.whole ++ p.fraction))
      (p.power - p.fraction.length))

end NumberParts

/-- A number written with a zero in front of another digit. The zeros are significant, as
in postal codes, and it is kept as text. -/
def hasLeadingZero (cs : List Char) : Bool :=
  match (Integer.splitSign cs).2 with
  | '0' :: c :: _ => isDigit c
  | _ => false

def formatScalar (cs : List Char) : List Char :=
  if isNumeric cs || isQuoted cs then cs else quote cs

def readScalar (cs : List Char) : Literal :=
  if isQuoted cs then .text (String.ofList (unquote cs))
  else if hasLeadingZero cs then .text (String.ofList cs)
  else
    match numberParts? cs with
    | some p => p.value
    | none => .text (String.ofList cs)

/-- The value of a scalar that is never a number. -/
def readText (cs : List Char) : Literal :=
  if isQuoted cs then .text (String.ofList (unquote cs)) else .text (String.ofList cs)

/-- The digits of a scalar that stands for an integer, if they are too many to be read. -/
def excessDigits? (cs : List Char) : Option Nat :=
  if isQuoted cs || hasLeadingZero cs then none
  else
    match numberParts? cs with
    | some p => if p.isInteger && digitLimit < p.whole.length then some p.whole.length else none
    | none => none

end Literal
end SelectQuery
