import SelectQuery.Text.Blank
import SelectQuery.Text.Digit

/-!
# Integers in text

An integer is written as an optional sign and digits of any script, with single
underscores between digits and blanks around. The separator controls U+001C to U+001F are
no such blanks, although they are trimmed elsewhere. Texts with more than `digitLimit`
digits are refused without being read.
-/

namespace SelectQuery

/-- The most digits that an integer may be read from. -/
def digitLimit : Nat := 4300

/-- Why a text is no integer. -/
inductive IntegerError
  | malformed
  | tooManyDigits (digits : Nat)
  deriving DecidableEq, Repr

namespace Integer

open Text

/-- White space around an integer. -/
def isSpace (c : Char) : Bool := isBlank c && !(28 ≤ c.toNat && c.toNat ≤ 31)

/-- Drops the white space around an integer. -/
def strip (cs : List Char) : List Char :=
  ((cs.dropWhile isSpace).reverse.dropWhile isSpace).reverse

/-- The sign in front of a text, and the rest. -/
def splitSign : List Char → Bool × List Char
  | '-' :: rest => (true, rest)
  | '+' :: rest => (false, rest)
  | rest => (false, rest)

/-- Underscores stand between digits only. -/
def underscoresSeparate : List Char → Bool
  | [] => true
  | '_' :: _ => false
  | _ :: '_' :: c :: rest => isDigit c && underscoresSeparate (c :: rest)
  | _ :: ['_'] => false
  | _ :: rest => underscoresSeparate rest

/-- Reads an integer. A text that starts with too many digits is refused for that, even
if more follows. -/
def read? (s : String) : Except IntegerError Int :=
  let (negative, rest) := splitSign (strip s.toList)
  let run := rest.takeWhile fun c => isDigit c || c == '_'
  let digits := run.filter isDigit
  if run.isEmpty || !underscoresSeparate run then .error .malformed
  else if digitLimit < digits.length then .error (.tooManyDigits digits.length)
  else if run.length < rest.length then .error .malformed
  else
    let n : Int := digitsValue digits
    .ok (if negative then -n else n)

end Integer
end SelectQuery
