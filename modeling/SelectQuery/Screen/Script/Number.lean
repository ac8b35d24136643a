import SelectQuery.Text.Digit

/-!
# Numbers in a script

Four forms of number are tried one after the other: hexadecimal, with an exponent, with a
point, and whole. A number with a point or a whole number must not run into a letter; it
gives back digits until it does not.
-/

namespace SelectQuery.Screen.Script

open Text

/-- The letters that a name may begin with: those of ASCII and of the western European
languages, with their variants of letter case. -/
def isLetter (c : Char) : Bool :=
  let n := c.toNat
  c.isAlpha || (0xC0 ≤ n && n ≤ 0xDC) || (0xE0 ≤ n && n ≤ 0xFC && n != 0xF7) ||
    [0x130, 0x131, 0x17F, 0x212A, 0x212B].contains n

/-- A number must not run into such a character. -/
def stopsNumber (c : Char) : Bool := isLetter c || c == '_'

/-- A text begins with a character that a number must not run into. -/
def runsOn (cs : List Char) : Bool := (cs.head?.map stopsNumber).getD false

/-- The digits in front, and the rest. -/
def digits (cs : List Char) : List Char × List Char := cs.span isDigit

/-- A minus in front is part of a number. -/
def withoutMinus (cs : List Char) : List Char :=
  match cs with
  | '-' :: rest => rest
  | _ => cs

def isHexDigit (c : Char) : Bool :=
  isDigit c || ('a' ≤ c && c ≤ 'f') || ('A' ≤ c && c ≤ 'F')

def afterHex? (cs : List Char) : Option (List Char) :=
  match withoutMinus cs with
  | '0' :: x :: d :: rest =>
    if (x == 'x' || x == 'X') && isHexDigit d then some (rest.dropWhile isHexDigit) else none
  | _ => none

/-- What follows the fraction of a number, if there is one. -/
def afterFraction (cs : List Char) : List Char :=
  match cs with
  | '.' :: rest => if (digits rest).1.isEmpty then cs else (digits rest).2
  | _ => cs

def afterExponent? (cs : List Char) : Option (List Char) :=
  match cs with
  | e :: rest =>
    let (exponent, behind) := digits (withoutMinus rest)
    if (e == 'e' || e == 'E') && !exponent.isEmpty then some behind else none
  | [] => none

def afterScientific? (cs : List Char) : Option (List Char) :=
  let (whole, rest) := digits (withoutMinus cs)
  if whole.isEmpty then none
  else
    match afterExponent? (afterFraction rest) with
    | some behind => some behind
    | none => afterExponent? rest

/-- Gives back digits of a run until the number does not run on. The first argument holds
the digits in reverse, of which so many must stay. -/
def giveBack? (keep : Nat) : List Char → List Char → Option (List Char)
  | [], behind => if keep == 0 && !runsOn behind then some behind else none
  | d :: rest, behind =>
    if rest.length + 1 < keep then none
    else if !runsOn behind then some behind
    else giveBack? keep rest (d :: behind)

def afterPoint? (cs : List Char) : Option (List Char) :=
  match digits (withoutMinus cs) with
  | (whole, '.' :: rest) =>
    let (fraction, behind) := digits rest
    giveBack? (if whole.isEmpty then 1 else 0) fraction.reverse behind
  | _ => none

def afterWhole? (cs : List Char) : Option (List Char) :=
  let (whole, behind) := digits (withoutMinus cs)
  giveBack? 1 whole.reverse behind

def afterNumber? (cs : List Char) : Option (List Char) :=
  afterHex? cs <|> afterScientific? cs <|>
    (if runsOn cs then none else afterPoint? cs <|> afterWhole? cs)

end SelectQuery.Screen.Script
