import SelectQuery.Literal.Quoted

/-!
# Ranges

A range is written `low AND high`. A quoted literal in front is the low bound as a whole;
otherwise the first `AND` between blanks separates the bounds.
-/

namespace SelectQuery.Literal

open Text

/-- What follows blanks, the word `AND` in any letter case, and blanks again. -/
def afterAnd? (cs : List Char) : Option (List Char) :=
  match cs with
  | [] => none
  | first :: _ =>
    if isBlank first then
      match cs.dropWhile isBlank with
      | a :: n :: d :: b :: rest =>
        if (a == 'a' || a == 'A') && (n == 'n' || n == 'N') && (d == 'd' || d == 'D') &&
            isBlank b then
          let high := rest.dropWhile isBlank
          if high.isEmpty then none else some high
        else none
      | _ => none
    else none

/-- Cuts at the first `AND` that has something in front of it. -/
def cutAtAnd? : List Char → Option (List Char × List Char)
  | [] => none
  | c :: rest =>
    match afterAnd? rest with
    | some high => some ([c], high)
    | none => (cutAtAnd? rest).map fun (low, high) => (c :: low, high)

/-- The bounds of a range with a quoted low bound. -/
def quotedRange? (cs : List Char) : Option (List Char × List Char) :=
  match leading? cs with
  | some (low, rest) => (afterAnd? rest).map fun high => (low, high)
  | none => none

/-- The two bounds of a range. -/
def splitRange? (cs : List Char) : Option (List Char × List Char) :=
  let cs := trim cs
  match quotedRange? cs with
  | some (low, high) => some (trim low, trim high)
  | none => (cutAtAnd? cs).map fun (low, high) => (trim low, trim high)

end SelectQuery.Literal
