import SelectQuery.Literal.Quoted
import SelectQuery.Text.Scan

/-!
# Lists of literals

A list is written with commas between its items, with or without parentheses around it.
An item is a quoted literal, which may hold commas, or anything up to the next comma.
Empty places are passed over.
-/

namespace SelectQuery.Literal

open Text

def isComma (c : Char) : Bool := c == ','

/-- The items of a list without its parentheses. -/
def items (cs : List Char) : List (List Char) :=
  match _h : cs.dropWhile isBlank with
  | [] => []
  | c :: rest =>
    if c = ',' then items rest
    else
      match _hq : leading? (c :: rest) with
      | some (literal, behind) => literal :: items behind
      | none => trim (c :: rest.takeWhile (!isComma ·)) :: items (rest.dropWhile (!isComma ·))
termination_by cs.length
decreasing_by
  all_goals
    have hle := length_dropWhile_le isBlank cs
    rw [_h] at hle
    simp only [List.length_cons] at hle
  · omega
  · unfold leading? at _hq
    split at _hq
    · rename_i heq
      cases heq
      rw [Option.map_eq_some_iff] at _hq
      obtain ⟨found, hf, he⟩ := _hq
      have : found.2.length < _ := closing?_length hf
      simp only [Prod.mk.injEq] at he
      obtain ⟨-, rfl⟩ := he
      omega
    · simp at _hq
  · have := Text.length_dropWhile_le (!isComma ·) rest
    omega

/-- Takes off a pair of parentheses around a text. -/
def withoutParens (cs : List Char) : List Char :=
  if cs.head? == some '(' && cs.getLast? == some ')' then (cs.drop 1).dropLast else cs

def splitList (cs : List Char) : List (List Char) := items (withoutParens (trim cs))

/-- A list of which every item is a quoted literal or a number. -/
def isLiteralList (cs : List Char) : Bool :=
  let parts := splitList cs
  !parts.isEmpty && parts.all fun part => isQuoted part || isNumeric part

end SelectQuery.Literal
