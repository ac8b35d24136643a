import SelectQuery.Literal.Items
import SelectQuery.Literal.Range
import SelectQuery.Term

/-!
# Operands

What a user typed as the value of a condition is read in the light of the operator: a
list for a membership test, two bounds for a range, a pattern, or a scalar; a test for a
missing value takes none. `format` writes the operand into the query, `values` reads the
values that are handed over beside it, and `scalars` are the texts they are read from.
-/

namespace SelectQuery.Literal

open Text

/-- The operand as it is written in a query. There is none for a blank value and for an
operator that takes none. Without a known operator the value is a scalar. -/
def format (operator : Option ConditionOperator) (raw : List Char) : Option (List Char) :=
  let cs := trim raw
  if cs.isEmpty then none
  else
    match operator with
    | none => some (formatScalar cs)
    | some op =>
      if op.isNullability then none
      else if op.isMembership then some (if cs.head? == some '(' then cs else '(' :: cs ++ [')'])
      else if op.isPattern then some (if isQuoted cs then cs else quote cs)
      else
        match if op.isRange then splitRange? cs else none with
        | some (low, high) => some (formatScalar low ++ " AND ".toList ++ formatScalar high)
        | none => some (formatScalar cs)

def scalars (op : ConditionOperator) (raw : List Char) : List (List Char) :=
  let cs := trim raw
  if op.isNullability || cs.isEmpty then []
  else if op.isMembership then splitList cs
  else
    match if op.isRange then splitRange? cs else none with
    | some (low, high) => [low, high]
    | none => [cs]

def values (op : ConditionOperator) (raw : List Char) : List Literal :=
  (scalars op raw).map (if op.isPattern then readText else readScalar)

/-- The digits of the first integer in an operand that has too many of them. -/
def excess? (op : ConditionOperator) (raw : List Char) : Option Nat :=
  if op.isPattern then none else (scalars op raw).findSome? excessDigits?

end SelectQuery.Literal
