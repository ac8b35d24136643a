import SelectQuery.Value.Basic

/-!
# Sorting values

Values are sorted only if any two of them can be compared. Sorting is by insertion, with
an order that may have no answer; equal items keep their order.
-/

namespace SelectQuery

namespace Sorting

variable {α : Type}

/-- Puts an item in front of those that are not less; nothing if it cannot be compared. -/
def insert? (less? : α → α → Option Bool) (x : α) : List α → Option (List α)
  | [] => some [x]
  | y :: rest =>
    match less? y x with
    | none => none
    | some true => (insert? less? x rest).map (y :: ·)
    | some false => some (x :: y :: rest)

/-- The items in ascending order; nothing if two of them cannot be compared. -/
def sort? (less? : α → α → Option Bool) : List α → Option (List α)
  | [] => some []
  | x :: rest => (sort? less? rest).bind (insert? less? x)

end Sorting

namespace Value

/-- The values in ascending order. -/
def sort? (vs : List Value) : Option (List Value) := Sorting.sort? less? vs

/-- Order of pairs: the second components decide where the first are equal. -/
def pairLess? (a b : Value × Value) : Option Bool :=
  if a.1.same b.1 then
    if a.2.same b.2 then some false else a.2.less? b.2
  else a.1.less? b.1

/-- The pairs in ascending order. -/
def sortPairs? (ps : List (Value × Value)) : Option (List (Value × Value)) :=
  Sorting.sort? pairLess? ps

end Value
end SelectQuery
