/-!
# Tables of characters

A property of characters that no short rule gives is kept as a list of ranges of
code points, in increasing order. `inRanges` looks a character up.
-/

namespace SelectQuery.Text

/-- A character lies in one of the ranges, both ends included. -/
def inRanges (ranges : List (Nat × Nat)) (c : Char) : Bool :=
  ranges.any fun range => range.1 ≤ c.toNat && c.toNat ≤ range.2

end SelectQuery.Text
