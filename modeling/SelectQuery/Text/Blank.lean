/-!
# Blanks

White space in the sense of Unicode, together with the four separator controls
U+001C to U+001F. Every trimming in the library is `trim`, but for that around an integer.
-/

namespace SelectQuery.Text

def isBlankCode (n : Nat) : Bool :=
  (9 ≤ n && n ≤ 13) || (28 ≤ n && n ≤ 32) || n == 133 || n == 160 || n == 5760 ||
    (8192 ≤ n && n ≤ 8202) || n == 8232 || n == 8233 || n == 8239 || n == 8287 || n == 12288

/-- White space of any script. -/
def isBlank (c : Char) : Bool := isBlankCode c.toNat

/-- Drops the blanks in front. -/
def trimLeft (cs : List Char) : List Char := cs.dropWhile isBlank

def trimRight (cs : List Char) : List Char := (cs.reverse.dropWhile isBlank).reverse

/-- Drops the blanks at both ends. -/
def trim (cs : List Char) : List Char := trimRight (trimLeft cs)

/-- A text without the blanks at its ends. -/
def trimmed (s : String) : String := String.ofList (trim s.toList)

/-- A text of blanks only. -/
def isAllBlank (s : String) : Bool := s.toList.all isBlank

end SelectQuery.Text
