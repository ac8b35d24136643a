import SelectQuery.Text.Scan

/-!
# Text for terminals

What is printed may end up in a file, so the sequences that make a terminal change colours
or move its cursor are dropped from it. Such a sequence is an escape character, an opening
bracket, digits and separators, and one letter. What is read may come from anywhere, so
the line ends of other systems are turned into line feeds.
-/

namespace SelectQuery.Text

def escapeCharacter : Char := '\x1b'

/-- A character between the bracket and the letter of a terminal sequence. -/
def isSequencePart (c : Char) : Bool := c.isDigit || c == ';' || c == '?'

/-- What follows a terminal sequence, if the text behind an escape character is one. -/
def afterSequence? : List Char → Option (List Char)
  | '[' :: rest =>
    match rest.dropWhile isSequencePart with
    | c :: rest => if c.isAlpha then some rest else none
    | [] => none
  | _ => none

theorem length_afterSequence? {cs rest : List Char} (h : afterSequence? cs = some rest) :
    rest.length < cs.length := by
  match cs with
  | [] => simp [afterSequence?] at h
  | c :: cs =>
    by_cases hc : c = '['
    · subst hc
      have hle := length_dropWhile_le isSequencePart cs
      simp only [afterSequence?] at h
      split at h
      · rename_i d tail heq
        split at h
        · simp_all
          omega
        · simp at h
      · simp at h
    · simp [afterSequence?, hc] at h

/-- A text without terminal sequences. -/
def withoutSequences : List Char → List Char
  | [] => []
  | c :: rest =>
    if c == escapeCharacter then
      match _ : afterSequence? rest with
      | some tail => withoutSequences tail
      | none => c :: withoutSequences rest
    else c :: withoutSequences rest
termination_by cs => cs.length
decreasing_by
  · have := length_afterSequence? ‹_›
    simp only [List.length_cons]
    omega
  · simp
  · simp

def lineFeeds : List Char → List Char
  | '\r' :: '\n' :: rest => '\n' :: lineFeeds rest
  | '\r' :: rest => '\n' :: lineFeeds rest
  | c :: rest => c :: lineFeeds rest
  | [] => []

end SelectQuery.Text
