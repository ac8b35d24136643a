/-!
# Scanning and cutting

Small operations on lists of characters that the readers share: testing for a fixed
beginning, cutting at the last separator, replacing a fixed pair of characters.
-/

namespace SelectQuery.Text

theorem length_dropWhile_le (p : Char → Bool) (cs : List Char) :
    (cs.dropWhile p).length ≤ cs.length :=
  (List.dropWhile_sublist p).length_le

def after? : List Char → List Char → Option (List Char)
  | [], cs => some cs
  | _ :: _, [] => none
  | b :: bs, c :: cs => if b == c then after? bs cs else none

def startsWith (beginning cs : List Char) : Bool := (after? beginning cs).isSome

def occursIn (part : List Char) : List Char → Bool
  | [] => part.isEmpty
  | c :: cs => startsWith part (c :: cs) || occursIn part cs

/-- Cuts at the last separator: what stands before and after it, or nothing and the whole
text where there is none. -/
def cutLast (separator : Char) (cs : List Char) : List Char × List Char :=
  let tail := (cs.reverse.takeWhile (· != separator)).reverse
  (cs.take (cs.length - tail.length - 1), tail)

def splitOn (separator : Char) : List Char → List (List Char)
  | [] => [[]]
  | c :: rest =>
    match splitOn separator rest with
    | [] => [[c]]
    | piece :: pieces => if c == separator then [] :: piece :: pieces else (c :: piece) :: pieces

end SelectQuery.Text
