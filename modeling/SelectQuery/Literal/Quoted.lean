import SelectQuery.Literal.Basic

/-!
# The end of a quoted literal

A quoted literal ends at the first quote that is not one of a pair. If there is none, the
last pair is broken up and its first quote ends the literal.
-/

namespace SelectQuery.Literal

/-- Puts characters in front of what stands inside the quotes. -/
def extend (front : List Char) (found : List Char × List Char) : List Char × List Char :=
  (front ++ found.1, found.2)

/-- From behind an opening quote: what stands up to the closing one, and the rest. -/
def closing? : List Char → Option (List Char × List Char)
  | [] => none
  | '\'' :: '\'' :: rest =>
    match closing? rest with
    | some found => some (extend ['\'', '\''] found)
    | none => some ([], '\'' :: rest)
  | '\'' :: rest => some ([], rest)
  | c :: rest => (closing? rest).map (extend [c])

/-- What stands inside the quotes, the closing one and the rest make up the text. -/
theorem closing?_split {cs content rest : List Char} (h : closing? cs = some (content, rest)) :
    cs = content ++ '\'' :: rest := by
  fun_induction closing? cs generalizing content rest with
  | case1 => simp at h
  | case2 cs found hfound ih =>
    obtain ⟨rfl, rfl⟩ := Prod.mk.inj (Option.some.inj h)
    rw [ih hfound]
    simp
  | case3 cs hnone ih =>
    obtain ⟨rfl, rfl⟩ := Prod.mk.inj (Option.some.inj h)
    rfl
  | case4 cs =>
    obtain ⟨rfl, rfl⟩ := Prod.mk.inj (Option.some.inj h)
    rfl
  | case5 c cs _ hc ih =>
    obtain ⟨found, hfound, heq⟩ := Option.map_eq_some_iff.mp h
    obtain ⟨rfl, rfl⟩ := Prod.mk.inj heq
    rw [ih hfound]
    simp

theorem closing?_length {cs content rest : List Char} (h : closing? cs = some (content, rest)) :
    rest.length < cs.length := by
  rw [closing?_split h, List.length_append, List.length_cons]
  omega

/-- A quoted literal at the beginning of a text, and the rest. -/
def leading? : List Char → Option (List Char × List Char)
  | '\'' :: cs => (closing? cs).map fun (content, rest) => ('\'' :: content ++ ['\''], rest)
  | _ => none

end SelectQuery.Literal
