import SelectQuery.Text.Scan

/-!
# Joined text

Pieces with a separator between them hold nothing but the characters of the pieces and of the
separator. Cutting a text at a character is the same as cutting it as a list, so that pieces
without the separator are found again.
-/

namespace SelectQuery.Text

/-- What is true of the characters of the pieces and of the separator is true of all. -/
theorem forall_mem_intercalate {P : Char → Prop} {separator : List Char}
    (hseparator : ∀ c ∈ separator, P c) {pieces : List (List Char)}
    (hpieces : ∀ piece ∈ pieces, ∀ c ∈ piece, P c) :
    ∀ c ∈ separator.intercalate pieces, P c := by
  induction pieces with
  | nil => simp
  | cons piece pieces ih =>
      obtain ⟨hpiece, hrest⟩ := List.forall_mem_cons.mp hpieces
      cases pieces with
      | nil => simpa using hpiece
      | cons next pieces =>
          rw [List.intercalate_cons_cons, List.forall_mem_append, List.forall_mem_append]
          exact ⟨⟨hpiece, hseparator⟩, ih hrest⟩

theorem splitOn_eq (separator : Char) (cs : List Char) :
    splitOn separator cs = cs.splitOn separator := by
  induction cs with
  | nil => rfl
  | cons c rest ih =>
      rw [splitOn, ih, List.splitOn_cons_eq_if_modifyHead]
      cases h : rest.splitOn separator with
      | nil => exact absurd h (by simp)
      | cons piece pieces => rfl

end SelectQuery.Text
