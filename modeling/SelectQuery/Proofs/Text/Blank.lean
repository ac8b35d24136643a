import Mathlib.Data.List.DropRight
import Mathlib.Data.List.TakeWhile
import SelectQuery.Text.Blank

/-!
# Trimmed text

A trimmed text has no blank at either end, and a text that has none there is its own
trimmed form.
-/

namespace SelectQuery.Text

variable {cs : List Char}

theorem trimRight_eq_rdropWhile (cs : List Char) : trimRight cs = cs.rdropWhile isBlank := rfl

theorem trimRight_initial (cs : List Char) : trimRight cs <+: cs :=
  List.rdropWhile_prefix isBlank cs

theorem head?_trimRight {c : Char} (h : c ∈ (trimRight cs).head?) : c ∈ cs.head? := by
  obtain ⟨tail, htail⟩ := trimRight_initial cs
  rw [← htail, List.head?_append, h]
  rfl

theorem getLast?_trimLeft {c : Char} (h : c ∈ (trimLeft cs).getLast?) : c ∈ cs.getLast? := by
  obtain ⟨space, hspace⟩ : trimLeft cs <:+ cs := List.dropWhile_suffix isBlank
  rw [← hspace, List.getLast?_append, h]
  rfl

theorem head?_trim (cs : List Char) : ∀ c ∈ (trim cs).head?, isBlank c = false := by
  intro c hc
  have hleft : c ∈ (trimLeft cs).head? := head?_trimRight hc
  have hnot := List.head?_dropWhile_not isBlank cs
  rw [trimLeft] at hleft
  rw [hleft] at hnot
  exact hnot

theorem getLast?_trim (cs : List Char) : ∀ c ∈ (trim cs).getLast?, isBlank c = false := by
  intro c hc
  have hne : trim cs ≠ [] := by
    rintro h
    simp [h] at hc
  have hlast := List.rdropWhile_last_not isBlank (trimLeft cs) hne
  rw [List.getLast?_eq_some_getLast hne] at hc
  obtain rfl := Option.mem_some.mp hc
  exact eq_false_of_ne_true hlast

theorem trim_eq_self (hhead : ∀ c ∈ cs.head?, isBlank c = false)
    (hlast : ∀ c ∈ cs.getLast?, isBlank c = false) : trim cs = cs := by
  have hleft : trimLeft cs = cs := by
    cases cs with
    | nil => rfl
    | cons c cs => simp [trimLeft, hhead c rfl]
  rw [trim, hleft, trimRight_eq_rdropWhile, List.rdropWhile_eq_self_iff]
  intro hne
  simpa using hlast _ (List.getLast?_eq_some_getLast hne)

@[simp] theorem trim_trim (cs : List Char) : trim (trim cs) = trim cs :=
  trim_eq_self (head?_trim cs) (getLast?_trim cs)

/-- Blanks in front are taken off. -/
theorem trim_append {front : List Char} (hfront : ∀ c ∈ front, isBlank c = true)
    (cs : List Char) : trim (front ++ cs) = trim cs := by
  rw [trim, trimLeft, List.dropWhile_append_of_pos hfront]
  rfl

/-- A text is its trimmed form between blanks. -/
theorem exists_trim (cs : List Char) : ∃ front back, cs = front ++ (trim cs ++ back) ∧
    (∀ c ∈ front, isBlank c = true) ∧ ∀ c ∈ back, isBlank c = true := by
  refine ⟨cs.takeWhile isBlank, (trimLeft cs).rtakeWhile isBlank, ?_, ?_, ?_⟩
  · have hright : trim cs ++ (trimLeft cs).rtakeWhile isBlank = trimLeft cs :=
      List.rdropWhile_append_rtakeWhile
    rw [hright]
    exact List.takeWhile_append_dropWhile.symm
  · exact fun c hc => List.mem_takeWhile_imp hc
  · exact fun c hc => List.mem_rtakeWhile_imp hc

/-- Trimming at the right end stops at a character that is no blank. -/
theorem trimRight_append {front : List Char} (hfront : ∀ c ∈ front.getLast?, isBlank c = false)
    (cs : List Char) : trimRight (front ++ cs) = front ++ trimRight cs := by
  simp only [trimRight_eq_rdropWhile]
  induction cs using List.reverseRecOn with
  | nil =>
      rw [List.append_nil, List.rdropWhile_nil, List.append_nil, List.rdropWhile_eq_self_iff]
      exact fun hne => by simp [hfront _ (List.getLast?_eq_some_getLast hne)]
  | append_singleton cs c ih =>
      rw [← List.append_assoc]
      by_cases hc : isBlank c = true
      · rw [List.rdropWhile_concat_pos _ _ _ hc, List.rdropWhile_concat_pos _ _ _ hc, ih]
      · rw [List.rdropWhile_concat_neg _ _ _ hc, List.rdropWhile_concat_neg _ _ _ hc,
          List.append_assoc]

/-- Trimming does not reach over a text without a blank at its ends. -/
theorem trim_append_right {front : List Char} (hhead : ∀ c ∈ front.head?, isBlank c = false)
    (hlast : ∀ c ∈ front.getLast?, isBlank c = false) (hne : front ≠ []) (cs : List Char) :
    trim (front ++ cs) = front ++ trimRight cs := by
  have hleft : trimLeft (front ++ cs) = front ++ cs := by
    cases front with
    | nil => exact absurd rfl hne
    | cons c front => simp [trimLeft, hhead c rfl]
  rw [trim, hleft, trimRight_append hlast]

/-- Trimming does not reach over a text without blanks, from either side. -/
theorem trim_around {front word back : List Char} (hne : word ≠ [])
    (hword : ∀ c ∈ word, isBlank c = false) :
    trim (front ++ (word ++ back)) = trimLeft front ++ (word ++ trimRight back) := by
  have hspace : ∀ c ∈ front.takeWhile isBlank, isBlank c = true := fun c hc =>
    List.mem_takeWhile_imp hc
  have hhead : ∀ c ∈ (trimLeft front ++ word).head?, isBlank c = false := by
    cases hleft : trimLeft front with
    | nil => exact fun c hc => hword c (List.mem_of_mem_head? hc)
    | cons d inner =>
        have hnot := List.head?_dropWhile_not isBlank front
        rw [← trimLeft, hleft] at hnot
        rintro c ⟨⟩
        exact hnot
  have hlast : ∀ c ∈ (trimLeft front ++ word).getLast?, isBlank c = false := by
    rw [List.getLast?_append_of_ne_nil _ hne]
    exact fun c hc => hword c (List.mem_of_getLast? hc)
  calc trim (front ++ (word ++ back))
      = trim (front.takeWhile isBlank ++ (trimLeft front ++ word ++ back)) := by
        rw [trimLeft, List.append_assoc, ← List.append_assoc (front.takeWhile isBlank),
          List.takeWhile_append_dropWhile]
    _ = trim (trimLeft front ++ word ++ back) := trim_append hspace _
    _ = trimLeft front ++ word ++ trimRight back := trim_append_right hhead hlast (by simp [hne]) _
    _ = trimLeft front ++ (word ++ trimRight back) := List.append_assoc ..

theorem infix_trim (cs : List Char) : trim cs <:+: cs :=
  (trimRight_initial (trimLeft cs)).isInfix.trans (List.dropWhile_suffix isBlank).isInfix

theorem trim_sublist (cs : List Char) : (trim cs).Sublist cs := (infix_trim cs).sublist

/-- A text that does not start with a blank keeps its first character. -/
theorem head?_trim_cons {c : Char} (hc : isBlank c = false) (cs : List Char) :
    (trim (c :: cs)).head? = some c := by
  have hleft : trimLeft (c :: cs) = c :: cs := by simp [trimLeft, hc]
  have hne : trim (c :: cs) ≠ [] := by
    intro h
    rw [trim, hleft, trimRight_eq_rdropWhile, List.rdropWhile_eq_nil_iff] at h
    rw [h c List.mem_cons_self] at hc
    exact absurd hc (by decide)
  obtain ⟨tail, htail⟩ := trimRight_initial (trimLeft (c :: cs))
  cases hcs : trim (c :: cs) with
  | nil => exact absurd hcs hne
  | cons d ds =>
      rw [trim] at hcs
      rw [hcs, hleft] at htail
      rw [(List.cons.inj htail).1]
      rfl

/-- Nothing is left of a text exactly if there are only blanks in it. -/
theorem trimmed_eq_empty_iff {s : String} : trimmed s = "" ↔ isAllBlank s = true := by
  have hempty : trimmed s = "" ↔ trim s.toList = [] := by
    rw [trimmed, String.ofList_eq_empty_iff]
  rw [hempty, isAllBlank, List.all_eq_true, trim, trimRight_eq_rdropWhile,
    List.rdropWhile_eq_nil_iff, trimLeft]
  constructor
  · intro h c hc
    rw [← List.takeWhile_append_dropWhile (p := isBlank) (l := s.toList)] at hc
    rcases List.mem_append.mp hc with hfront | hback
    · exact List.mem_takeWhile_imp hfront
    · exact h c hback
  · intro h c hc
    exact h c ((List.dropWhile_sublist isBlank).subset hc)

end SelectQuery.Text
