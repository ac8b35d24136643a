import SelectQuery.Literal.Operand
import SelectQuery.Proofs.Text.Blank

/-!
# Two readings of one value

`format` writes a value into the query and `values` reads what is handed over in its place.
They agree on whether there is anything, and outside of lists on how much: a range with two
bounds has two values, anything else has one.
-/

namespace SelectQuery.Literal

open Text

variable {op : ConditionOperator} {raw : List Char}

@[simp] theorem splitRange?_trim (cs : List Char) : splitRange? (trim cs) = splitRange? cs := by
  simp only [splitRange?, trim_trim]

/-- An operator that takes a list takes nothing else. -/
theorem isMembership_only (h : op.isMembership = true) :
    op.isNullability = false ∧ op.isPattern = false := by
  cases op <;> first | exact ⟨rfl, rfl⟩ | simp [ConditionOperator.isMembership] at h

/-- An operator that takes two bounds takes nothing else. -/
theorem isRange_only (h : op.isRange = true) :
    op.isNullability = false ∧ op.isMembership = false ∧ op.isPattern = false := by
  cases op <;> first | exact ⟨rfl, rfl, rfl⟩ | simp [ConditionOperator.isRange] at h

/-- An operator takes one scalar: its value is not blank, not a list, and not a range. -/
structure TakesOne (op : ConditionOperator) (raw : List Char) : Prop where
  present : trim raw ≠ []
  scalar : op.isNullability = false ∧ op.isMembership = false
  bounds : op.isRange = true → splitRange? raw = none

/-- An operator takes two bounds. -/
structure TakesTwo (op : ConditionOperator) (raw low high : List Char) : Prop where
  present : trim raw ≠ []
  range : op.isRange = true
  bounds : splitRange? raw = some (low, high)

theorem takes_cases (hne : trim raw ≠ []) (hnull : op.isNullability = false)
    (hmember : op.isMembership = false) :
    TakesOne op raw ∨ ∃ low high, TakesTwo op raw low high := by
  by_cases hrange : op.isRange = true
  · cases hsplit : splitRange? raw with
    | none => exact .inl ⟨hne, ⟨hnull, hmember⟩, fun _ => hsplit⟩
    | some found => exact .inr ⟨found.1, found.2, hne, hrange, hsplit⟩
  · exact .inl ⟨hne, ⟨hnull, hmember⟩, fun h => absurd h hrange⟩

namespace TakesOne

variable (h : TakesOne op raw)
include h

theorem bounds_eq : (if op.isRange then splitRange? raw else none) = none := by
  by_cases hrange : op.isRange = true
  · rw [if_pos hrange, h.bounds hrange]
  · rw [if_neg hrange]

theorem scalars_eq : scalars op raw = [trim raw] := by
  simp [scalars, h.scalar, h.present, h.bounds_eq]

theorem format_eq : format (some op) raw =
    some (if op.isPattern then if isQuoted (trim raw) then trim raw else quote (trim raw)
      else formatScalar (trim raw)) := by
  simp only [format, h.scalar, h.present, splitRange?_trim, h.bounds_eq,
    List.isEmpty_iff, if_false, Bool.false_eq_true]
  split <;> rfl

end TakesOne

namespace TakesTwo

variable {low high : List Char} (h : TakesTwo op raw low high)
include h

theorem scalars_eq : scalars op raw = [low, high] := by
  simp [scalars, isRange_only h.range, h.present, h.range, h.bounds]

theorem format_eq : format (some op) raw =
    some (formatScalar low ++ " AND ".toList ++ formatScalar high) := by
  simp [format, isRange_only h.range, h.present, h.range, h.bounds]

end TakesTwo

/-- A list of literals is not blank, and its items are the scalars. -/
theorem scalars_of_isLiteralList (hop : op.isMembership = true)
    (hlist : isLiteralList raw = true) :
    scalars op raw = splitList raw ∧ splitList raw ≠ [] ∧ trim raw ≠ [] := by
  have hitems : splitList raw ≠ [] := by
    intro h
    simp [isLiteralList, h] at hlist
  have hne : trim raw ≠ [] := by
    intro h
    simp [splitList, h, withoutParens, items] at hitems
  refine ⟨?_, hitems, hne⟩
  simp [scalars, isMembership_only hop, hne, hop, splitList]

/-- A value is written if and only if there are values to hand over. -/
theorem isSome_format (h : op.isMembership = true → isLiteralList raw = true) :
    (format (some op) raw).isSome = !(values op raw).isEmpty := by
  rw [values, List.isEmpty_map]
  by_cases hmember : op.isMembership = true
  · obtain ⟨hscalars, hitems, hne⟩ := scalars_of_isLiteralList hmember (h hmember)
    rw [hscalars]
    simp [format, isMembership_only hmember, hmember, hne, hitems]
  by_cases hnull : op.isNullability = true
  · simp [format, scalars, hnull]
  by_cases hblank : trim raw = []
  · simp [format, scalars, hblank]
  rw [Bool.not_eq_true] at hmember hnull
  rcases takes_cases hblank hnull hmember with hone | ⟨low, high, htwo⟩
  · rw [hone.format_eq, hone.scalars_eq]
    rfl
  · rw [htwo.format_eq, htwo.scalars_eq]
    rfl

/-- What is no list has two values as a range with two bounds, and at most one otherwise. -/
theorem length_values (hmember : op.isMembership = false) :
    (op.isRange = true ∧ (values op raw).length = 2) ∨ (values op raw).length ≤ 1 := by
  rw [values, List.length_map]
  by_cases hnull : op.isNullability = true
  · right
    simp [scalars, hnull]
  by_cases hblank : trim raw = []
  · right
    simp [scalars, hblank]
  rw [Bool.not_eq_true] at hnull
  rcases takes_cases hblank hnull hmember with hone | ⟨low, high, htwo⟩
  · right
    rw [hone.scalars_eq]
    exact le_rfl
  · left
    rw [htwo.scalars_eq]
    exact ⟨htwo.range, rfl⟩

end SelectQuery.Literal
