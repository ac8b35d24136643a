import Mathlib.Algebra.Ring.Int.Defs
import Mathlib.Data.List.Forall2
import SelectQuery.Statement.Fault

/-!
# Statements item by item

Two configurations have the same clauses if their items are rendered alike one by one. The
items are compared by a relation between two lists (`List.Forall₂`), and every clause is a map
over a list that may have been filtered. Only the items of `WHERE` are numbered on from one to
the next.
-/

namespace SelectQuery

theorem map_eq_of_forall₂ {α β γ : Type} {R : α → β → Prop} {xs : List α} {ys : List β}
    {f : α → γ} {g : β → γ} (h : List.Forall₂ R xs ys) (hfg : ∀ x y, R x y → g y = f x) :
    ys.map g = xs.map f := by
  induction h with
  | nil => rfl
  | cons hxy _ ih => rw [List.map_cons, List.map_cons, hfg _ _ hxy, ih]

theorem filter_forall₂ {α β : Type} {R : α → β → Prop} {xs : List α} {ys : List β}
    {p : α → Bool} {q : β → Bool} (h : List.Forall₂ R xs ys) (hpq : ∀ x y, R x y → q y = p x) :
    List.Forall₂ R (xs.filter p) (ys.filter q) := by
  refine List.rel_filter (fun x y hxy => ?_) h
  show p x = true ↔ q y = true
  rw [hpq x y hxy]

theorem isEmpty_of_forall₂ {α β : Type} {R : α → β → Prop} {xs : List α} {ys : List β}
    (h : List.Forall₂ R xs ys) : ys.isEmpty = xs.isEmpty := by
  cases h <;> rfl

theorem firstFault?_of_forall₂ {α β γ : Type} {R : α → β → Prop} {xs : List α} {ys : List β}
    {f : α → Option γ} {g : β → Option γ} (h : List.Forall₂ R xs ys)
    (hfg : ∀ x y, R x y → g y = f x) : firstFault? g ys = firstFault? f xs := by
  induction h with
  | nil => rfl
  | cons hxy _ ih =>
      unfold firstFault? at *
      rw [List.findSome?_cons, List.findSome?_cons, hfg _ _ hxy, ih]

namespace Configuration

open Entry

/-- An empty path is blank, so that it has no place among those with a column. -/
theorem isPresent_and_not_isBlankEntry (path : String) :
    (isPresent path && !isBlankEntry path) = !isBlankEntry path := by
  by_cases hpath : path = ""
  · subst hpath
    decide
  · simp [hpath]

/-! ## Configurations with the same tables -/

section Tables

variable {c d : Configuration String} (h : d.tables = c.tables)
include h

theorem tableFor_of_tables (reference schema : String) :
    d.tableFor reference schema = c.tableFor reference schema := by
  unfold Configuration.tableFor
  rw [h]

theorem qualifier_of_tables (reference schema : String) :
    d.qualifier reference schema = c.qualifier reference schema := by
  unfold Configuration.qualifier
  rw [tableFor_of_tables h]

theorem renderPath_of_tables (qualify : Bool) (path : String) :
    d.renderPath qualify path = c.renderPath qualify path := by
  unfold Configuration.renderPath
  simp only [ofText_string, qualifier_of_tables h]

theorem fromClauses_of_tables : d.fromClauses = c.fromClauses := by
  unfold Configuration.fromClauses anchor?
  rw [h]

variable (hjoins : d.joins.isEmpty = c.joins.isEmpty)
include hjoins

theorem qualifies_of_tables : d.qualifies = c.qualifies := by
  unfold Configuration.qualifies
  rw [h, hjoins]

theorem crossClauses_of_tables : d.crossClauses = c.crossClauses := by
  unfold Configuration.crossClauses
  rw [h, hjoins]

end Tables

end Configuration

/-! ## Faults -/

/-- The row limit has no more than `digitLimit` digits. -/
def Configuration.PrintsLimit {ν : Type} (c : Configuration ν) : Prop :=
  ∀ n ∈ c.limit, n < 10 ^ digitLimit

theorem Configuration.limitFault?_eq_none_iff {ν : Type} (c : Configuration ν) :
    c.limitFault? = none ↔ c.PrintsLimit := by
  rw [limitFault?, PrintsLimit]
  cases c.limit with
  | none => simp
  | some n =>
      have hprints (digits : ℕ) : n.toNat < Nat.pow 10 digits ↔ n < 10 ^ digits := by
        have hpos : 0 < 10 ^ digits := Nat.pow_pos (by decide)
        have hcast : ((10 ^ digits : ℕ) : ℤ) = 10 ^ digits := Int.natCast_pow 10 digits
        rw [Nat.pow_eq]
        omega
      simp only [Option.mem_some_iff, forall_eq']
      rw [← hprints, ite_eq_left_iff, imp_iff_not (Option.some_ne_none _), not_not]

/-- With entries of text only a condition and the row limit can have a fault. -/
theorem Configuration.fault?_string (c : Configuration String) (mode : Mode) :
    c.fault? mode =
      (firstFault? (c.conditionFault? mode) c.conditions <|> c.limitFault?) := by
  have hfront : (firstFault? c.columnFault? c.columns <|> firstFault? c.joinFault? c.joins) =
      none := by
    simp [firstFault?, columnFault?, joinFault?]
  have hback : (firstFault? c.groupFault? c.groupBy <|> firstFault? c.orderFault? c.orderBy) =
      none := by
    simp [firstFault?, groupFault?, orderFault?, textFault?]
  unfold fault?
  rw [hfront, hback]
  simp

/-! ## Conditions -/

/-- Conditions with the same items and the same values are numbered alike. -/
theorem Configuration.predicates_of_forall₂ {ν μ : Type} [Entry ν] [Entry μ]
    {c : Configuration ν} {d : Configuration μ} {mode : Mode}
    {R : Condition ν → Condition μ → Prop} {xs : List (Condition ν)} {ys : List (Condition μ)}
    (h : List.Forall₂ R xs ys)
    (hpredicate : ∀ x y, R x y → ∀ isFirst start,
      d.predicate mode isFirst start y = c.predicate mode isFirst start x)
    (hbindings : ∀ x y, R x y → y.bindings mode = x.bindings mode) (isFirst : Bool) (start : ℕ) :
    d.predicates mode isFirst start ys = c.predicates mode isFirst start xs := by
  induction h generalizing isFirst start with
  | nil => rfl
  | cons hxy _ ih =>
      rw [predicates, predicates, hpredicate _ _ hxy, hbindings _ _ hxy, ih]

/-- Conditions with the same values hand over the same. -/
theorem Condition.flatMap_bindings_of_forall₂ {ν μ : Type} [Entry ν] [Entry μ] {mode : Mode}
    {R : Condition ν → Condition μ → Prop} {xs : List (Condition ν)} {ys : List (Condition μ)}
    (h : List.Forall₂ R xs ys) (hbindings : ∀ x y, R x y → y.bindings mode = x.bindings mode) :
    ys.flatMap (Condition.bindings mode) = xs.flatMap (Condition.bindings mode) := by
  rw [List.flatMap_def, List.flatMap_def, map_eq_of_forall₂ h hbindings]

end SelectQuery
