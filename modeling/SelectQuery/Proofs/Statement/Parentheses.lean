import Mathlib.Algebra.BigOperators.Group.List.Basic
import Mathlib.Algebra.Ring.Int.Defs
import SelectQuery.Proofs.Number.Digits
import SelectQuery.Proofs.Screen.Check
import SelectQuery.Proofs.Statement.Modes

/-!
# Parentheses in the two statements

The surplus of a text is the number of parentheses it opens less those it closes. It adds up
over the pieces of a text, and the pieces of the two statements of a configuration are equal
but for the value parts of bound conditions. Placeholders have no surplus. So the preview
has the surplus of the bound statement and of the values that are handed over, as the
preview writes them (`surplus_statement`), and with a balanced preview the bound statement is
balanced if and only if those values are, taken together.
-/

namespace SelectQuery

open Text Entry

namespace Text

/-- How many more parentheses a text opens than it closes. -/
def surplus (cs : List Char) : ℤ := (cs.count '(' : ℤ) - cs.count ')'

@[simp] theorem surplus_nil : surplus [] = 0 := rfl

@[simp] theorem surplus_append (cs ds : List Char) :
    surplus (cs ++ ds) = surplus cs + surplus ds := by
  rw [surplus, List.count_append, List.count_append, surplus, surplus]
  omega

theorem surplus_eq_zero {cs : List Char} (hopen : '(' ∉ cs) (hclose : ')' ∉ cs) :
    surplus cs = 0 := by
  rw [surplus, List.count_eq_zero.mpr hopen, List.count_eq_zero.mpr hclose]
  rfl

theorem surplus_intercalate {separator : String} (h : surplus separator.toList = 0)
    (parts : List String) :
    surplus (separator.intercalate parts).toList = (parts.map fun s => surplus s.toList).sum := by
  induction parts with
  | nil => rfl
  | cons part rest ih =>
      cases rest with
      | nil => simp
      | cons next rest =>
          rw [String.intercalate_cons_cons, String.toList_append, String.toList_append,
            surplus_append, surplus_append, h, ih]
          simp

end Text

theorem Screen.isBalanced_iff {s : String} : isBalanced s = true ↔ surplus s.toList = 0 := by
  rw [isBalanced, surplus, beq_iff_eq]
  omega

/-! ## The pieces of a statement -/

variable {ν : Type} [Entry ν]

theorem Clause.surplus_text (c : Clause ν) (h : surplus c.separator.toList = 0) :
    surplus c.text.toList =
      surplus c.keyword.toList + (c.items.map fun item => surplus item.text.toList).sum := by
  have hlines : surplus ",\n  ".toList = 0 := by decide
  have hitems (separator : String) (hs : surplus separator.toList = 0) :
      surplus (separator.intercalate (c.items.map Item.text)).toList =
        (c.items.map fun item => surplus item.text.toList).sum := by
    rw [surplus_intercalate hs, List.map_map]
    rfl
  rw [Clause.text]
  split
  · rw [String.toList_append, String.toList_append, surplus_append, surplus_append,
      hitems _ hlines, show surplus "\n  ".toList = 0 by decide, add_zero]
  · rw [String.toList_append, String.toList_append, surplus_append, surplus_append,
      hitems _ h, show surplus " ".toList = 0 by decide, add_zero]

theorem Statement.surplus_text (s : Statement ν) :
    surplus s.text.toList = (s.clauses.map fun c => surplus c.text.toList).sum := by
  rw [Statement.text, surplus_intercalate (by decide), List.map_map]
  rfl

/-! ## Value parts -/

/-- The value part of an item of `WHERE`, or nothing. -/
def Predicate.operandText (p : Predicate) : String := (p.operand.map Operand.text).getD ""

/-- What an item of `WHERE` has besides its value part. -/
theorem Predicate.SameButValue.surplus_text {p q : Predicate} (h : p.SameButValue q) :
    surplus p.text.toList + surplus q.operandText.toList =
      surplus q.text.toList + surplus p.operandText.toList := by
  have hblank : surplus " ".toList = 0 := by decide
  have hpart (r : Predicate) : surplus r.text.toList =
      surplus ({ r with operand := none } : Predicate).text.toList +
        surplus r.operandText.toList := by
    unfold Predicate.text Predicate.operandText
    rw [String.toList_append, surplus_append, String.append_empty]
    cases r.operand with
    | none => rfl
    | some v =>
        have hvalue : surplus (" " ++ v.text).toList = surplus v.text.toList := by
          rw [String.toList_append, surplus_append, hblank, zero_add]
        exact congrArg (_ + ·) hvalue
  have hbare : ({ p with operand := none } : Predicate) = { q with operand := none } := by
    rw [h.connector, h.column, h.operator]
  rw [hpart p, hpart q, hbare]
  omega

theorem surplus_placeholder (n : ℕ) : surplus (placeholder n).toList = 0 := by
  have hmark (c : Char) (hc : c.isDigit = false) : c ∉ (toString n).toList := by
    intro hmem
    rw [Text.isDigit_of_mem_toString hmem] at hc
    exact absurd hc (by decide)
  have hfront : surplus ":p".toList = 0 := by decide
  have hsplit : (placeholder n).toList = ":p".toList ++ (toString n).toList := by
    simp [placeholder, parameterName]
  rw [hsplit, surplus_append, hfront, surplus_eq_zero (hmark _ (by decide)) (hmark _ (by decide))]
  rfl

theorem surplus_bound (shape : Shape) (first count : ℕ) :
    surplus (Operand.bound shape first count).text.toList = 0 := by
  have hnone : ((placeholders first count).map fun s => surplus s.toList).sum = 0 := by
    refine List.sum_eq_zero fun x hx => ?_
    obtain ⟨s, hs, rfl⟩ := List.mem_map.mp hx
    obtain ⟨n, -, rfl⟩ := List.mem_map.mp hs
    exact surplus_placeholder n
  cases shape with
  | list =>
      rw [Operand.text, String.toList_append, String.toList_append, surplus_append,
        surplus_append, surplus_intercalate (by decide), hnone]
      decide
  | range => rw [Operand.text, surplus_intercalate (by decide), hnone]
  | single => exact surplus_placeholder first

namespace Condition

/-- The value that a condition hands over, as the preview writes it. -/
def handed (x : Condition ν) : List Char :=
  if x.isBound then (Literal.format x.operator.term? (chars x.value)).getD [] else []

theorem surplus_operand? (x : Condition ν) (start start' : ℕ) :
    surplus (((x.operand? .preview start).map Operand.text).getD "").toList =
      surplus (((x.operand? .bound start').map Operand.text).getD "").toList +
        surplus x.handed := by
  cases h : x.isBound with
  | false => simp [operand?_of_not_isBound h start' start, handed, h]
  | true =>
      have hbound : surplus (((x.operand? .bound start').map Operand.text).getD "").toList = 0 := by
        cases hop : x.operator with
        | verbatim s => simp [isBound, hop] at h
        | term op =>
            rw [operand?_of_isBound h hop]
            split
            · rfl
            · exact surplus_bound ..
      rw [hbound, zero_add, handed, if_pos h, operand?, if_pos (isInline_preview x)]
      cases Literal.format x.operator.term? (chars x.value) with
      | none => rfl
      | some cs => simp [Operand.text]

end Condition

namespace Configuration

/-- The values that are handed over, as the preview writes them, one behind the other. -/
def handed (c : Configuration ν) : String :=
  String.ofList (c.activeConditions.flatMap Condition.handed)

variable (c : Configuration ν)

/-- The surplus of some items of `WHERE`. -/
def surplusOf (ps : List Predicate) : ℤ := (ps.map fun p => surplus p.text.toList).sum

theorem surplusOf_predicates (isFirst : Bool) (start start' : ℕ) (xs : List (Condition ν)) :
    surplusOf (c.predicates .preview isFirst start xs) =
      surplusOf (c.predicates .bound isFirst start' xs) +
        surplus (xs.flatMap Condition.handed) := by
  induction xs generalizing isFirst start start' with
  | nil => rfl
  | cons x xs ih =>
      have hitem := (show Predicate.SameButValue (c.predicate .preview isFirst start x)
        (c.predicate .bound isFirst start' x) from
          ⟨rfl, rfl, rfl, x.isSome_operand? start start'⟩).surplus_text
      have hvalue := x.surplus_operand? start start'
      have hrest := ih false (start + (x.bindings .preview).length)
        (start' + (x.bindings .bound).length)
      simp only [surplusOf, Predicate.operandText, predicate] at hitem hrest
      simp only [surplusOf, predicates, predicate, List.map_cons, List.sum_cons, List.flatMap_cons,
        surplus_append]
      omega

theorem sum_surplus_whereClauses (mode : Mode) :
    ((c.whereClauses mode).map fun clause => surplus clause.text.toList).sum =
      surplusOf (c.whereItems mode) := by
  rw [whereClauses, clauseOf, List.isEmpty_map]
  cases hitems : c.whereItems mode with
  | nil => rfl
  | cons p ps =>
      have hclause := Clause.surplus_text
        (⟨.where, "WHERE", (p :: ps).map .predicate, " ", false⟩ : Clause ν)
        (show surplus " ".toList = 0 by decide)
      rw [show surplus "WHERE".toList = 0 by decide, zero_add, List.map_map] at hclause
      rw [List.isEmpty_cons, if_neg (by decide), List.map_singleton, List.sum_singleton]
      exact hclause

/-- The preview opens and closes what the bound statement does, and the values besides. -/
theorem surplus_statement :
    surplus (c.statement .preview).text.toList =
      surplus (c.statement .bound).text.toList + surplus c.handed.toList := by
  obtain ⟨front, back, hclauses⟩ := c.clauses_eq
  have hwhere := c.surplusOf_predicates true 1 1 c.activeConditions
  have htext (mode : Mode) : surplus (c.statement mode).text.toList =
      (front.map fun clause => surplus clause.text.toList).sum +
        surplusOf (c.whereItems mode) +
          (back.map fun clause => surplus clause.text.toList).sum := by
    rw [Statement.surplus_text, statement, hclauses, List.map_append, List.map_append,
      List.sum_append, List.sum_append, sum_surplus_whereClauses]
  rw [htext, htext, whereItems, whereItems, hwhere, handed, String.toList_ofList]
  omega

/-- With a balanced preview, the bound statement is balanced as far as the values are. -/
theorem isBalanced_bound (h : Screen.isBalanced (c.statement .preview).text = true) :
    Screen.isBalanced (c.statement .bound).text = true ↔ Screen.isBalanced c.handed = true := by
  rw [Screen.isBalanced_iff] at h ⊢
  rw [Screen.isBalanced_iff]
  have hsum := c.surplus_statement
  omega

end Configuration
end SelectQuery
