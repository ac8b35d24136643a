import SelectQuery.Number.Shortest
import SelectQuery.Proofs.Number.Nearest

/-!
# Shortest decimals read back

The decimal that `Binary64.shortest` finds is read as the number it was made from
(`nearest_shortest`): it was either tried and found to be, or is the number itself digit
for digit. Moving trailing zeros into the exponent does not change its value.
-/

namespace SelectQuery

namespace Decimal

/-- The rational that a decimal stands for. -/
def value (d : Decimal) : ℚ := d.digits * 10 ^ d.exponent

theorem value_nonneg (d : Decimal) : 0 ≤ d.value := by
  unfold value
  positivity

theorem ofDecimal_eq_nearest_value (negative : Bool) (d : Decimal) :
    Binary64.ofDecimal negative d.digits d.exponent = Binary64.nearest negative d.value :=
  Binary64.ofDecimal_eq_nearest negative d.digits d.exponent

/-- Stripping zeros keeps the value. -/
theorem value_strip (fuel : ℕ) (d : Decimal) : (d.strip fuel).value = d.value := by
  fun_induction strip fuel d with
  | case1 d => rfl
  | case2 d fuel hzero ih =>
      have hten : d.digits = 10 * (d.digits / 10) := by omega
      have hcast : (d.digits : ℚ) = 10 * ((d.digits / 10 : ℕ) : ℚ) := by exact_mod_cast hten
      rw [ih]
      unfold value
      dsimp only
      rw [hcast, zpow_add_one₀ (by norm_num)]
      ring
  | case3 d fuel _ => rfl

end Decimal

namespace Binary64

open Decimal

theorem value_exactDecimal (mantissa : ℕ) (exponent : ℤ) :
    (exactDecimal mantissa exponent).value = mantissa * 2 ^ exponent := by
  unfold exactDecimal value
  split
  · next h =>
      lift exponent to ℕ using h
      simp
  · next h =>
      obtain ⟨k, rfl⟩ : ∃ k : ℕ, exponent = -(k : ℤ) := ⟨(-exponent).toNat, by omega⟩
      have hten : (10 : ℚ) ^ k = 5 ^ k * 2 ^ k := by rw [← mul_pow]; norm_num
      simp only [neg_neg, Int.toNat_natCast, Nat.pow_eq, Nat.cast_mul, Nat.cast_pow, zpow_neg,
        zpow_natCast, hten, Nat.cast_ofNat]
      field_simp

theorem digits_pos_of_nearest {d : Decimal} {mantissa : ℕ} {exponent : ℤ}
    {form : IsBinary64Form mantissa exponent} (hm : mantissa ≠ 0)
    (h : nearest false d.value = .finite false mantissa exponent form) : 0 < d.digits := by
  refine Nat.pos_of_ne_zero fun h0 => ?_
  rw [value, h0, Nat.cast_zero, zero_mul, nearest_zero, zero, Binary64.finite.injEq] at h
  exact hm h.2.1.symm

/-- The shortest decimal of a number is read as that number. -/
theorem nearest_shortest (negative : Bool) {mantissa : ℕ} {exponent : ℤ}
    (form : IsBinary64Form mantissa exponent) :
    nearest negative (shortest mantissa exponent).value =
      .finite negative mantissa exponent form := by
  have htarget : ofParts false mantissa exponent = .finite false mantissa exponent form := by
    rw [ofParts, dif_pos form]
  refine nearest_sign (value_nonneg _) ?_ negative
  unfold shortest
  dsimp only
  rw [value_strip]
  cases hfound : List.find? _ _ with
  | none => rw [Option.getD_none, value_exactDecimal, nearest_exact false form]
  | some d =>
      have hread := List.find?_some hfound
      rw [beq_iff_eq, htarget, ofDecimal_eq_nearest_value] at hread
      rwa [Option.getD_some]

end Binary64
end SelectQuery
