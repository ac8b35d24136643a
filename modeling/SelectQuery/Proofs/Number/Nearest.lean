import Mathlib.Algebra.Order.Field.Power
import Mathlib.Data.Int.Log
import Mathlib.Data.Rat.Floor
import Mathlib.Tactic.Linarith
import Mathlib.Tactic.Positivity
import Mathlib.Tactic.Ring
import SelectQuery.Number.Binary64

/-!
# The number nearest to a ratio

`Binary64.ofRatio` and `Binary64.ofDecimal` compute on numerators and denominators, and the
second one cuts very large and very small powers short. Here both are shown to depend on
the rational number alone:

* `exponentOf_eq`: the exponent is the binary logarithm of the ratio less 52, or the least
  exponent;
* `ofRatio_eq_nearest`, `ofDecimal_eq_nearest`: both are `nearest` of the rational they name;
* `nearest_exact`: a number of the format is nearest to itself.
-/

namespace SelectQuery.Binary64

/-- The number nearest to a rational that is not negative. -/
def nearest (negative : Bool) (q : ℚ) : Binary64 := ofRatio negative q.num.natAbs q.den

/-! ## Scaling -/

theorem scaled_snd_pos {den : ℕ} (hden : 0 < den) (num : ℕ) (e : ℤ) :
    0 < (scaled num den e).2 := by
  unfold scaled
  split
  · exact Nat.mul_pos hden (Nat.pow_pos (by decide))
  · exact hden

/-- Scaling divides the ratio by a power of two. -/
theorem scaled_ratio (num den : ℕ) (e : ℤ) :
    ((scaled num den e).1 : ℚ) / (scaled num den e).2 = (num : ℚ) / den / 2 ^ e := by
  unfold scaled
  split
  · next h =>
      lift e to ℕ using h
      simp [div_div]
  · next h =>
      obtain ⟨k, rfl⟩ : ∃ k : ℕ, e = -(k : ℤ) := ⟨(-e).toNat, by omega⟩
      simp [mul_div_right_comm]

theorem scaled_fst_lt_iff {den : ℕ} (hden : 0 < den) (num k : ℕ) (e : ℤ) :
    (scaled num den e).1 < k * (scaled num den e).2 ↔ (num : ℚ) / den < k * 2 ^ e := by
  have hpos : (0 : ℚ) < (scaled num den e).2 := by exact_mod_cast scaled_snd_pos hden num e
  have hscale : (0 : ℚ) < 2 ^ e := by positivity
  rw [← div_lt_iff₀ hscale, ← scaled_ratio, div_lt_iff₀ hpos]
  exact_mod_cast Iff.rfl

/-- Equal ratios stay equal when they are scaled. -/
theorem scaled_cross {num den num' den' : ℕ} (h : num * den' = num' * den) (e : ℤ) :
    (scaled num den e).1 * (scaled num' den' e).2 =
      (scaled num' den' e).1 * (scaled num den e).2 := by
  unfold scaled
  split
  · simp only [← Nat.mul_assoc, h]
  · simp only [Nat.mul_right_comm _ _ den', Nat.mul_right_comm _ _ den, h]

/-! ## The exponent -/

theorem two_pow_log2_le {n : ℕ} (hn : 0 < n) : (2 : ℚ) ^ (n.log2 : ℤ) ≤ n := by
  exact_mod_cast Nat.log2_self_le hn.ne'

theorem lt_two_pow_log2 (n : ℕ) : (n : ℚ) < 2 ^ ((n.log2 : ℤ) + 1) := by
  exact_mod_cast Nat.lt_log2_self

/-- The leading bit of a ratio is where the leading bits of its terms put it, or one below. -/
theorem log_ratio {num den : ℕ} (hnum : 0 < num) (hden : 0 < den) :
    (num.log2 : ℤ) - den.log2 - 1 ≤ Int.log 2 ((num : ℚ) / den) ∧
      Int.log 2 ((num : ℚ) / den) < (num.log2 : ℤ) - den.log2 + 1 := by
  have hq : (0 : ℚ) < (num : ℚ) / den := by positivity
  have hdenLow := two_pow_log2_le hden
  have hdenHigh := lt_two_pow_log2 den
  constructor
  · rw [← Int.zpow_le_iff_le_log (by decide) hq, le_div_iff₀ (by positivity)]
    calc ((2 : ℕ) : ℚ) ^ ((num.log2 : ℤ) - den.log2 - 1) * den
        ≤ 2 ^ ((num.log2 : ℤ) - den.log2 - 1) * 2 ^ ((den.log2 : ℤ) + 1) := by
          push_cast
          gcongr
      _ = 2 ^ (num.log2 : ℤ) := by
          rw [← zpow_add₀ (by norm_num)]
          congr 1
          ring
      _ ≤ num := two_pow_log2_le hnum
  · rw [← Int.lt_zpow_iff_log_lt (by decide) hq, div_lt_iff₀ (by positivity)]
    calc (num : ℚ) < 2 ^ ((num.log2 : ℤ) + 1) := lt_two_pow_log2 num
      _ = 2 ^ ((num.log2 : ℤ) - den.log2 + 1) * 2 ^ (den.log2 : ℤ) := by
          rw [← zpow_add₀ (by norm_num)]
          congr 1
          ring
      _ ≤ ((2 : ℕ) : ℚ) ^ ((num.log2 : ℤ) - den.log2 + 1) * den := by
          push_cast
          gcongr

/-- The exponent of a ratio is that of its leading bit, 52 places up, but not below the
least one. -/
theorem exponentOf_eq {num den : ℕ} (hnum : 0 < num) (hden : 0 < den) :
    exponentOf num den = max (-1074) (Int.log 2 ((num : ℚ) / den) - 52) := by
  have hq : (0 : ℚ) < (num : ℚ) / den := by positivity
  obtain ⟨hlow, hhigh⟩ := log_ratio hnum hden
  have hguess : ((2 ^ 52 : ℕ) : ℚ) * 2 ^ ((num.log2 : ℤ) - den.log2 - 52) =
      ((2 : ℕ) : ℚ) ^ ((num.log2 : ℤ) - den.log2) := by
    rw [Nat.cast_pow, ← zpow_natCast, Nat.cast_two, ← zpow_add₀ (by norm_num)]
    congr 1
    push_cast
    ring
  -- the quotient is too short by a bit exactly if the leading bit is the lower of the two
  have hbelow : (scaled num den ((num.log2 : ℤ) - den.log2 - 52)).1 /
      (scaled num den ((num.log2 : ℤ) - den.log2 - 52)).2 < 2 ^ 52 ↔
        Int.log 2 ((num : ℚ) / den) < (num.log2 : ℤ) - den.log2 := by
    rw [Nat.div_lt_iff_lt_mul (scaled_snd_pos hden _ _), scaled_fst_lt_iff hden, hguess,
      Int.lt_zpow_iff_log_lt (by decide) hq]
  simp only [exponentOf, Nat.pow_eq, hbelow]
  split <;> omega

/-! ## Rounding -/

theorem roundHalfEven_mul (num den : ℕ) {k : ℕ} (hk : 0 < k) :
    roundHalfEven (num * k) (den * k) = roundHalfEven num den := by
  unfold roundHalfEven
  rw [Nat.mul_div_mul_right _ _ hk, Nat.mul_mod_mul_right]
  simp only [← Nat.mul_assoc, Nat.mul_lt_mul_right hk]

theorem roundHalfEven_congr {num den num' den' : ℕ} (hden : 0 < den) (hden' : 0 < den')
    (h : num * den' = num' * den) : roundHalfEven num den = roundHalfEven num' den' := by
  rw [← roundHalfEven_mul num den hden', ← roundHalfEven_mul num' den' hden, h,
    Nat.mul_comm den den']

/-- Nothing is rounded in a ratio that is a whole number. -/
theorem roundHalfEven_whole (m : ℕ) {den : ℕ} (hden : 0 < den) :
    roundHalfEven (m * den) den = m := by
  simp [roundHalfEven, Nat.mul_div_cancel _ hden, hden]

/-- A ratio of less than one half is rounded to nothing. -/
theorem roundHalfEven_small {num den : ℕ} (h : 2 * num < den) : roundHalfEven num den = 0 := by
  have hlt : num < den := by omega
  simp [roundHalfEven, Nat.div_eq_of_lt hlt, Nat.mod_eq_of_lt hlt, h]

/-- Equal ratios have the same nearest number. -/
theorem ofRatio_congr (negative : Bool) {num den num' den' : ℕ} (hden : 0 < den)
    (hden' : 0 < den') (h : num * den' = num' * den) :
    ofRatio negative num den = ofRatio negative num' den' := by
  by_cases hnum : num = 0
  · have hnum' : num' = 0 := by
      subst hnum
      simpa [hden.ne'] using h.symm
    simp [ofRatio, hnum, hnum']
  · have hnum' : num' ≠ 0 := by
      rintro rfl
      simp [hnum, hden'.ne'] at h
    have hratio : (num : ℚ) / den = (num' : ℚ) / den' := by
      rw [div_eq_div_iff (by positivity) (by positivity)]
      exact_mod_cast h
    have hexp : exponentOf num den = exponentOf num' den' := by
      rw [exponentOf_eq (Nat.pos_of_ne_zero hnum) hden,
        exponentOf_eq (Nat.pos_of_ne_zero hnum') hden', hratio]
    have hround := roundHalfEven_congr (scaled_snd_pos hden num (exponentOf num' den'))
      (scaled_snd_pos hden' num' (exponentOf num' den')) (scaled_cross h _)
    simp only [ofRatio, if_neg hnum, if_neg hnum', hexp, hround]

theorem ofRatio_eq_nearest (negative : Bool) (num : ℕ) {den : ℕ} (hden : 0 < den) :
    ofRatio negative num den = nearest negative ((num : ℚ) / den) := by
  refine ofRatio_congr negative hden (Rat.den_pos _) ?_
  have hnonneg : 0 ≤ ((num : ℚ) / den).num := Rat.num_nonneg.mpr (by positivity)
  have hcross : ((num : ℚ) / den).num * (den : ℚ) = num * ((num : ℚ) / den).den := by
    have hself := Rat.num_div_den ((num : ℚ) / den)
    rwa [div_eq_div_iff (by exact_mod_cast (Rat.den_pos _).ne') (by positivity)] at hself
  have hcast : (((num : ℚ) / den).num.natAbs : ℚ) = ((num : ℚ) / den).num := by
    rw [← Int.cast_natCast, Int.natAbs_of_nonneg hnonneg]
  rw [← hcast] at hcross
  exact_mod_cast hcross.symm

/-! ## The nearest number of a positive rational -/

/-- What a rational is rounded to at an exponent. -/
def mantissaAt (q : ℚ) (exponent : ℤ) : ℕ :=
  roundHalfEven (scaled q.num.natAbs q.den exponent).1 (scaled q.num.natAbs q.den exponent).2

/-- The exponent that a positive rational is rounded at. -/
def exponentFor (q : ℚ) : ℤ := max (-1074) (Int.log 2 q - 52)

theorem natAbs_num_div_den {q : ℚ} (hq : 0 ≤ q) : (q.num.natAbs : ℚ) / q.den = q := by
  rw [← Int.cast_natCast, Int.natAbs_of_nonneg (Rat.num_nonneg.mpr hq), Rat.num_div_den]

theorem nearest_zero (negative : Bool) : nearest negative 0 = zero negative := by
  simp [nearest, ofRatio]

theorem nearest_of_pos (negative : Bool) {q : ℚ} (hq : 0 < q) :
    nearest negative q =
      if mantissaAt q (exponentFor q) = 2 ^ 53 then
        ofParts negative (2 ^ 52) (exponentFor q + 1)
      else ofParts negative (mantissaAt q (exponentFor q)) (exponentFor q) := by
  have hnum : 0 < q.num.natAbs := Int.natAbs_pos.mpr (Rat.num_pos.mpr hq).ne'
  have hexp : exponentOf q.num.natAbs q.den = exponentFor q := by
    rw [exponentOf_eq hnum (Rat.den_pos q), natAbs_num_div_den hq.le, exponentFor]
  rw [nearest, ofRatio, if_neg hnum.ne', hexp]
  rfl

/-- A whole multiple of a power of two is not rounded at its exponent. -/
theorem mantissaAt_exact (mantissa : ℕ) (exponent : ℤ) :
    mantissaAt (mantissa * 2 ^ exponent) exponent = mantissa := by
  have hq : (0 : ℚ) ≤ mantissa * 2 ^ exponent := by positivity
  unfold mantissaAt
  have hpos := scaled_snd_pos (Rat.den_pos (mantissa * 2 ^ exponent : ℚ))
    (mantissa * 2 ^ exponent : ℚ).num.natAbs exponent
  have hratio := scaled_ratio (mantissa * 2 ^ exponent : ℚ).num.natAbs
    (mantissa * 2 ^ exponent : ℚ).den exponent
  rw [natAbs_num_div_den hq, mul_div_cancel_right₀ _ (by positivity),
    div_eq_iff (by exact_mod_cast hpos.ne')] at hratio
  have hwhole : (scaled (mantissa * 2 ^ exponent : ℚ).num.natAbs
      (mantissa * 2 ^ exponent : ℚ).den exponent).1 = mantissa *
        (scaled (mantissa * 2 ^ exponent : ℚ).num.natAbs
          (mantissa * 2 ^ exponent : ℚ).den exponent).2 := by
    exact_mod_cast hratio
  rw [hwhole, roundHalfEven_whole mantissa hpos]

/-! ## The ends of the range and the numbers inside -/

/-- From `2 ^ 1024` on there is no finite number. -/
theorem nearest_of_large (negative : Bool) {q : ℚ} (h : (2 : ℕ) ^ (1024 : ℤ) ≤ q) :
    nearest negative q = .infinity negative := by
  have hpos : 0 < q := lt_of_lt_of_le (by positivity) h
  have hlog : 1024 ≤ Int.log 2 q := (Int.zpow_le_iff_le_log (by decide) hpos).mp h
  have hexp : 972 ≤ exponentFor q := by
    unfold exponentFor
    omega
  have hpast : ∀ mantissa exponent, 972 ≤ exponent →
      ofParts negative mantissa exponent = .infinity negative := by
    intro mantissa exponent hle
    have hform : ¬ IsBinary64Form mantissa exponent := by
      rintro ⟨-, -, hexponent, -⟩
      omega
    rw [ofParts, dif_neg hform]
  rw [nearest_of_pos negative hpos]
  split
  · exact hpast _ _ (by omega)
  · exact hpast _ _ hexp

/-- Less than half of the least number counts as zero. -/
theorem nearest_of_small (negative : Bool) {q : ℚ} (hq : 0 ≤ q)
    (h : q < (2 : ℕ) ^ (-1075 : ℤ)) : nearest negative q = zero negative := by
  rcases hq.eq_or_lt with rfl | hpos
  · exact nearest_zero negative
  have hlog : Int.log 2 q < -1075 := (Int.lt_zpow_iff_log_lt (by decide) hpos).mp h
  have hexp : exponentFor q = -1074 := by
    unfold exponentFor
    omega
  have hsnd : (0 : ℚ) < (scaled q.num.natAbs q.den (-1074)).2 := by
    exact_mod_cast scaled_snd_pos (Rat.den_pos q) q.num.natAbs (-1074)
  have hhalf : 2 * (scaled q.num.natAbs q.den (-1074)).1 <
      (scaled q.num.natAbs q.den (-1074)).2 := by
    have hratio := scaled_ratio q.num.natAbs q.den (-1074)
    rw [natAbs_num_div_den hq, div_eq_iff hsnd.ne'] at hratio
    have hlt : q / 2 ^ (-1074 : ℤ) < 1 / 2 := by
      rw [div_lt_iff₀ (by positivity)]
      calc q < (2 : ℕ) ^ (-1075 : ℤ) := h
        _ = 1 / 2 * 2 ^ (-1074 : ℤ) := by
          rw [Nat.cast_two, show (-1075 : ℤ) = -1 + -1074 by norm_num, zpow_add₀ (by norm_num)]
          norm_num
    have hdouble : (2 : ℚ) * (scaled q.num.natAbs q.den (-1074)).1 <
        (scaled q.num.natAbs q.den (-1074)).2 := by
      rw [hratio]
      nlinarith
    exact_mod_cast hdouble
  have hnone : mantissaAt q (-1074) = 0 := roundHalfEven_small hhalf
  rw [nearest_of_pos negative hpos, hexp, hnone]
  rfl

/-- A finite number is nearest to its own value. -/
theorem nearest_exact (negative : Bool) {mantissa : ℕ} {exponent : ℤ}
    (form : IsBinary64Form mantissa exponent) :
    nearest negative (mantissa * 2 ^ exponent) = .finite negative mantissa exponent form := by
  obtain ⟨hhigh, hleast, -, hnormal⟩ := id form
  simp only [Nat.pow_eq] at hhigh hnormal
  rcases Nat.eq_zero_or_pos mantissa with rfl | hpos
  · obtain rfl : exponent = -1074 := by simpa using hnormal
    rw [Nat.cast_zero, zero_mul, nearest_zero]
    rfl
  have hq : (0 : ℚ) < mantissa * 2 ^ exponent := by positivity
  have hlog : Int.log 2 (mantissa * 2 ^ exponent : ℚ) < 53 + exponent := by
    rw [← Int.lt_zpow_iff_log_lt (by decide) hq, Nat.cast_two, zpow_add₀ (by norm_num)]
    gcongr
    exact_mod_cast hhigh
  -- the mantissa fills its 53 digits, or the exponent is the least one
  have hexp : exponentFor (mantissa * 2 ^ exponent) = exponent := by
    unfold exponentFor
    rcases hnormal with hnormal | rfl
    · have hlow : 52 + exponent ≤ Int.log 2 (mantissa * 2 ^ exponent : ℚ) := by
        rw [← Int.zpow_le_iff_le_log (by decide) hq, Nat.cast_two, zpow_add₀ (by norm_num)]
        gcongr
        exact_mod_cast hnormal
      omega
    · omega
  rw [nearest_of_pos negative hq, hexp, mantissaAt_exact, if_neg hhigh.ne, ofParts, dif_pos form]

/-- The sign takes no part in rounding. -/
theorem nearest_sign {q : ℚ} {mantissa : ℕ} {exponent : ℤ}
    {form : IsBinary64Form mantissa exponent}
    (hq : 0 ≤ q) (h : nearest false q = .finite false mantissa exponent form) (negative : Bool) :
    nearest negative q = .finite negative mantissa exponent form := by
  -- the sign is put on at the end, and only a form decides what becomes of the parts
  have hparts : ∀ {m e}, ofParts false m e = .finite false mantissa exponent form →
      ofParts negative m e = .finite negative mantissa exponent form := by
    intro m e hm
    unfold ofParts at hm ⊢
    split at hm
    · next hform =>
        simp only [Binary64.finite.injEq, true_and] at hm
        obtain ⟨rfl, rfl⟩ := hm
        rw [dif_pos hform]
    · exact absurd hm (by simp)
  rcases hq.eq_or_lt with rfl | hpos
  · rw [nearest_zero, zero] at h ⊢
    simp only [Binary64.finite.injEq, true_and] at h ⊢
    exact h
  · rw [nearest_of_pos _ hpos] at h ⊢
    split at h
    · next hcarry => rw [if_pos hcarry, hparts h]
    · next hcarry => rw [if_neg hcarry, hparts h]

/-! ## Decimals -/

theorem two_pow_le_ten_pow (k : ℕ) : (2 : ℚ) ^ (3 * k) ≤ 10 ^ k := by
  rw [pow_mul]
  gcongr
  norm_num

/-- A decimal with a power of ten of more than 400 is past the range. -/
theorem large_decimal {digits : ℕ} (hdigits : 0 < digits) {exponent : ℤ} (h : 400 < exponent) :
    ((2 : ℕ) : ℚ) ^ (1024 : ℤ) ≤ digits * 10 ^ exponent := by
  calc ((2 : ℕ) : ℚ) ^ (1024 : ℤ) ≤ 2 ^ ((3 * 401 : ℕ) : ℤ) :=
        zpow_le_zpow_right₀ (by norm_num) (by norm_num)
    _ ≤ 10 ^ ((401 : ℕ) : ℤ) := by
        simpa only [zpow_natCast] using two_pow_le_ten_pow 401
    _ ≤ 10 ^ exponent := zpow_le_zpow_right₀ (by norm_num) (by omega)
    _ ≤ digits * 10 ^ exponent := by
        have hone : (1 : ℚ) ≤ digits := by exact_mod_cast hdigits
        exact le_mul_of_one_le_left (by positivity) hone

/-- A decimal with a power of ten that outweighs its digits by more than 400 is nothing. -/
theorem small_decimal {digits : ℕ} {exponent : ℤ} (h : exponent < -((400 + digits.log2 : ℕ) : ℤ)) :
    (digits : ℚ) * 10 ^ exponent < ((2 : ℕ) : ℚ) ^ (-1075 : ℤ) := by
  have hhigh := lt_two_pow_log2 digits
  have hten : (10 : ℚ) ^ (-((401 + digits.log2 : ℕ) : ℤ)) ≤
      2 ^ (-((3 * (401 + digits.log2) : ℕ) : ℤ)) := by
    rw [zpow_neg, zpow_neg, zpow_natCast, zpow_natCast]
    exact inv_anti₀ (by positivity) (two_pow_le_ten_pow _)
  calc (digits : ℚ) * 10 ^ exponent
      < 2 ^ ((digits.log2 : ℤ) + 1) * 10 ^ exponent := by gcongr
    _ ≤ 2 ^ ((digits.log2 : ℤ) + 1) * 10 ^ (-((401 + digits.log2 : ℕ) : ℤ)) := by
        gcongr
        · norm_num
        · omega
    _ ≤ 2 ^ ((digits.log2 : ℤ) + 1) * 2 ^ (-((3 * (401 + digits.log2) : ℕ) : ℤ)) := by
        gcongr
    _ = 2 ^ ((digits.log2 : ℤ) + 1 + -((3 * (401 + digits.log2) : ℕ) : ℤ)) :=
        (zpow_add₀ (by norm_num) _ _).symm
    _ ≤ ((2 : ℕ) : ℚ) ^ (-1075 : ℤ) := zpow_le_zpow_right₀ (by norm_num) (by omega)

/-- A decimal is read as the number nearest to it, however large or small its power of ten. -/
theorem ofDecimal_eq_nearest (negative : Bool) (digits : ℕ) (exponent : ℤ) :
    ofDecimal negative digits exponent = nearest negative (digits * 10 ^ exponent) := by
  unfold ofDecimal
  rcases Nat.eq_zero_or_pos digits with rfl | hdigits
  · simp [nearest_zero]
  rw [if_neg hdigits.ne']
  split
  · next hlarge =>
      exact (nearest_of_large negative (large_decimal hdigits (by omega))).symm
  split
  · next hsmall =>
      exact (nearest_of_small negative (by positivity) (small_decimal (by omega))).symm
  split
  · next hwhole =>
      lift exponent to ℕ using hwhole
      rw [ofRatio_eq_nearest negative _ (by decide)]
      simp
  · next hneg =>
      obtain ⟨k, rfl⟩ : ∃ k : ℕ, exponent = -(k : ℤ) := ⟨(-exponent).toNat, by omega⟩
      have hden : 0 < Nat.pow 10 (- -(k : ℤ)).toNat := Nat.pow_pos (by decide)
      rw [ofRatio_eq_nearest negative _ hden]
      simp [div_eq_mul_inv]

/-! ## Whole parts -/

theorem scaled_div_lt {mantissa k top width : ℕ} {exponent : ℤ} (hmantissa : mantissa < 2 ^ k)
    (hexponent : exponent ≤ top) (hwidth : k + top ≤ width) :
    (scaled mantissa 1 (-exponent)).1 / (scaled mantissa 1 (-exponent)).2 < 2 ^ width := by
  have hscaled : (scaled mantissa 1 (-exponent)).1 ≤ mantissa * 2 ^ exponent.toNat := by
    unfold scaled
    split
    · exact Nat.le_mul_of_pos_right mantissa (Nat.two_pow_pos _)
    · rw [neg_neg]
      exact le_rfl
  calc (scaled mantissa 1 (-exponent)).1 / (scaled mantissa 1 (-exponent)).2
      ≤ mantissa * 2 ^ exponent.toNat := (Nat.div_le_self ..).trans hscaled
    _ < 2 ^ k * 2 ^ top :=
        Nat.mul_lt_mul_of_lt_of_le hmantissa
          (Nat.pow_le_pow_right (by decide) (by omega)) (Nat.two_pow_pos _)
    _ = 2 ^ (k + top) := (Nat.pow_add 2 k top).symm
    _ ≤ 2 ^ width := Nat.pow_le_pow_right (by decide) hwidth

/-- The whole part of a finite number has no more than 1024 binary digits. -/
theorem natAbs_truncate_lt {negative : Bool} {mantissa width : ℕ} {exponent : ℤ}
    (form : IsBinary64Form mantissa exponent) (hwidth : 53 + 971 ≤ width) :
    (((finite negative mantissa exponent form).truncate?).getD 0).natAbs < 2 ^ width := by
  have hwhole := scaled_div_lt form.1 form.2.2.1 hwidth
  simp only [truncate?, Option.getD_some]
  split
  · rw [Int.natAbs_neg, Int.natAbs_natCast]
    exact hwhole
  · rw [Int.natAbs_natCast]
    exact hwhole

end SelectQuery.Binary64
