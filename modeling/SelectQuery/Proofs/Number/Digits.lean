import Mathlib.Data.List.TakeDrop
import Mathlib.Data.List.TakeWhile
import Mathlib.Tactic.IntervalCases
import Mathlib.Tactic.Ring
import SelectQuery.Number.Integer

/-!
# Runs of digits

What a run of digits stands for, and how a run is cut off in front of something that is no
digit. The digits of ASCII are the first of the scripts in the table, so a number written
by `Nat.toDigits` has its own value (`digitsValue_toDigits`).
-/

namespace SelectQuery

namespace Text

theorem digitValue?_ascii {c : Char} (h : c.isDigit = true) :
    digitValue? c = some (c.toNat - 48) := by
  have hlow : 48 ≤ c.toNat ∧ c.toNat ≤ 57 := by
    simpa [Char.isDigit, UInt32.le_iff_toNat_le] using h
  simp [digitValue?, digitZeros, hlow]

theorem isDigit_of_ascii {c : Char} (h : c.isDigit = true) : isDigit c = true := by
  rw [isDigit, digitValue?_ascii h]
  rfl

/-! ## Values -/

theorem digitsValue_cons (c : Char) (cs : List Char) :
    digitsValue (c :: cs) = (digitValue? c).getD 0 * 10 ^ cs.length + digitsValue cs := by
  unfold digitsValue
  suffices h : ∀ init, cs.foldl (fun n c => 10 * n + (digitValue? c).getD 0) init =
      init * 10 ^ cs.length + cs.foldl (fun n c => 10 * n + (digitValue? c).getD 0) 0 by
    simpa using h ((digitValue? c).getD 0)
  intro init
  induction cs generalizing init with
  | nil => simp
  | cons d ds ih =>
      rw [List.foldl_cons, List.foldl_cons, ih, ih (10 * 0 + _), List.length_cons]
      ring

theorem digitsValue_append (cs ds : List Char) :
    digitsValue (cs ++ ds) = digitsValue cs * 10 ^ ds.length + digitsValue ds := by
  induction cs with
  | nil => simp [digitsValue]
  | cons c cs ih =>
      rw [List.cons_append, digitsValue_cons, digitsValue_cons, ih, List.length_append]
      ring

theorem digitsValue_replicate_zero (k : ℕ) : digitsValue (List.replicate k '0') = 0 := by
  induction k with
  | zero => rfl
  | succ k ih =>
      rw [List.replicate_succ, digitsValue_cons, ih, digitValue?_ascii (by decide)]
      simp

theorem digitsValue_eq_ofDigitChars {cs : List Char} (h : ∀ c ∈ cs, c.isDigit = true) :
    digitsValue cs = Nat.ofDigitChars 10 cs 0 := by
  induction cs with
  | nil => rfl
  | cons c cs ih =>
      rw [digitsValue_cons, ih fun d hd => h d (List.mem_cons_of_mem c hd),
        digitValue?_ascii (h c (List.mem_cons_self ..)), Nat.ofDigitChars_cons,
        @Nat.ofDigitChars_eq_ofDigitChars_zero cs (10 * 0 + _)]
      simp [Nat.mul_comm]

/-- The digits of a number have its value. -/
theorem digitsValue_toDigits (n : ℕ) : digitsValue (Nat.toDigits 10 n) = n := by
  rw [digitsValue_eq_ofDigitChars fun c hc =>
    Nat.isDigit_of_mem_toDigits (by decide) (by decide) hc]
  exact Nat.ofDigitChars_ten_toDigits

theorem digitValue?_lt {c : Char} {v : ℕ} (h : digitValue? c = some v) : v < 10 := by
  rw [digitValue?, Option.map_eq_some_iff] at h
  obtain ⟨z, hfound, rfl⟩ := h
  have hz := List.find?_some hfound
  simp only [Bool.and_eq_true, decide_eq_true_eq] at hz
  omega

theorem digitsValue_lt (cs : List Char) : digitsValue cs < 10 ^ cs.length := by
  induction cs with
  | nil => simp [digitsValue]
  | cons c cs ih =>
      have hdigit : (digitValue? c).getD 0 ≤ 9 := by
        cases hc : digitValue? c with
        | none => exact Nat.zero_le _
        | some v => exact Nat.le_of_lt_succ (digitValue?_lt hc)
      calc digitsValue (c :: cs)
          = (digitValue? c).getD 0 * 10 ^ cs.length + digitsValue cs := digitsValue_cons c cs
        _ < 9 * 10 ^ cs.length + 10 ^ cs.length :=
            Nat.add_lt_add_of_le_of_lt (Nat.mul_le_mul_right _ hdigit) ih
        _ = 10 ^ (c :: cs).length := by
            rw [List.length_cons]
            ring

/-! ## The digits of a number -/

theorem isDigit_of_mem_decimal {n : ℕ} {c : Char} (h : c ∈ Nat.toDigits 10 n) :
    c.isDigit = true :=
  Nat.isDigit_of_mem_toDigits (by decide) (by decide) h

theorem toList_toString (n : ℕ) : (toString n).toList = Nat.toDigits 10 n := by
  rw [Nat.toString_eq_ofList_toDigits, String.toList_ofList]

theorem isDigit_of_mem_toString {n : ℕ} {c : Char} (h : c ∈ (toString n).toList) :
    c.isDigit = true := isDigit_of_mem_decimal (toList_toString n ▸ h)

/-- A number other than zero is not written with a zero in front. -/
theorem head?_toDigits {n : ℕ} (h : 0 < n) : (Nat.toDigits 10 n).head? ≠ some '0' := by
  induction n using Nat.strong_induction_on with
  | _ n ih =>
      by_cases hn : n < 10
      · rw [Nat.toDigits_of_lt_base hn]
        intro hzero
        interval_cases n <;> simp [Nat.digitChar] at hzero
      · have hfront := ih (n / 10) (by omega) (by omega)
        rw [Nat.toDigits_of_base_le (by decide) (by omega), List.head?_append]
        cases hd : Nat.toDigits 10 (n / 10) with
        | nil => exact absurd hd Nat.toDigits_ne_nil
        | cons d ds => simpa [hd] using hfront

/-! ## Cutting off a run -/

variable {p : Char → Bool} {run rest : List Char}

/-- What starts with something else does not lengthen the run in front of it. -/
theorem takeWhile_append_of_head (cs : List Char) (hrest : ∀ c ∈ rest.head?, p c = false) :
    (cs ++ rest).takeWhile p = cs.takeWhile p := by
  induction cs with
  | nil =>
      cases rest with
      | nil => rfl
      | cons c rest => exact List.takeWhile_cons_of_neg (by simp [hrest c rfl])
  | cons c cs ih =>
      rw [List.cons_append, List.takeWhile_cons, List.takeWhile_cons, ih]

theorem dropWhile_append_of_head (cs : List Char) (hrest : ∀ c ∈ rest.head?, p c = false) :
    (cs ++ rest).dropWhile p = cs.dropWhile p ++ rest := by
  induction cs with
  | nil =>
      cases rest with
      | nil => rfl
      | cons c rest => exact List.dropWhile_cons_of_neg (by simp [hrest c rfl])
  | cons c cs ih =>
      rw [List.cons_append, List.dropWhile_cons, List.dropWhile_cons, ih]
      split <;> rfl

theorem takeWhile_run (hrun : ∀ c ∈ run, p c = true) (hrest : ∀ c ∈ rest.head?, p c = false) :
    (run ++ rest).takeWhile p = run := by
  rw [takeWhile_append_of_head run hrest, List.takeWhile_eq_self_iff.mpr hrun]

theorem dropWhile_run (hrun : ∀ c ∈ run, p c = true) (hrest : ∀ c ∈ rest.head?, p c = false) :
    (run ++ rest).dropWhile p = rest := by
  rw [dropWhile_append_of_head run hrest, List.dropWhile_eq_nil_iff.mpr hrun, List.nil_append]

end Text

open Text

/-- What is read as an integer has no more digits than may be read. -/
theorem Integer.natAbs_lt {s : String} {n : ℤ} (h : Integer.read? s = .ok n) :
    n.natAbs < 10 ^ digitLimit := by
  simp only [Integer.read?] at h
  split at h
  · simp at h
  split at h
  · simp at h
  split at h
  · simp at h
  next hlength _ =>
      obtain rfl := Except.ok.inj h
      rw [not_lt] at hlength
      generalize List.filter isDigit _ = digits at hlength ⊢
      have hbound : digitsValue digits < 10 ^ digitLimit :=
        (digitsValue_lt digits).trans_le (Nat.pow_le_pow_right (by decide) hlength)
      split
      · simpa using hbound
      · simpa using hbound

end SelectQuery
