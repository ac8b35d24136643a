import SelectQuery.Proofs.Number.Digits
import SelectQuery.Proofs.Number.Shortest
import SelectQuery.Value.Reader
import SelectQuery.Value.Writer

/-!
# Numbers in documents

A number in a document is a numeral: digits, a fraction and an exponent, of which the last
two may be missing. `readUnsigned_numeral` says what a numeral is read as, and
`write_numeral` that every decimal is written as a numeral of the same value. Together
with the shortest decimals being read back, this gives

* `readScalar_int`: an integer of no more than `digitLimit` digits is read as itself;
* `readScalar_float`: a floating point number is read as itself, infinities and NaN included.
-/

namespace SelectQuery.Json

open Text (digitsValue)

/-- What may follow a value inside a document: a comma, a closing bracket, or nothing. -/
def AtBoundary (rest : List Char) : Prop := ∀ c ∈ rest.head?, c = ',' ∨ c = ']' ∨ c = '\x7d'

theorem AtBoundary.isDigit {rest : List Char} (h : AtBoundary rest) :
    ∀ c ∈ rest.head?, isDigit c = false := by
  intro c hc
  rcases h c hc with rfl | rfl | rfl <;> decide

/-! ## Numerals -/

/-- The whole part of a numeral is a zero, or digits that do not start with one. -/
structure IsWhole (whole : List Char) : Prop where
  ne_nil : whole ≠ []
  digits : ∀ c ∈ whole, isDigit c = true
  zero : whole.head? = some '0' → whole = ['0']

/-- The fraction of a numeral as it is written. -/
def point : List Char → List Char
  | [] => []
  | digits => '.' :: digits

/-- The exponent of a numeral as it is written. -/
def power : Option (Bool × List Char) → List Char
  | some (negative, digits) => 'e' :: (if negative then '-' else '+') :: digits
  | none => []

/-- The digits of an exponent, if there is one. -/
def IsPower (exponent : Option (Bool × List Char)) : Prop :=
  ∀ x ∈ exponent, x.2 ≠ [] ∧ ∀ c ∈ x.2, isDigit c = true

theorem IsPower.some (negative : Bool) {digits : List Char} (hne : digits ≠ [])
    (hdigits : ∀ c ∈ digits, isDigit c = true) : IsPower (some (negative, digits)) := by
  intro x hx
  rw [Option.mem_some_iff] at hx
  subst hx
  exact ⟨hne, hdigits⟩

/-- The value of an exponent. -/
def powerValue : Option (Bool × List Char) → Option ℤ
  | some (negative, digits) =>
    some (if negative then -(digitsValue digits : ℤ) else digitsValue digits)
  | none => none

variable {whole fraction rest : List Char} {exponent : Option (Bool × List Char)}

theorem isDigit_head_point (hrest : ∀ c ∈ rest.head?, isDigit c = false) :
    ∀ c ∈ (point fraction ++ rest).head?, isDigit c = false := by
  intro c hc
  cases fraction with
  | nil => exact hrest c hc
  | cons d ds =>
      obtain rfl : '.' = c := by simpa [point] using hc
      decide

theorem isDigit_head_power (hrest : AtBoundary rest) :
    ∀ c ∈ (power exponent ++ rest).head?, isDigit c = false := by
  intro c hc
  cases exponent with
  | none => exact hrest.isDigit c hc
  | some x =>
      obtain rfl : 'e' = c := by simpa [power] using hc
      decide

theorem head?_power_ne_point (hrest : AtBoundary rest) :
    (power exponent ++ rest).head? ≠ some '.' := by
  intro h
  cases exponent with
  | none =>
      have := hrest '.' (by simpa [power] using h)
      simp at this
  | some x => simp [power] at h

theorem wholePart_append (hwhole : IsWhole whole) (hrest : ∀ c ∈ rest.head?, isDigit c = false) :
    wholePart (whole ++ rest) = (whole, rest) := by
  cases whole with
  | nil => exact absurd rfl hwhole.ne_nil
  | cons c cs =>
      by_cases hc : c = '0'
      · subst hc
        obtain rfl : cs = [] := by simpa using hwhole.zero rfl
        rfl
      · have htake := Text.takeWhile_run hwhole.digits hrest
        have hdrop := Text.dropWhile_run hwhole.digits hrest
        rw [List.cons_append] at htake hdrop ⊢
        simp [wholePart, hc, htake, hdrop]

theorem fractionPart_point (hdigits : ∀ c ∈ fraction, isDigit c = true)
    (hrest : ∀ c ∈ rest.head?, isDigit c = false) (hpoint : rest.head? ≠ some '.') :
    fractionPart (point fraction ++ rest) = (fraction, rest) := by
  cases fraction with
  | nil =>
      cases rest with
      | nil => rfl
      | cons c cs =>
          have hc : c ≠ '.' := by simpa using hpoint
          simp [point, fractionPart, hc]
  | cons c cs =>
      have htake := Text.takeWhile_run hdigits hrest
      have hdrop := Text.dropWhile_run hdigits hrest
      change fractionPart ('.' :: (c :: cs ++ rest)) = _
      simp only [fractionPart, htake, hdrop]
      rfl

theorem exponentPart_power (hexponent : IsPower exponent) (hrest : AtBoundary rest) :
    exponentPart (power exponent ++ rest) = (powerValue exponent, rest) := by
  cases exponent with
  | none =>
      cases rest with
      | nil => rfl
      | cons c cs =>
          have hc : c ≠ 'e' ∧ c ≠ 'E' := by
            rcases hrest c rfl with rfl | rfl | rfl <;> decide
          simp [power, powerValue, exponentPart, hc]
  | some x =>
      obtain ⟨negative, digits⟩ := x
      obtain ⟨hne, hdigits⟩ := hexponent (negative, digits) rfl
      have htake := Text.takeWhile_run hdigits hrest.isDigit
      have hdrop := Text.dropWhile_run hdigits hrest.isDigit
      cases negative <;>
        simp [power, powerValue, exponentPart, Integer.splitSign, htake, hdrop, hne]

/-- A number as it is written in a document, without its sign. -/
structure Numeral where
  whole : List Char
  fraction : List Char := []
  exponent : Option (Bool × List Char) := none
  isWhole : IsWhole whole
  isDigit_fraction : ∀ c ∈ fraction, isDigit c = true
  isPower : IsPower exponent

namespace Numeral

/-- The characters of a numeral. -/
def chars (n : Numeral) : List Char := n.whole ++ (point n.fraction ++ power n.exponent)

/-- A numeral with a fraction or an exponent. -/
def IsFloat (n : Numeral) : Prop := n.fraction ≠ [] ∨ n.exponent ≠ none

/-- The power of ten that the digits of a numeral are multiplied with. -/
def scale (n : Numeral) : ℤ := (powerValue n.exponent).getD 0 - n.fraction.length

/-- The rational that a numeral stands for. -/
def value (n : Numeral) : ℚ := digitsValue (n.whole ++ n.fraction) * 10 ^ n.scale

/-- A numeral with a fraction or an exponent is read as the number nearest to it. -/
theorem readUnsigned_float (n : Numeral) (hfloat : n.IsFloat) (negative : Bool) (start : ℕ)
    (hrest : AtBoundary rest) :
    readUnsigned negative start (n.chars ++ rest) =
      .ok (.float (.nearest negative n.value), rest) := by
  have hkind : (n.fraction.isEmpty && (powerValue n.exponent).isNone) = false := by
    rcases hfloat with h | h
    · simp [h]
    · obtain ⟨x, hx⟩ := Option.ne_none_iff_exists'.mp h
      simp [hx, powerValue]
  have hpower : ∀ c ∈ (power n.exponent ++ rest).head?, isDigit c = false :=
    isDigit_head_power hrest
  simp only [readUnsigned, chars, List.append_assoc,
    wholePart_append n.isWhole (isDigit_head_point hpower),
    fractionPart_point n.isDigit_fraction hpower (head?_power_ne_point hrest),
    exponentPart_power n.isPower hrest, hkind, Binary64.ofDecimal_eq_nearest]
  simp [List.isEmpty_eq_false_iff.mpr n.isWhole.ne_nil, value, scale]

/-- A numeral of digits only is read as an integer, if they are not too many. -/
theorem readUnsigned_whole (hwhole : IsWhole whole) (hlimit : whole.length ≤ digitLimit)
    (negative : Bool) (start : ℕ) (hrest : AtBoundary rest) :
    readUnsigned negative start (whole ++ rest) =
      .ok (.int (if negative then -(digitsValue whole : ℤ) else digitsValue whole), rest) := by
  have hfraction : fractionPart rest = ([], rest) :=
    @fractionPart_point [] rest (by simp) hrest.isDigit (@head?_power_ne_point rest none hrest)
  have hexponent : exponentPart rest = (none, rest) :=
    @exponentPart_power rest none (by simp [IsPower]) hrest
  rw [readUnsigned, wholePart_append hwhole hrest.isDigit]
  simp [List.isEmpty_eq_false_iff.mpr hwhole.ne_nil, hfraction, hexponent,
    Nat.not_lt.mpr hlimit]

end Numeral

/-! ## Decimals are written as numerals -/

theorem IsWhole.of_head (hne : whole ≠ []) (hdigits : ∀ c ∈ whole, isDigit c = true)
    (hhead : whole.head? ≠ some '0') : IsWhole whole :=
  ⟨hne, hdigits, fun h => absurd h hhead⟩

theorem isDigit_zero : ∀ c ∈ ['0'], isDigit c = true := List.forall_mem_singleton.mpr (by decide)

theorem IsWhole.zeroDigit : IsWhole ['0'] := ⟨by simp, isDigit_zero, fun _ => rfl⟩

theorem IsWhole.toDigits (n : ℕ) : IsWhole (Nat.toDigits 10 n) := by
  rcases Nat.eq_zero_or_pos n with rfl | hn
  · exact IsWhole.zeroDigit
  · exact .of_head Nat.toDigits_ne_nil (fun _ => Text.isDigit_of_mem_decimal)
      (Text.head?_toDigits hn)

/-- The first digits are a whole part if there is no zero in front of them. -/
theorem IsWhole.take {digits : List Char} (hne : digits ≠ [])
    (hdigits : ∀ c ∈ digits, isDigit c = true) (hhead : digits.head? ≠ some '0') {k : ℕ}
    (hk : 0 < k) : IsWhole (digits.take k) := by
  refine .of_head ?_ ?_ ?_
  · simp [hne, hk.ne']
  · exact fun c hc => hdigits c (List.mem_of_mem_take hc)
  · rwa [List.head?_take, if_neg hk.ne']

theorem isDigit_replicate_zero (k : ℕ) : ∀ c ∈ List.replicate k '0', isDigit c = true := by
  intro c hc
  obtain rfl := List.eq_of_mem_replicate hc
  decide

theorem digitsValue_zero_cons (cs : List Char) : digitsValue ('0' :: cs) = digitsValue cs := by
  rw [Text.digitsValue_cons, Text.digitValue?_ascii (by decide)]
  simp

theorem digitsValue_padded (width n : ℕ) :
    digitsValue (Binary64.padded width n).toList = n := by
  simp [Binary64.padded, Text.digitsValue_append, Text.digitsValue_replicate_zero,
    Text.digitsValue_toDigits]

theorem isDigit_padded (width n : ℕ) :
    ∀ c ∈ (Binary64.padded width n).toList, isDigit c = true := by
  intro c hc
  simp only [Binary64.padded, String.toList_append, String.toList_ofList, Nat.toList_repr,
    List.mem_append] at hc
  rcases hc with hc | hc
  · exact isDigit_replicate_zero _ c hc
  · exact Text.isDigit_of_mem_decimal hc

theorem point_of_ne_nil (h : fraction ≠ []) : point fraction = '.' :: fraction := by
  cases fraction with
  | nil => exact absurd rfl h
  | cons c cs => rfl

/-- Digits behind the point, with zeros in front of them. -/
theorem exists_numeral_small {digits : List Char} (hne : digits ≠ [])
    (hdigits : ∀ c ∈ digits, isDigit c = true) (k : ℕ) :
    ∃ n : Numeral, n.chars = '0' :: '.' :: (List.replicate k '0' ++ digits) ∧ n.IsFloat ∧
      n.value = digitsValue digits * 10 ^ (-(k + digits.length : ℤ)) := by
  have hfraction : List.replicate k '0' ++ digits ≠ [] := by simp [hne]
  refine ⟨⟨['0'], List.replicate k '0' ++ digits, none, .zeroDigit, ?_, by simp [IsPower]⟩,
    ?_, .inl hfraction, ?_⟩
  · intro c hc
    rcases List.mem_append.mp hc with hc | hc
    · exact isDigit_replicate_zero k c hc
    · exact hdigits c hc
  · simp [Numeral.chars, point_of_ne_nil hfraction, power]
  · simp [Numeral.value, Numeral.scale, powerValue, digitsValue_zero_cons,
      Text.digitsValue_append, Text.digitsValue_replicate_zero]

/-- Digits with zeros behind them, and a zero behind the point. -/
theorem exists_numeral_large {digits : List Char} (hne : digits ≠ [])
    (hdigits : ∀ c ∈ digits, isDigit c = true) (hhead : digits.head? ≠ some '0') (k : ℕ) :
    ∃ n : Numeral, n.chars = digits ++ List.replicate k '0' ++ ['.', '0'] ∧ n.IsFloat ∧
      n.value = digitsValue digits * 10 ^ (k : ℤ) := by
  refine ⟨⟨digits ++ List.replicate k '0', ['0'], none, .of_head ?_ ?_ ?_, isDigit_zero,
    by simp [IsPower]⟩, ?_, .inl (by simp), ?_⟩
  · simp [hne]
  · intro c hc
    rcases List.mem_append.mp hc with hc | hc
    · exact hdigits c hc
    · exact isDigit_replicate_zero k c hc
  · cases digits with
    | nil => exact absurd rfl hne
    | cons c cs => simpa using hhead
  · simp [Numeral.chars, point, power]
  · have hzero : digitsValue ['0'] = 0 := Text.digitsValue_replicate_zero 1
    simp only [Numeral.value, Numeral.scale, powerValue, Text.digitsValue_append,
      Text.digitsValue_replicate_zero, hzero]
    simp

/-- Digits with the point between them. -/
theorem exists_numeral_split {digits : List Char} (hdigits : ∀ c ∈ digits, isDigit c = true)
    (hhead : digits.head? ≠ some '0') {k : ℕ} (hk : 0 < k) (hlt : k < digits.length) :
    ∃ n : Numeral, n.chars = digits.take k ++ '.' :: digits.drop k ∧ n.IsFloat ∧
      n.value = digitsValue digits * 10 ^ (k - digits.length : ℤ) := by
  have hfraction : digits.drop k ≠ [] := by simp [hlt]
  have hne : digits ≠ [] := List.ne_nil_of_length_pos (hk.trans hlt)
  refine ⟨⟨digits.take k, digits.drop k, none, .take hne hdigits hhead hk, ?_,
    by simp [IsPower]⟩, ?_, .inl hfraction, ?_⟩
  · exact fun c hc => hdigits c (List.mem_of_mem_drop hc)
  · simp [Numeral.chars, point_of_ne_nil hfraction, power]
  · simp only [Numeral.value, Numeral.scale, powerValue, List.take_append_drop,
      List.length_drop]
    congr 2
    simp only [Option.getD_none]
    omega

/-- Digits with the point behind the first one, and an exponent. -/
theorem exists_numeral_scientific {digits : List Char} (hne : digits ≠ [])
    (hdigits : ∀ c ∈ digits, isDigit c = true) (hhead : digits.head? ≠ some '0') (e : ℤ)
    (width : ℕ) :
    ∃ n : Numeral, n.chars = digits.take 1 ++ point (digits.drop 1) ++
        ('e' :: (if e < 0 then '-' else '+') :: (Binary64.padded width e.natAbs).toList) ∧
      n.IsFloat ∧ n.value = digitsValue digits * 10 ^ (e - (digits.length - 1)) := by
  have hpadded : (Binary64.padded width e.natAbs).toList ≠ [] := by
    simp [Binary64.padded, Nat.toDigits_ne_nil]
  have hpower : IsPower (some (decide (e < 0), (Binary64.padded width e.natAbs).toList)) :=
    IsPower.some _ hpadded (isDigit_padded width e.natAbs)
  refine ⟨⟨digits.take 1, digits.drop 1, _, .take hne hdigits hhead Nat.one_pos, ?_, hpower⟩,
    ?_, .inr (by simp), ?_⟩
  · exact fun c hc => hdigits c (List.mem_of_mem_drop hc)
  · simp [Numeral.chars, power]
  · have hlength := List.length_pos_iff.mpr hne
    simp only [Numeral.value, Numeral.scale, powerValue, List.take_append_drop,
      List.length_drop, digitsValue_padded]
    congr 2
    simp only [decide_eq_true_eq, Option.getD_some]
    split <;> omega

open Binary64 in
/-- Every decimal is written as a numeral of the same value. -/
theorem exists_numeral_write {d : Decimal} (hd : 0 < d.digits) :
    ∃ n : Numeral, n.chars = (layout.write d).toList ∧ n.IsFloat ∧ n.value = d.value := by
  have hdigits : ∀ c ∈ Nat.toDigits 10 d.digits, isDigit c = true :=
    fun _ => Text.isDigit_of_mem_decimal
  have hne : Nat.toDigits 10 d.digits ≠ [] := Nat.toDigits_ne_nil
  have hhead := Text.head?_toDigits hd
  have hvalue : d.value = digitsValue (Nat.toDigits 10 d.digits) * 10 ^ d.exponent := by
    rw [Text.digitsValue_toDigits, Decimal.value]
  rw [hvalue]
  unfold Layout.write
  simp only [Nat.toList_repr]
  -- from here on it only matters that the digits start with no zero
  generalize Nat.toDigits 10 d.digits = digits at *
  split
  · split
    · next hplaces =>
        obtain ⟨n, hchars, hfloat, hn⟩ :=
          exists_numeral_small hne hdigits (-(digits.length + d.exponent)).toNat
        refine ⟨n, by simpa using hchars, hfloat, ?_⟩
        rw [hn]
        congr 2
        omega
    split
    · next hplaces hlarge =>
        obtain ⟨n, hchars, hfloat, hn⟩ := exists_numeral_large hne hdigits hhead
          ((digits.length : ℤ) + d.exponent - digits.length).toNat
        refine ⟨n, by simpa using hchars, hfloat, ?_⟩
        rw [hn]
        congr 2
        omega
    · next hplaces hlarge =>
        obtain ⟨n, hchars, hfloat, hn⟩ := exists_numeral_split hdigits hhead
          (k := ((digits.length : ℤ) + d.exponent).toNat) (by omega) (by omega)
        refine ⟨n, by simpa using hchars, hfloat, ?_⟩
        rw [hn]
        congr 2
        omega
  · obtain ⟨n, hchars, hfloat, hn⟩ := exists_numeral_scientific hne hdigits hhead
      ((digits.length : ℤ) + d.exponent - 1) layout.exponentDigits
    refine ⟨n, ?_, hfloat, ?_⟩
    · rw [hchars]
      cases hrest : digits.drop 1 <;> split <;> simp [point]
    · rw [hn]
      congr 2
      omega

/-! ## Scalars -/

/-- What starts with a digit is no constant, with or without a minus sign. -/
theorem constants_none {c : Char} (hc : isDigit c = true) (cs : List Char) :
    (constants.findSome? fun (name, x) => (Text.after? name.toList (c :: cs)).map (x, ·)) = none ∧
      (constants.findSome? fun (name, x) =>
        (Text.after? name.toList ('-' :: c :: cs)).map (x, ·)) = none := by
  have hne : ∀ d : Char, isDigit d = false → (d == c) = false := by
    intro d hd
    rw [beq_eq_false_iff_ne]
    rintro rfl
    rw [hc] at hd
    exact absurd hd (by decide)
  simp [constants, Text.after?, hne 'n' (by decide), hne 't' (by decide), hne 'f' (by decide),
    hne 'N' (by decide), hne 'I' (by decide), hne '-' (by decide)]

/-- The sign of a number in a document. -/
def sign (negative : Bool) : List Char := if negative then ['-'] else []

theorem readScalar_unsigned {cs : List Char} (hne : cs ≠ [])
    (hdigit : ∀ c ∈ cs.head?, isDigit c = true) (negative : Bool) :
    readScalar (sign negative ++ cs) = readUnsigned negative (sign negative ++ cs).length cs := by
  cases cs with
  | nil => exact absurd rfl hne
  | cons c cs =>
      have hc := hdigit c rfl
      have hminus : c ≠ '-' := by
        rintro rfl
        exact absurd hc (by decide)
      obtain ⟨hplain, hsigned⟩ := constants_none hc cs
      cases negative with
      | true => simp [sign, readScalar, hsigned]
      | false =>
          simp only [sign, readScalar, Bool.false_eq_true, ↓reduceIte, List.nil_append, hplain]
          split
          · next heq => exact absurd (List.cons.inj heq).1 hminus
          · rfl

theorem IsWhole.head_append (hwhole : IsWhole whole) (cs : List Char) :
    whole ++ cs ≠ [] ∧ ∀ c ∈ (whole ++ cs).head?, isDigit c = true := by
  cases whole with
  | nil => exact absurd rfl hwhole.ne_nil
  | cons d ds =>
      refine ⟨by simp, fun c hc => ?_⟩
      obtain rfl : d = c := by simpa using hc
      exact hwhole.digits d (List.mem_cons_self ..)

theorem toList_toString_int (n : ℤ) :
    (toString n).toList = sign (n < 0) ++ Nat.toDigits 10 n.natAbs := by
  rw [Int.toString_eq_repr, Int.repr_eq_if]
  by_cases hneg : n < 0
  · have hnat : (-n).toNat = n.natAbs := by omega
    simp [sign, hneg, if_neg (not_le.mpr hneg), hnat]
  · have hnat : n.toNat = n.natAbs := by omega
    simp [sign, hneg, if_pos (not_lt.mp hneg), hnat]

/-- An integer that has not too many digits is read as itself. -/
theorem readScalar_int {n : ℤ} (hlimit : n.natAbs < 10 ^ digitLimit) (hrest : AtBoundary rest) :
    readScalar ((toString n).toList ++ rest) = .ok (.int n, rest) := by
  have hwhole := IsWhole.toDigits n.natAbs
  have hlength : (Nat.toDigits 10 n.natAbs).length ≤ digitLimit :=
    (Nat.length_toDigits_le_iff (by decide) (by decide)).mpr hlimit
  obtain ⟨hne, hhead⟩ := hwhole.head_append rest
  rw [toList_toString_int, List.append_assoc, readScalar_unsigned hne hhead,
    Numeral.readUnsigned_whole hwhole hlength _ _ hrest, Text.digitsValue_toDigits]
  congr 3
  split
  · next hneg =>
      have : n < 0 := of_decide_eq_true hneg
      omega
  · next hneg =>
      have : ¬ n < 0 := fun h => hneg (decide_eq_true h)
      omega

/-- A numeral behind its sign is read as the number nearest to it. -/
theorem Numeral.readScalar_sign (n : Numeral) (hfloat : n.IsFloat) (negative : Bool)
    (hrest : AtBoundary rest) :
    readScalar (sign negative ++ (n.chars ++ rest)) =
      .ok (.float (.nearest negative n.value), rest) := by
  have hhead := n.isWhole.head_append (point n.fraction ++ power n.exponent ++ rest)
  have hchars : n.whole ++ (point n.fraction ++ power n.exponent ++ rest) = n.chars ++ rest := by
    simp [Numeral.chars]
  rw [hchars] at hhead
  rw [readScalar_unsigned hhead.1 hhead.2, n.readUnsigned_float hfloat _ _ hrest]

/-- A floating point number is read as itself. -/
theorem readScalar_float (x : Binary64) (hrest : AtBoundary rest) :
    readScalar (floatChars x ++ rest) = .ok (.float x, rest) := by
  cases x with
  | nan => rfl
  | infinity negative => cases negative <;> rfl
  | finite negative mantissa exponent form =>
      have hsign : ((if negative then "-" else "") : String).toList = sign negative := by
        cases negative <;> rfl
      by_cases hzero : mantissa = 0
      · subst hzero
        let n : Numeral := ⟨['0'], ['0'], none, .zeroDigit, isDigit_zero, by simp [IsPower]⟩
        have hvalue : n.value = (0 : ℕ) * 2 ^ exponent := by
          have hdigits : digitsValue ['0', '0'] = 0 := Text.digitsValue_replicate_zero 2
          simp [n, Numeral.value, hdigits]
        have hchars : floatChars (.finite negative 0 exponent form) = sign negative ++ n.chars := by
          simp [floatChars, Binary64.textWith, hsign, n, Numeral.chars, point, power]
        rw [hchars, List.append_assoc, n.readScalar_sign (.inl (by simp [n])) negative hrest,
          hvalue, Binary64.nearest_exact negative form]
      · have hshortest := Binary64.nearest_shortest false form
        obtain ⟨n, hn, hfloat, hvalue⟩ :=
          exists_numeral_write (Binary64.digits_pos_of_nearest hzero hshortest)
        have hchars : floatChars (.finite negative mantissa exponent form) =
            sign negative ++ n.chars := by
          simp [floatChars, Binary64.textWith, hsign, hn, hzero]
        rw [hchars, List.append_assoc, n.readScalar_sign hfloat negative hrest, hvalue,
          Binary64.nearest_shortest negative form]

end SelectQuery.Json
