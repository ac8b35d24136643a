import SelectQuery.Proofs.Literal.Range
import SelectQuery.Proofs.Value.Numeral

/-!
# Constants

What a program would write for a value is a constant: a text in quotes, or an integer. Every
operator reads back the constants that are written in its own form, whatever characters
stand inside of the quotes, and leaves the text as it is: one constant, two with `AND` between
them, or a list with commas between its items (`constants_read`).
-/

namespace SelectQuery.Literal

open Text

inductive Constant
  | text (s : String)
  | integer (n : ℤ)
  deriving DecidableEq

namespace Constant

def value : Constant → Literal
  | text s => .text s
  | integer n => .integer n

def chars : Constant → List Char
  | text s => quote s.toList
  | integer n => (toString n).toList

/-- An integer has no more digits than may be read. -/
def Fits : Constant → Prop
  | text _ => True
  | integer n => n.natAbs < 10 ^ digitLimit

/-- The items of a list, without parentheses. -/
def listed (xs : List Constant) : List Char := ", ".toList.intercalate (xs.map chars)

/-- The items of a list in parentheses. -/
def parenthesised (xs : List Constant) : List Char := '(' :: (listed xs ++ [')'])

/-! ## Integers -/

section Integers

variable (n : ℤ)

theorem chars_integer : (integer n).chars = Json.sign (n < 0) ++ Nat.toDigits 10 n.natAbs :=
  Json.toList_toString_int n

/-- What the text of an integer is taken apart into. -/
def integerParts (n : ℤ) : NumberParts := ⟨n < 0, Nat.toDigits 10 n.natAbs, false, [], none⟩

theorem value_integerParts : (integerParts n).value = .integer n := by
  have hinteger : (integerParts n).isInteger = true := rfl
  rw [NumberParts.value, if_pos hinteger]
  simp only [integerParts, digitsValue_toDigits, Int.natCast_natAbs, decide_eq_true_eq]
  split
  · next hneg => rw [abs_of_neg hneg, neg_neg]
  · next hneg => rw [abs_of_nonneg (not_lt.mp hneg)]

theorem splitSign_integer :
    Integer.splitSign (integer n).chars = (decide (n < 0), Nat.toDigits 10 n.natAbs) := by
  have hdigit : ∀ c ∈ Nat.toDigits 10 n.natAbs, c.isDigit = true := fun _ => isDigit_of_mem_decimal
  rw [chars_integer]
  generalize Nat.toDigits 10 n.natAbs = digits at *
  cases decide (n < 0) with
  | true => rfl
  | false =>
      cases digits with
      | nil => rfl
      | cons d digits =>
          have hd := hdigit d List.mem_cons_self
          have hminus : d ≠ '-' := Sql.ne_of_isDigit hd (by decide)
          have hplus : d ≠ '+' := Sql.ne_of_isDigit hd (by decide)
          simp [Json.sign, Integer.splitSign, hminus, hplus]

theorem numberParts?_integer : numberParts? (integer n).chars = some (integerParts n) := by
  have hdigit : ∀ c ∈ Nat.toDigits 10 n.natAbs, isDigit c = true := fun _ hc =>
    isDigit_of_ascii (isDigit_of_mem_decimal hc)
  have htake := List.takeWhile_eq_self_iff.mpr hdigit
  have hdrop := List.dropWhile_eq_nil_iff.mpr hdigit
  simp [numberParts?, splitSign_integer, htake, hdrop, Nat.toDigits_ne_nil, exponentEnd?,
    integerParts]

theorem of_integer : (integerParts n).Of (integer n).chars := by
  refine numberParts?_spec (numberParts?_integer n) ?_
  intro hlast
  rw [chars_integer, List.getLast?_append_of_ne_nil _ Nat.toDigits_ne_nil] at hlast
  have hdigit := isDigit_of_mem_decimal (List.mem_of_getLast? hlast)
  exact absurd hdigit (by decide)

theorem isNumeric_integer : isNumeric (integer n).chars = true := by
  rw [isNumeric, numberParts?_integer]
  rfl

theorem hasLeadingZero_integer : hasLeadingZero (integer n).chars = false := by
  rw [hasLeadingZero, splitSign_integer]
  by_cases hn : n = 0
  · subst hn
    rfl
  · have hhead : (Nat.toDigits 10 n.natAbs).head? ≠ some '0' := head?_toDigits (by omega)
    dsimp only
    split
    · next heq => simp [heq] at hhead
    · rfl

end Integers

/-! ## Constants as scalars -/

section Scalars

variable (x : Constant)

theorem isLiteral_chars : IsLiteral x.chars := by
  cases x with
  | text s => exact .inl ⟨s.toList, rfl⟩
  | integer n => exact .inr (isNumeric_integer n)

theorem isBound_chars : IsBound x.chars := by
  cases x with
  | text s => exact .inl ⟨s.toList, rfl⟩
  | integer n => exact (of_integer n).isBound

theorem isQuoted_text (s : String) : isQuoted (text s).chars = true :=
  isQuoted_quote s.toList

theorem formatScalar_chars : formatScalar x.chars = x.chars := by
  cases x with
  | text s => simp [formatScalar, isQuoted_text]
  | integer n => simp [formatScalar, isNumeric_integer]

theorem readScalar_chars : readScalar x.chars = x.value := by
  cases x with
  | text s =>
      rw [readScalar, if_pos (isQuoted_text s), chars, unquote_quote, String.ofList_toList, value]
  | integer n =>
      simp [readScalar, (of_integer n).not_quoted, hasLeadingZero_integer, numberParts?_integer,
        value_integerParts, value]

theorem excessDigits?_chars {x : Constant} (h : x.Fits) : excessDigits? x.chars = none := by
  cases x with
  | text s => simp [excessDigits?, isQuoted_text]
  | integer n =>
      have hlength : ¬ digitLimit < (integerParts n).whole.length :=
        not_lt.mpr ((Nat.length_toDigits_le_iff (by decide) (by decide)).mpr h)
      simp [excessDigits?, numberParts?_integer, hlength]

end Scalars

/-! ## Lists of constants -/

/-- Trimmed texts are trimmed with a separator between them. -/
theorem trim_intercalate (separator : List Char) {ts : List (List Char)} (hne : ts ≠ [])
    (h : ∀ t ∈ ts, trim t = t ∧ t ≠ []) :
    trim (separator.intercalate ts) = separator.intercalate ts ∧ separator.intercalate ts ≠ [] := by
  induction ts with
  | nil => exact absurd rfl hne
  | cons t ts ih =>
      rw [List.forall_mem_cons] at h
      cases ts with
      | nil => simpa using h.1
      | cons next ts =>
          obtain ⟨hrest, hrest'⟩ := ih (List.cons_ne_nil next ts) h.2
          rw [List.intercalate_cons_cons]
          exact ⟨trim_between h.1.1 h.1.2 hrest hrest', by simp [h.1.2]⟩

/-- Literals with a comma and a space between them are the items. -/
theorem items_intercalate_space {ts : List (List Char)}
    (h : ∀ t ∈ ts, IsLiteral t ∧ trim t = t) : items (", ".toList.intercalate ts) = ts := by
  induction ts with
  | nil => exact items_nil
  | cons t ts ih =>
      rw [List.forall_mem_cons] at h
      obtain ⟨⟨hliteral, htrim⟩, hrest⟩ := h
      rw [← htrim] at hliteral
      have hplace (rest : List Char) (hcomma : ∀ c ∈ rest.head?, c = ',') :
          items (t ++ rest) = t :: items rest := by
        rw [items_place hliteral hcomma, htrim]
      cases ts with
      | nil => simpa using hplace [] (by simp)
      | cons next ts =>
          have hspace : ∀ c ∈ [' '], isBlank c = true := List.forall_mem_singleton.mpr rfl
          rw [List.intercalate_cons_cons, List.append_assoc, hplace _ (by simp)]
          exact congrArg (t :: ·)
            ((items_of_comma rfl).trans ((items_blank hspace).trans (ih hrest)))

variable {xs : List Constant}

theorem trim_listed (hne : xs ≠ []) : trim (listed xs) = listed xs ∧ listed xs ≠ [] := by
  refine trim_intercalate _ (by simpa using hne) ?_
  rw [List.forall_mem_map]
  exact fun x _ => ⟨x.isBound_chars.trim_eq, x.isBound_chars.ne_nil⟩

theorem items_listed (xs : List Constant) : items (listed xs) = xs.map chars := by
  refine items_intercalate_space ?_
  rw [List.forall_mem_map]
  exact fun x _ => ⟨x.isLiteral_chars, x.isBound_chars.trim_eq⟩

theorem head?_chars (x : Constant) : x.chars.head? ≠ some '(' := by
  intro hhead
  cases x with
  | text s => exact absurd hhead (by simp [chars, quote])
  | integer n => exact (of_integer n).notMem (by decide) (List.mem_of_mem_head? hhead)

theorem withoutParens_listed (xs : List Constant) : withoutParens (listed xs) = listed xs := by
  have hhead : (listed xs).head? ≠ some '(' := by
    cases xs with
    | nil => simp [listed]
    | cons x xs =>
        cases xs with
        | nil => simpa [listed] using x.head?_chars
        | cons next xs =>
            rw [listed, List.map_cons, List.map_cons, List.intercalate_cons_cons, List.append_assoc,
              List.head?_append_of_ne_nil _ x.isBound_chars.ne_nil]
            exact x.head?_chars
  simp [withoutParens, hhead]

end Constant

/-! ## What an operator makes of constants -/

open Constant

variable {op : ConditionOperator} {raw : List Char}

/-- A value is written as `text`, and `read` is handed over for it. -/
structure ReadsAs (op : ConditionOperator) (raw text : List Char) (read : List Literal) : Prop where
  format : format (some op) raw = some text
  values : values op raw = read
  excess : excess? op raw = none

theorem readsAs_text (hnull : op.isNullability = false) (hmember : op.isMembership = false)
    (hrange : op.isRange = false) (s : String) :
    ReadsAs op (quote s.toList) (quote s.toList) [.text s] := by
  have hquoted := isQuoted_quote s.toList
  have hone : TakesOne op (quote s.toList) := by
    refine ⟨?_, ⟨hnull, hmember⟩, fun h => ?_⟩
    · rw [trim_quote]
      exact quote_ne_nil s.toList
    · rw [hrange] at h
      exact absurd h (by decide)
  refine ⟨?_, ?_, ?_⟩
  · simp [hone.format_eq, trim_quote, formatScalar, hquoted]
  · simp [values_eq, hone.scalars_eq, trim_quote, typed, readText, readScalar, hquoted]
  · simp [excess?_eq_none, hone.scalars_eq, trim_quote, excessDigits?, hquoted]

theorem readsAs_range (hrange : op.isRange = true) {x y : Constant} (hx : x.Fits) (hy : y.Fits) :
    ReadsAs op (x.chars ++ " AND ".toList ++ y.chars) (x.chars ++ " AND ".toList ++ y.chars)
      [x.value, y.value] := by
  have hhigh := y.isBound_chars
  have htwo := takesTwo_and hrange x.isBound_chars hhigh.trim_eq hhigh.ne_nil
  have hpattern := (isRange_only hrange).2.2
  refine ⟨?_, ?_, ?_⟩
  · rw [htwo.format_eq, formatScalar_chars, formatScalar_chars]
  · rw [values, htwo.scalars_eq, hpattern]
    simp [readScalar_chars]
  · rw [excess?_eq_none, htwo.scalars_eq]
    simp [excessDigits?_chars hx, excessDigits?_chars hy]

theorem readsAs_list (hmember : op.isMembership = true) {xs : List Constant} (hne : xs ≠ [])
    (hfits : ∀ x ∈ xs, x.Fits) (hbody : withoutParens (trim raw) = listed xs) :
    isLiteralList raw = true ∧ ReadsAs op raw (parenthesised xs) (xs.map value) := by
  have hitems : splitList raw = xs.map chars := by rw [splitList, hbody, items_listed]
  have hlist : isLiteralList raw = true := by
    rw [isLiteralList_iff, hitems, List.forall_mem_map]
    refine ⟨by simpa using hne, fun x _ => ?_⟩
    cases x with
    | text s => exact .inl (isQuoted_text s)
    | integer n => exact .inr (isNumeric_integer n)
  have hscalars : scalars op raw = xs.map chars :=
    (scalars_of_isLiteralList hmember hlist).1.trans hitems
  have hpattern := (isMembership_only hmember).2
  refine ⟨hlist, ?_, ?_, ?_⟩
  · rw [format_list hmember hlist, hbody, parenthesised]
  · rw [values, hscalars, hpattern]
    simp [readScalar_chars]
  · rw [excess?_eq_none, hscalars, List.forall_mem_map]
    exact fun x hx _ => excessDigits?_chars (hfits x hx)

/-- Constants in an operator's own form are read back, and are written as they stand; a list
is written in parentheses. -/
theorem constants_read :
    (∀ (op : ConditionOperator) (s : String), op.isNullability = false →
      op.isMembership = false → op.isRange = false →
        ReadsAs op (quote s.toList) (quote s.toList) [.text s]) ∧
    (∀ (op : ConditionOperator) (x y : Constant), op.isRange = true → x.Fits → y.Fits →
        ReadsAs op (x.chars ++ " AND ".toList ++ y.chars)
          (x.chars ++ " AND ".toList ++ y.chars) [x.value, y.value]) ∧
    ∀ (op : ConditionOperator) (xs : List Constant), op.isMembership = true → xs ≠ [] →
      (∀ x ∈ xs, x.Fits) → ∀ raw, raw = listed xs ∨ raw = parenthesised xs →
        isLiteralList raw = true ∧ ReadsAs op raw (parenthesised xs) (xs.map value) := by
  refine ⟨fun op s hnull hmember hrange => readsAs_text hnull hmember hrange s,
    fun op x y hrange hx hy => readsAs_range hrange hx hy,
    fun op xs hmember hne hfits raw hraw => ?_⟩
  refine readsAs_list hmember hne hfits ?_
  rcases hraw with rfl | rfl
  · rw [(trim_listed hne).1, withoutParens_listed]
  · rw [parenthesised, trim_parens, withoutParens_parens]

/-- Quotes, `AND` and commas inside of the quotes are no obstacle. -/
theorem constants_read_inside_quotes :
    ReadsAs .eq "'it''s'".toList "'it''s'".toList [.text "it's"] ∧
    Fits (.text "a AND b") ∧ Fits (.integer (-5)) ∧
    ReadsAs .between "'a AND b' AND -5".toList "'a AND b' AND -5".toList
      [.text "a AND b", .integer (-5)] ∧
    (∀ x ∈ [Constant.text "a,b", Constant.integer (-5)], x.Fits) ∧
    isLiteralList "'a,b', -5".toList = true ∧
    ReadsAs .isIn "'a,b', -5".toList "('a,b', -5)".toList [.text "a,b", .integer (-5)] := by
  have hlimit : 1 ≤ digitLimit := by decide
  have hinteger : Fits (.integer (-5)) :=
    Nat.lt_of_lt_of_le (by decide : 5 < 10 ^ 1) (Nat.pow_le_pow_right (by decide) hlimit)
  have hfits : ∀ x ∈ [Constant.text "a,b", Constant.integer (-5)], x.Fits :=
    List.forall_mem_cons.mpr ⟨trivial, List.forall_mem_singleton.mpr hinteger⟩
  refine ⟨constants_read.1 .eq "it's" rfl rfl rfl, trivial, hinteger, ?_, hfits, ?_⟩
  · exact constants_read.2.1 .between (.text "a AND b") (.integer (-5)) rfl trivial hinteger
  · exact constants_read.2.2 .isIn [.text "a,b", .integer (-5)] rfl (by simp) hfits _ (.inl rfl)

end SelectQuery.Literal
