import SelectQuery.Proofs.Literal.Number
import SelectQuery.Proofs.Literal.Operand

/-!
# What a written value means

A scalar that looks like a literal is written into the query as it stands, and its value is
read from the same text. The two mean the same exactly if the text is a literal of SQL:
the quotes inside of quotes come in pairs, and a number has digits of ASCII and not too many
of them (`WellWritten`). Every other scalar is quoted, and means itself.

For two bounds the first literal is followed by `AND`. It cannot reach beyond its bound and
still have the value of the bound (`eq_doubleQuotes`), so the bounds can be looked at one by
one (`operand?_format_iff`).
-/

namespace SelectQuery.Literal

open Text Sql

variable {op : ConditionOperator} {t tail : List Char}

/-- A scalar as an operator writes it. -/
def written (op : ConditionOperator) (t : List Char) : List Char :=
  if op.isPattern then if isQuoted t then t else quote t else formatScalar t

/-- The value of a scalar for an operator. -/
def typed (op : ConditionOperator) (t : List Char) : Literal :=
  if op.isPattern then readText t else readScalar t

/-- A bare number with a zero in front, which is handed over as text. -/
def IsExempt (op : ConditionOperator) (t : List Char) : Prop :=
  op.isPattern = false ∧ isNumeric t = true ∧ hasLeadingZero t = true

/-- A scalar is a literal of SQL if it is taken for a literal. -/
structure WellWritten (op : ConditionOperator) (t : List Char) : Prop where
  quotes : isQuoted t = true → ∃ s, t = quote s
  digits : op.isPattern = false → isNumeric t = true →
    ∀ c ∈ t, isDigit c = true → c.isDigit = true
  limit : op.isPattern = false → excessDigits? t = none

/-! ## Scalars -/

theorem values_eq (op : ConditionOperator) (raw : List Char) :
    values op raw = (scalars op raw).map (typed op) := by
  rw [values]
  congr 1
  funext t
  rw [typed]
  split <;> rfl

theorem excess?_eq_none {raw : List Char} :
    excess? op raw = none ↔
      ∀ t ∈ scalars op raw, op.isPattern = false → excessDigits? t = none := by
  cases hpattern : op.isPattern with
  | true => simp [excess?, hpattern]
  | false => simp [excess?, hpattern]

theorem exists_parts (htrim : trim t = t) (h : isNumeric t = true) :
    ∃ p, numberParts? t = some p ∧ p.Of t := by
  obtain ⟨p, hp⟩ := Option.isSome_iff_exists.mp h
  refine ⟨p, hp, numberParts?_spec hp ?_⟩
  intro hlast
  rw [← htrim] at hlast
  exact absurd (getLast?_trim t '\n' hlast) (by decide)

/-- A character that no number is written with is in none. -/
theorem NumberParts.Of.notMem {p : NumberParts} (hp : p.Of t) {c : Char}
    (hc : isNumberChar c = false) : c ∉ t := by
  intro hmem
  rw [hp.chars c hmem] at hc
  exact absurd hc (by decide)

theorem NumberParts.Of.not_quoted {p : NumberParts} (hp : p.Of t) : isQuoted t = false := by
  rw [Bool.eq_false_iff]
  intro hquoted
  obtain ⟨inner, rfl⟩ := isQuoted_iff.mp hquoted
  exact hp.notMem (by decide) List.mem_cons_self

/-- A scalar is a quoted text, a number, or anything else, and is written and read as that. -/
theorem scalar_cases (op : ConditionOperator) (htrim : trim t = t) :
    (isQuoted t = true ∧ written op t = t ∧ typed op t = .text (String.ofList (unquote t))) ∨
    (op.isPattern = false ∧ isNumeric t = true ∧ ∃ p : NumberParts, p.Of t ∧ written op t = t ∧
      (¬ IsExempt op t → typed op t = p.value)) ∨
    (isQuoted t = false ∧ (op.isPattern = false → isNumeric t = false) ∧
      written op t = quote t ∧ typed op t = .text (String.ofList t)) := by
  cases hquoted : isQuoted t with
  | true =>
      left
      simp [written, typed, formatScalar, readText, readScalar, hquoted]
  | false =>
      right
      cases hpattern : op.isPattern with
      | true =>
          right
          simp [written, typed, readText, hpattern, hquoted]
      | false =>
          cases hnumeric : isNumeric t with
          | false =>
              right
              have hparts : numberParts? t = none := by simpa [isNumeric] using hnumeric
              simp [written, typed, formatScalar, readScalar, hpattern, hquoted, hnumeric, hparts]
          | true =>
              left
              obtain ⟨p, hparts, hp⟩ := exists_parts htrim hnumeric
              refine ⟨rfl, rfl, p, hp, by simp [written, formatScalar, hpattern, hnumeric], ?_⟩
              intro hexempt
              have hzero : hasLeadingZero t = false := by
                rw [Bool.eq_false_iff]
                exact fun hzero => hexempt ⟨hpattern, hnumeric, hzero⟩
              simp [typed, readScalar, hpattern, hquoted, hzero, hparts]

/-- What SQL reads in front of a space or at the end. -/
theorem head?_ne_quote (htail : ∀ c ∈ tail.head?, c = ' ') : tail.head? ≠ some '\'' :=
  fun h => absurd (htail '\'' h) (by decide)

theorem literal?_number {p : NumberParts} (hp : p.Of t) (htail : ∀ c ∈ tail.head?, c = ' ') :
    literal? (t ++ tail) = (number? t).map fun v => (v, tail) := by
  refine literal?_run ?_ hp.ne_nil (hp.notMem (by decide)) htail
  intro hhead
  exact hp.notMem (by decide) (List.mem_of_mem_head? hhead)

/-- A scalar that is well written is one literal, with its own value. -/
theorem literal?_written (htrim : trim t = t) (h : WellWritten op t)
    (htail : ∀ c ∈ tail.head?, c = ' ') :
    ∃ v, literal? (written op t ++ tail) = some (v, tail) ∧
      (¬ IsExempt op t → v = typed op t) := by
  rcases scalar_cases op htrim with ⟨hquoted, hwritten, htyped⟩ |
    ⟨hpattern, hnumeric, p, hp, hwritten, htyped⟩ | ⟨-, -, hwritten, htyped⟩
  · obtain ⟨s, rfl⟩ := h.quotes hquoted
    rw [unquote_quote] at htyped
    refine ⟨_, ?_, fun _ => htyped.symm⟩
    rw [hwritten, literal?_quote s (head?_ne_quote htail)]
  · refine ⟨p.value, ?_, fun hexempt => (htyped hexempt).symm⟩
    rw [hwritten, literal?_number hp htail, number?_eq hp (h.digits hpattern hnumeric)]
    rfl
  · refine ⟨_, ?_, fun _ => htyped.symm⟩
    rw [hwritten, literal?_quote t (head?_ne_quote htail)]

/-- A text in quotes is no number. -/
theorem not_isNumeric_of_isQuoted (htrim : trim t = t) (h : isQuoted t = true) :
    isNumeric t = false := by
  rw [Bool.eq_false_iff]
  intro hnumeric
  obtain ⟨p, -, hp⟩ := exists_parts htrim hnumeric
  rw [hp.not_quoted] at h
  exact absurd h (by decide)

/-- A text in quotes that is read as a literal with its own value is that literal. -/
theorem eq_quote_of_literal? (hquoted : isQuoted t = true) (htail : ∀ c ∈ tail.head?, c = ' ')
    {rest : List Char}
    (h : literal? (t ++ tail) = some (.text (String.ofList (unquote t)), rest)) :
    t = quote (unquote t) := by
  obtain ⟨inner, rfl⟩ := isQuoted_iff.mp hquoted
  have hunquote : unquote ('\'' :: inner ++ ['\'']) = undoubleQuotes inner := by simp [unquote]
  have htext : '\'' :: inner ++ ['\''] ++ tail = '\'' :: (inner ++ '\'' :: tail) := by simp
  rw [hunquote, htext, literal?] at h
  obtain ⟨⟨s, behind⟩, hs, heq⟩ := Option.map_eq_some_iff.mp h
  obtain rfl : s = undoubleQuotes inner :=
    String.ofList_injective (Literal.text.inj (Prod.mk.inj heq).1)
  have hinner := eq_doubleQuotes (string?_eq_some hs).1 (head?_ne_quote htail)
  rw [hunquote, quote, ← hinner]

/-- A scalar whose text is read as a literal with the value of the scalar is well written. -/
theorem wellWritten_of_literal? (htrim : trim t = t) (htail : ∀ c ∈ tail.head?, c = ' ')
    (hlimit : op.isPattern = false → excessDigits? t = none) {v : Literal} {rest : List Char}
    (h : literal? (written op t ++ tail) = some (v, rest)) (hv : ¬ IsExempt op t → v = typed op t) :
    WellWritten op t := by
  rcases scalar_cases op htrim with ⟨hquoted, hwritten, htyped⟩ |
    ⟨hpattern, hnumeric, p, hp, hwritten, -⟩ | ⟨hquoted, hnumeric, -, -⟩
  · have hnumber := not_isNumeric_of_isQuoted htrim hquoted
    have hexempt : ¬ IsExempt op t := by
      rintro ⟨-, hnumeric, -⟩
      rw [hnumber] at hnumeric
      exact absurd hnumeric (by decide)
    rw [hwritten, hv hexempt, htyped] at h
    refine ⟨fun _ => ⟨unquote t, eq_quote_of_literal? hquoted htail h⟩, fun _ hnumeric => ?_, hlimit⟩
    rw [hnumber] at hnumeric
    exact absurd hnumeric (by decide)
  · refine ⟨fun hquoted => ?_, fun _ _ => ?_, hlimit⟩
    · rw [hp.not_quoted] at hquoted
      exact absurd hquoted (by decide)
    · rw [hwritten, literal?_number hp htail] at h
      obtain ⟨w, hw, -⟩ := Option.map_eq_some_iff.mp h
      exact number?_ascii hw
  · -- such a scalar is quoted, so nothing is asked of its text
    refine ⟨fun h => ?_, fun hpattern hnumber => ?_, hlimit⟩
    · rw [hquoted] at h
      exact absurd h (by decide)
    · rw [hnumeric hpattern] at hnumber
      exact absurd hnumber (by decide)

/-! ## Operands -/

theorem TakesOne.format_written {raw : List Char} (h : TakesOne op raw) :
    format (some op) raw = some (written op (trim raw)) := by
  rw [h.format_eq, written]

theorem TakesTwo.format_written {raw low high : List Char} (h : TakesTwo op raw low high) :
    format (some op) raw = some (written op low ++ (" AND ".toList ++ written op high)) := by
  rw [h.format_eq, written, written, (isRange_only h.range).2.2, List.append_assoc]
  rfl

/-- Two bounds are trimmed. -/
theorem TakesTwo.trim_eq {raw low high : List Char} (h : TakesTwo op raw low high) :
    trim low = low ∧ trim high = high := by
  have hbounds := h.bounds
  simp only [splitRange?] at hbounds
  split at hbounds
  · obtain ⟨rfl, rfl⟩ := Prod.mk.inj (Option.some.inj hbounds)
    exact ⟨trim_trim _, trim_trim _⟩
  · obtain ⟨⟨a, b⟩, -, heq⟩ := Option.map_eq_some_iff.mp hbounds
    obtain ⟨rfl, rfl⟩ := Prod.mk.inj heq
    exact ⟨trim_trim _, trim_trim _⟩

/-- The values that SQL reads in an operand are those that are handed over, but for bare
numbers with a zero in front. -/
def Agrees (op : ConditionOperator) (raw : List Char) (read : List Literal) : Prop :=
  read.length = (values op raw).length ∧
    ∀ (i : ℕ) (t : List Char), (scalars op raw)[i]? = some t → ¬ IsExempt op t →
      read[i]? = (values op raw)[i]?

theorem agrees_one {raw : List Char} {read : List Literal} (h : scalars op raw = [t]) :
    Agrees op raw read ↔ ∃ v, read = [v] ∧ (¬ IsExempt op t → v = typed op t) := by
  rw [Agrees, values_eq, h]
  constructor
  · rintro ⟨hlength, hagree⟩
    obtain ⟨v, rfl⟩ := List.length_eq_one_iff.mp hlength
    exact ⟨v, rfl, fun hexempt => by simpa using hagree 0 t rfl hexempt⟩
  · rintro ⟨v, rfl, hv⟩
    refine ⟨rfl, fun i s hs hexempt => ?_⟩
    cases i with
    | zero =>
        obtain rfl : t = s := by simpa using hs
        simp [hv hexempt]
    | succ i => simp at hs

theorem agrees_two {raw u : List Char} {read : List Literal} (h : scalars op raw = [t, u]) :
    Agrees op raw read ↔ ∃ v w, read = [v, w] ∧ (¬ IsExempt op t → v = typed op t) ∧
      (¬ IsExempt op u → w = typed op u) := by
  rw [Agrees, values_eq, h]
  constructor
  · rintro ⟨hlength, hagree⟩
    obtain ⟨v, w, rfl⟩ := List.length_eq_two.mp hlength
    exact ⟨v, w, rfl, fun hexempt => by simpa using hagree 0 t rfl hexempt,
      fun hexempt => by simpa using hagree 1 u rfl hexempt⟩
  · rintro ⟨v, w, rfl, hv, hw⟩
    refine ⟨rfl, fun i s hs hexempt => ?_⟩
    match i with
    | 0 =>
        obtain rfl : t = s := by simpa using hs
        simp [hv hexempt]
    | 1 =>
        obtain rfl : u = s := by simpa using hs
        simp [hw hexempt]
    | i + 2 => simp at hs

theorem TakesOne.operand?_iff {raw : List Char} (h : TakesOne op raw) :
    (∃ text read, format (some op) raw = some text ∧ excess? op raw = none ∧
      operand? text = some read ∧ Agrees op raw read) ↔ WellWritten op (trim raw) := by
  constructor
  · rintro ⟨text, read, hformat, hexcess, hread, hagrees⟩
    obtain ⟨v, rfl, hv⟩ := (agrees_one h.scalars_eq).mp hagrees
    rw [excess?_eq_none, h.scalars_eq, List.forall_mem_singleton] at hexcess
    obtain rfl := Option.some.inj (h.format_written.symm.trans hformat)
    rcases operand?_eq_some.mp hread with ⟨v', heq, hliteral⟩ | ⟨v', w, rest, heq, -, -⟩
    · obtain rfl := List.singleton_inj.mp heq
      rw [← List.append_nil (written op (trim raw))] at hliteral
      exact wellWritten_of_literal? (trim_trim raw) (by simp) hexcess hliteral hv
    · simp at heq
  · intro hwell
    have hnil : ∀ c ∈ ([] : List Char).head?, c = ' ' := by simp
    obtain ⟨v, hliteral, hv⟩ := literal?_written (trim_trim raw) hwell hnil
    rw [List.append_nil] at hliteral
    refine ⟨_, [v], h.format_written, ?_, operand?_eq_some.mpr (.inl ⟨v, rfl, hliteral⟩), ?_⟩
    · rw [excess?_eq_none, h.scalars_eq, List.forall_mem_singleton]
      exact hwell.limit
    · exact (agrees_one h.scalars_eq).mpr ⟨v, rfl, hv⟩

theorem TakesTwo.operand?_iff {raw low high : List Char} (h : TakesTwo op raw low high) :
    (∃ text read, format (some op) raw = some text ∧ excess? op raw = none ∧
      operand? text = some read ∧ Agrees op raw read) ↔
      WellWritten op low ∧ WellWritten op high := by
  obtain ⟨hlow, hhigh⟩ := h.trim_eq
  have hnil : ∀ c ∈ ([] : List Char).head?, c = ' ' := by simp
  have hand : ∀ c ∈ (" AND ".toList ++ written op high).head?, c = ' ' := by simp
  constructor
  · rintro ⟨text, read, hformat, hexcess, hread, hagrees⟩
    obtain ⟨v, w, rfl, hv, hw⟩ := (agrees_two h.scalars_eq).mp hagrees
    rw [excess?_eq_none, h.scalars_eq] at hexcess
    obtain rfl := Option.some.inj (h.format_written.symm.trans hformat)
    rcases operand?_eq_some.mp hread with ⟨v', heq, -⟩ | ⟨v', w', rest, heq, hfirst, hsecond⟩
    · simp at heq
    · obtain ⟨rfl, rfl⟩ : v = v' ∧ w = w' := by simpa using heq
      have hwellLow := wellWritten_of_literal? hlow hand (hexcess low (by simp)) hfirst hv
      -- the first literal ends where its bound does, so the second starts behind `AND`
      refine ⟨hwellLow, ?_⟩
      obtain ⟨v', hliteral, -⟩ := literal?_written hlow hwellLow hand
      rw [hfirst] at hliteral
      obtain ⟨-, hrest⟩ := Prod.mk.inj (Option.some.inj hliteral)
      rw [List.append_cancel_left hrest, ← List.append_nil (written op high)] at hsecond
      exact wellWritten_of_literal? hhigh hnil (hexcess high (by simp)) hsecond hw
  · rintro ⟨hwellLow, hwellHigh⟩
    obtain ⟨v, hfirst, hv⟩ := literal?_written hlow hwellLow hand
    obtain ⟨w, hsecond, hw⟩ := literal?_written hhigh hwellHigh hnil
    rw [List.append_nil] at hsecond
    refine ⟨_, [v, w], h.format_written, ?_,
      operand?_eq_some.mpr (.inr ⟨v, w, _, rfl, hfirst, hsecond⟩), ?_⟩
    · rw [excess?_eq_none, h.scalars_eq]
      simpa using ⟨hwellLow.limit, hwellHigh.limit⟩
    · exact (agrees_two h.scalars_eq).mpr ⟨v, w, rfl, hv, hw⟩

/-- For an operator that takes a scalar, a pattern or a range, and a value that is not blank:
there is one value to hand over, or there are two for two bounds. What is written into the
query is as many literals of SQL with these values, and none of the values is refused, if and
only if every scalar is well written. -/
theorem operand?_format_iff {raw : List Char} (hnull : op.isNullability = false)
    (hmember : op.isMembership = false) (hne : trim raw ≠ []) :
    (values op raw).length = (if op.isRange && (splitRange? raw).isSome then 2 else 1) ∧
    ((∃ text read, format (some op) raw = some text ∧ excess? op raw = none ∧
        operand? text = some read ∧ Agrees op raw read) ↔
      ∀ t ∈ scalars op raw, WellWritten op t) := by
  rcases takes_cases hne hnull hmember with hone | ⟨low, high, htwo⟩
  · refine ⟨?_, ?_⟩
    · have hbounds : (op.isRange && (splitRange? raw).isSome) = false := by
        cases hrange : op.isRange with
        | false => rfl
        | true => simp [hone.bounds hrange]
      rw [values_eq, hone.scalars_eq, hbounds]
      rfl
    · rw [hone.operand?_iff, hone.scalars_eq, List.forall_mem_singleton]
  · refine ⟨?_, ?_⟩
    · rw [values_eq, htwo.scalars_eq, htwo.range, htwo.bounds]
      rfl
    · rw [htwo.operand?_iff, htwo.scalars_eq]
      simp

theorem operand?_format_bounds :
    ConditionOperator.between.isNullability = false ∧
    ConditionOperator.between.isMembership = false ∧ trim "18 and 30".toList ≠ [] ∧
    (values .between "18 and 30".toList).length = 2 ∧
    ((∃ text read, format (some .between) "18 and 30".toList = some text ∧
        excess? .between "18 and 30".toList = none ∧ operand? text = some read ∧
        Agrees .between "18 and 30".toList read) ↔
      ∀ t ∈ scalars .between "18 and 30".toList, WellWritten .between t) := by
  have hne : trim "18 and 30".toList ≠ [] := by decide
  have h := @operand?_format_iff .between "18 and 30".toList rfl rfl hne
  exact ⟨rfl, rfl, hne, h.1.trans (by decide), h.2⟩

/-- A lone quote between quotes closes the literal too early, though its value is read as if
the quote stood for itself. -/
theorem operand?_format_lone_quote :
    format (some .eq) "'it's'".toList = some "'it's'".toList ∧
    values .eq "'it's'".toList = [.text "it's"] ∧
    operand? "'it's'".toList = none ∧
    ¬ ∃ text read, format (some .eq) "'it's'".toList = some text ∧ operand? text = some read := by
  have hformat : format (some .eq) "'it's'".toList = some "'it's'".toList := by decide
  have hnone : operand? "'it's'".toList = none := by decide
  refine ⟨hformat, by decide, hnone, ?_⟩
  rintro ⟨text, read, htext, hread⟩
  rw [hformat] at htext
  rw [← Option.some.inj htext, hnone] at hread
  exact absurd hread (by simp)

end SelectQuery.Literal
