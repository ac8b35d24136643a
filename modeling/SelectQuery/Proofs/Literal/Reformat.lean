import SelectQuery.Proofs.Literal.Range

/-!
# Writing what was written

What `format` makes of a value is itself a value of the same operator. It is written as it
stands, and the same literals are read from it (`format_fixed`). For a scalar this says that a
text in quotes is left alone (`written_written`) and means the text (`typed_written`), and for
a list that parentheses are put around it only once. For a range the bounds have to be found
again once each of them is quoted, and there a broken literal as low bound is in the way: one
of its quotes may pair with a quote that was put behind it.
-/

namespace SelectQuery.Literal

open Text

variable {op : ConditionOperator} {raw t text low high : List Char}

/-! ## Scalars -/

/-- A scalar is written as it stands if it is in quotes or a number, and is quoted otherwise. -/
theorem written_cases (op : ConditionOperator) (t : List Char) :
    (written op t = t ∧ (isQuoted t = true ∨ isNumeric t = true)) ∨
    (written op t = quote t ∧ isQuoted t = false ∧
      (op.isPattern = false → isNumeric t = false)) := by
  cases hquoted : isQuoted t with
  | true => simp [written, formatScalar, hquoted]
  | false =>
      cases hpattern : op.isPattern with
      | true => simp [written, hpattern, hquoted]
      | false =>
          cases hnumeric : isNumeric t <;>
            simp [written, formatScalar, hpattern, hquoted, hnumeric]

theorem written_quote (op : ConditionOperator) (t : List Char) :
    written op (quote t) = quote t := by
  simp [written, formatScalar, isQuoted_quote]

theorem written_written (op : ConditionOperator) (t : List Char) :
    written op (written op t) = written op t := by
  rcases written_cases op t with ⟨heq, -⟩ | ⟨heq, -⟩
  · rw [heq, heq]
  · rw [heq, written_quote]

theorem trim_written (htrim : trim t = t) : trim (written op t) = written op t := by
  rcases written_cases op t with ⟨heq, -⟩ | ⟨heq, -⟩
  · rw [heq, htrim]
  · rw [heq, trim_quote]

theorem written_ne_nil (op : ConditionOperator) (t : List Char) : written op t ≠ [] := by
  rcases written_cases op t with ⟨heq, hliteral⟩ | ⟨heq, -⟩
  · rw [heq]
    rintro rfl
    exact absurd hliteral (by decide)
  · rw [heq]
    exact quote_ne_nil t

/-- A scalar without quotes that is no number is read as text, and so is its literal. -/
theorem typed_written (op : ConditionOperator) (t : List Char) :
    typed op (written op t) = typed op t := by
  rcases written_cases op t with ⟨heq, -⟩ | ⟨heq, hquoted, hnumeric⟩
  · rw [heq]
  · rw [heq]
    cases hpattern : op.isPattern with
    | true => simp [typed, readText, hpattern, isQuoted_quote, hquoted]
    | false =>
        have hparts : numberParts? t = none := by simpa [isNumeric] using hnumeric hpattern
        simp [typed, readScalar, hpattern, isQuoted_quote, hquoted, hparts]

theorem excessDigits?_written (hpattern : op.isPattern = false) (t : List Char) :
    excessDigits? (written op t) = excessDigits? t := by
  rcases written_cases op t with ⟨heq, -⟩ | ⟨heq, -, hnumeric⟩
  · rw [heq]
  · have hparts : numberParts? t = none := by simpa [isNumeric] using hnumeric hpattern
    simp [heq, excessDigits?, isQuoted_quote, hparts]

/-- Scalars that were written are handed over as before. -/
theorem read_of_scalars (h : scalars op text = (scalars op raw).map (written op)) :
    values op text = values op raw ∧ excess? op text = excess? op raw := by
  constructor
  · rw [values_eq, values_eq, h, List.map_map]
    exact List.map_congr_left fun t _ => typed_written op t
  · cases hpattern : op.isPattern with
    | true => simp [excess?, hpattern]
    | false =>
        have hexcess : excessDigits? ∘ written op = excessDigits? :=
          funext (excessDigits?_written hpattern)
        simp [excess?, hpattern, h, List.findSome?_map, hexcess]

/-! ## Operands -/

/-- A value is written as `text`, which is written as it stands and read as the value is. -/
structure Fixed (op : ConditionOperator) (raw text : List Char) : Prop where
  format : format (some op) text = some text
  values : values op text = values op raw
  excess : excess? op text = excess? op raw

theorem TakesOne.fixed (h : TakesOne op raw) : Fixed op raw (written op (trim raw)) := by
  have htrim : trim (written op (trim raw)) = written op (trim raw) := trim_written (trim_trim raw)
  have hone : TakesOne op (written op (trim raw)) := by
    refine ⟨?_, h.scalar, fun hrange => ?_⟩
    · rw [htrim]
      exact written_ne_nil op (trim raw)
    · have hbounds := h.bounds hrange
      rw [← splitRange?_trim] at hbounds
      rcases written_cases op (trim raw) with ⟨heq, -⟩ | ⟨heq, -⟩
      · rw [heq, hbounds]
      · rw [heq, splitRange?_quote (trim_trim raw) hbounds]
  obtain ⟨hvalues, hexcess⟩ := @read_of_scalars op raw (written op (trim raw))
    (by rw [hone.scalars_eq, htrim, h.scalars_eq, List.map_singleton])
  exact ⟨by rw [hone.format_written, htrim, written_written], hvalues, hexcess⟩

/-- A bound that is no broken literal is found again once it is written. -/
theorem isBound_written (htrim : trim low = low)
    (hlow : low.head? ≠ some '\'' ∨ ∃ s, low = quote s) : IsBound (written op low) := by
  rcases written_cases op low with ⟨heq, hquoted | hnumeric⟩ | ⟨heq, -⟩
  · rw [heq]
    obtain ⟨inner, rfl⟩ := isQuoted_iff.mp hquoted
    exact .inl (hlow.resolve_left (by simp))
  · rw [heq]
    obtain ⟨p, -, hp⟩ := exists_parts htrim hnumeric
    exact hp.isBound
  · exact .inl ⟨low, heq⟩

theorem TakesTwo.fixed (h : TakesTwo op raw low high)
    (hlow : low.head? ≠ some '\'' ∨ ∃ s, low = quote s) :
    Fixed op raw (written op low ++ " AND ".toList ++ written op high) := by
  obtain ⟨htrimLow, htrimHigh⟩ := h.trim_eq
  have hbound : IsBound (written op low) := isBound_written htrimLow hlow
  have hhigh := @trim_written op high htrimHigh
  have hne := written_ne_nil op high
  have htwo := takesTwo_and h.range hbound hhigh hne
  obtain ⟨hvalues, hexcess⟩ :=
    @read_of_scalars op raw _ (by rw [htwo.scalars_eq, h.scalars_eq]; rfl)
  refine ⟨?_, hvalues, hexcess⟩
  rw [htwo.format_written, written_written, written_written, List.append_assoc]

/-- New parentheses around a list are taken off again before its items are read. -/
theorem fixed_list (hmember : op.isMembership = true) (hne : trim raw ≠ [])
    (h : format (some op) raw = some text) : Fixed op raw text := by
  rw [format_membership hmember hne] at h
  obtain ⟨htrim, hbody⟩ : trim text = text ∧ withoutParens text = withoutParens (trim raw) := by
    split at h
    · obtain rfl := Option.some.inj h
      exact ⟨trim_trim raw, rfl⟩
    · next hhead =>
        obtain rfl := Option.some.inj h
        have hopen : withoutParens (trim raw) = trim raw := by
          rw [Bool.not_eq_true] at hhead
          simp [withoutParens, hhead]
        exact ⟨trim_parens (trim raw), by rw [withoutParens_parens, hopen]⟩
  have hhead : text.head? = some '(' := by
    split at h
    · next hhead =>
        obtain rfl := Option.some.inj h
        exact beq_iff_eq.mp hhead
    · rw [← Option.some.inj h]
      rfl
  have hne' : trim text ≠ [] := by
    rw [htrim]
    rintro rfl
    simp at hhead
  have hscalars : scalars op text = scalars op raw := by
    rw [scalars_membership hmember hne', scalars_membership hmember hne, htrim, hbody]
  refine ⟨?_, by rw [values, values, hscalars], by rw [excess?, excess?, hscalars]⟩
  rw [format_membership hmember hne', htrim, hhead]
  rfl

/-- The low bound of a range, if there are two bounds, is no broken literal. -/
def HasSoundLow (op : ConditionOperator) (raw : List Char) : Prop :=
  ∀ low high, op.isRange = true → splitRange? raw = some (low, high) →
    low.head? ≠ some '\'' ∨ ∃ s, low = quote s

theorem fixed_of_format (h : format (some op) raw = some text) (hlow : HasSoundLow op raw) :
    Fixed op raw text := by
  have hnull : op.isNullability = false := by
    rw [Bool.eq_false_iff]
    intro hnull
    simp [format, hnull] at h
  have hne : trim raw ≠ [] := by
    intro hnil
    simp [format, hnil] at h
  cases hmember : op.isMembership with
  | true => exact fixed_list hmember hne h
  | false =>
      rcases takes_cases hne hnull hmember with hone | ⟨low, high, htwo⟩
      · obtain rfl := Option.some.inj (hone.format_written.symm.trans h)
        exact hone.fixed
      · obtain rfl := Option.some.inj (htwo.format_written.symm.trans h)
        rw [← List.append_assoc]
        exact htwo.fixed (hlow low high htwo.range htwo.bounds)

/-- Without a known operator a value is written as for an equality. -/
theorem format_none (raw : List Char) : format none raw = format (some .eq) raw := rfl

/-- What is written for a value is written as it stands, and read as the value is, unless the low
bound of a range is a broken literal. -/
theorem format_fixed {op : Option ConditionOperator} {raw text : List Char}
    (h : format op raw = some text) (hlow : ∀ o ∈ op, HasSoundLow o raw) :
    format op text = some text ∧
      ∀ o ∈ op, values o text = values o raw ∧ excess? o text = excess? o raw := by
  cases op with
  | none =>
      have hsound : HasSoundLow .eq raw := fun _ _ hrange => absurd hrange (by decide)
      rw [format_none] at h ⊢
      exact ⟨(fixed_of_format h hsound).format, by simp⟩
  | some op =>
      have hfixed := fixed_of_format h (hlow op rfl)
      refine ⟨hfixed.format, ?_⟩
      rintro o ⟨⟩
      exact ⟨hfixed.values, hfixed.excess⟩

theorem format_fixed_bounds :
    format (some .between) "it's and x AND y".toList = some "'it''s' AND 'x AND y'".toList ∧
    (∀ o ∈ some ConditionOperator.between, HasSoundLow o "it's and x AND y".toList) ∧
    format (some .between) "'it''s' AND 'x AND y'".toList =
      some "'it''s' AND 'x AND y'".toList ∧
    ∀ o ∈ some ConditionOperator.between,
      values o "'it''s' AND 'x AND y'".toList = values o "it's and x AND y".toList ∧
      excess? o "'it''s' AND 'x AND y'".toList = excess? o "it's and x AND y".toList := by
  have hformat : format (some .between) "it's and x AND y".toList =
      some "'it''s' AND 'x AND y'".toList := by decide
  have hlow : ∀ o ∈ some ConditionOperator.between, HasSoundLow o "it's and x AND y".toList := by
    rintro o ⟨⟩ low high - hbounds
    have hsplit : splitRange? "it's and x AND y".toList =
        some ("it's".toList, "x AND y".toList) := by decide
    obtain ⟨rfl, rfl⟩ := Prod.mk.inj (Option.some.inj (hsplit.symm.trans hbounds))
    exact .inl (by decide)
  exact ⟨hformat, hlow, format_fixed hformat hlow⟩

/-- The quotes of the high bound close the literal that the low bound leaves open. -/
example :
    format (some .between) "''' AND '' and 5".toList = some "''' AND ''''' and 5'".toList ∧
    splitRange? "''' AND ''''' and 5'".toList = some ("''' AND '''''".toList, "5'".toList) := by
  decide

end SelectQuery.Literal
