import SelectQuery.Proofs.Literal.Operand
import SelectQuery.Proofs.Screen.Lexeme
import SelectQuery.Proofs.Statement.Screened

/-!
# Plain names in a query

Where every name is a plain word, what is written for a table, a column or a path is tame, and
opens as many parentheses as it closes (`Piece`): it is made of words, points and functions of
words. A condition that compares with a text is a piece too, except that the parentheses of the
text need not match (`tame_predicate`).
-/

namespace SelectQuery

open Screen Text

/-! ## Plain names -/

/-- Nothing, or a plain word. -/
def isPlainName (s : String) : Bool := s == "" || isPlainWord s.toList

def Table.isPlain (t : Table String) : Bool :=
  isPlainWord t.name.toList && isPlainName t.schema && t.aliasName.all isPlainName

/-- The star stands for all columns. -/
def Column.isPlain (x : Column String) : Bool :=
  (isPlainWord x.name.toList || x.name == wildcard) && isPlainName x.table &&
    x.aliasName.all isPlainName

/-- A blank path, or one to a column and a table with plain names. -/
def isPlainPath (path : String) : Bool :=
  isBlankEntry path || (ColumnPath.parse? path).any fun p =>
    isPlainWord p.column.toList && p.table.all (isPlainWord ·.toList)

/-- An operator that compares with one value or with a pattern. -/
def ConditionOperator.isComparison (op : ConditionOperator) : Bool :=
  !op.isNullability && !op.isMembership && !op.isRange

/-- A text that a condition has to put in quotes. -/
def Literal.needsQuotes (cs : List Char) : Bool :=
  !cs.isEmpty && !isQuoted cs && !isNumeric cs

def Condition.isPlain (x : Condition String) : Bool :=
  isPlainPath x.column && x.operator.term?.any (·.isComparison) &&
    Literal.needsQuotes (trim x.value.toList) && x.connector.all (·.term?.isSome)

def Ordering.isPlain (o : Ordering String) : Bool :=
  isPlainPath o.column && o.direction.term?.isSome

/-! ## Pieces -/

theorem surplus_cons (c : Char) (cs : List Char) : surplus (c :: cs) = surplus [c] + surplus cs :=
  surplus_append [c] cs

theorem surplus_quote (t : List Char) : surplus (Literal.quote t) = surplus t := by
  have hquotes : surplus ['\''] = 0 := rfl
  have hdoubled : surplus (Literal.doubleQuotes t) = surplus t := by
    induction t with
    | nil => rfl
    | cons c t ih =>
        by_cases hc : c = '\''
        · subst hc
          rw [Literal.doubleQuotes_quote, surplus_cons, surplus_cons '\'' (Literal.doubleQuotes t),
            surplus_cons '\'' t, hquotes, ih]
          omega
        · rw [Literal.doubleQuotes_cons hc, surplus_cons, surplus_cons c t, ih]
  rw [Literal.quote, surplus_append, surplus_cons, hdoubled, hquotes]
  omega

theorem surplus_trim (cs : List Char) : surplus (trim cs) = surplus cs := by
  obtain ⟨front, back, hsplit, hfront, hback⟩ := exists_trim cs
  have hblanks {ds : List Char} (hds : ∀ c ∈ ds, isBlank c = true) : surplus ds = 0 := by
    refine surplus_eq_zero (fun h => ?_) fun h => ?_
    · exact absurd (hds '(' h) (by decide)
    · exact absurd (hds ')' h) (by decide)
  have hsum : surplus cs = surplus front + (surplus (trim cs) + surplus back) := by
    rw [← surplus_append, ← surplus_append, ← hsplit]
  rw [hsum, hblanks hfront, hblanks hback]
  omega

/-- Tame text that opens as many parentheses as it closes. -/
structure Piece (ok : List Char → Prop) (cs : List Char) : Prop where
  tame : Tame ok cs
  balanced : surplus cs = 0

namespace Piece

variable {ok : List Char → Prop} {cs ds w : List Char}

theorem append (hcs : Piece ok cs) (hds : Piece ok ds)
    (hfits : Separated ds ∨ Tame.EndsOpen cs) : Piece ok (cs ++ ds) :=
  ⟨hcs.tame.append hds.tame hfits, by rw [surplus_append, hcs.balanced, hds.balanced, add_zero]⟩

theorem word (hw : isPlainWord w = true) : Piece ok w := by
  obtain ⟨c, rest, rfl, -, hchars, -⟩ := isPlainWord_cons hw
  refine ⟨.plainWord hw, surplus_eq_zero (fun h => ?_) fun h => ?_⟩
  · exact absurd (hchars '(' h) (by decide)
  · exact absurd (hchars ')' h) (by decide)

theorem words {words : List String} (hwords : ∀ s ∈ words, isPlainWord s.toList = true) :
    Piece ok (" ".intercalate words).toList := by
  refine ⟨.plainWords hwords, ?_⟩
  rw [surplus_intercalate (by decide)]
  refine List.sum_eq_zero fun n hn => ?_
  obtain ⟨s, hs, rfl⟩ := List.mem_map.mp hn
  exact (word (hwords s hs) : Piece ok s.toList).balanced

theorem qualified (hw : isPlainWord w = true) (h : Piece ok cs) : Piece ok (w ++ '.' :: cs) := by
  refine ⟨.qualified hw h.tame, ?_⟩
  rw [surplus_append, surplus_cons, (word hw : Piece ok w).balanced, h.balanced]
  rfl

/-- Blanks, commas and stars. -/
theorem separators (ds : List Char) (hds : Separates ds ∧ surplus ds = 0) (h : Piece ok cs) :
    Piece ok (ds ++ cs) :=
  ⟨.separators_append hds.1 h.tame, by rw [surplus_append, hds.2, h.balanced, add_zero]⟩

theorem parenthesized (h : Piece ok cs) : Piece ok ('(' :: (cs ++ [')'])) := by
  have hclose : Tame ok (cs ++ [')']) :=
    h.tame.append (.separator (by decide) .nil) (.inl (.cons (by decide) []))
  refine ⟨.separator (by decide) hclose, ?_⟩
  rw [surplus_cons, surplus_append, h.balanced]
  rfl

theorem aliased (h : Piece ok cs) (hw : isPlainWord w = true) :
    Piece ok (cs ++ " AS ".toList ++ w) := by
  have hbehind : Piece ok (' ' :: ("AS".toList ++ ' ' :: w)) :=
    separators [' '] (by decide) <|
      (word (show isPlainWord "AS".toList = true by decide)).append
        (separators [' '] (by decide) (word hw)) (.inl (.cons (by decide) w))
  have hsplit : cs ++ " AS ".toList ++ w = cs ++ ' ' :: ("AS".toList ++ ' ' :: w) := by simp
  rw [hsplit]
  exact h.append hbehind (.inl (.cons (by decide) _))

end Piece

/-! ## Names in a query -/

variable {ok : List Char → Prop}

theorem isPlainWord_of_present? {v : Option String} (h : v.all isPlainName = true) {a : String}
    (ha : Entry.present? v = some a) : isPlainWord a.toList = true := by
  obtain ⟨rfl, hpresent⟩ := Option.filter_eq_some_iff.mp ha
  have hname : isPlainName a = true := h
  rw [isPlainName, Bool.or_eq_true] at hname
  refine hname.resolve_left fun hempty => ?_
  rw [Entry.isPresent_string, beq_iff_eq.mp hempty] at hpresent
  exact absurd hpresent (by decide)

theorem Table.piece_render {t : Table String} (h : t.isPlain = true) :
    Piece ok t.render.toList := by
  simp only [isPlain, Bool.and_eq_true] at h
  obtain ⟨⟨hname, hschema⟩, halias⟩ := h
  have hqualified : Piece ok t.qualifiedName.toList := by
    rw [qualifiedName]
    split
    · next hpresent =>
        have hword : isPlainWord t.schema.toList = true :=
          isPlainWord_of_present? (v := some t.schema) hschema
            (by simpa [Entry.present?] using hpresent)
        simpa using Piece.qualified hword (.word hname)
    · exact .word hname
  rw [render]
  split
  · next a ha => simpa using hqualified.aliased (isPlainWord_of_present? halias ha)
  · exact hqualified

namespace Configuration

variable {c : Configuration String}

/-- What a reference stands for is the reference itself, or the alias of a table. -/
theorem qualifier_plain (h : ∀ t ∈ c.tables, t.isPlain = true) (reference schema : String) :
    c.qualifier reference schema = reference ∨
      isPlainWord (c.qualifier reference schema).toList = true := by
  refine (c.qualifier_eq_or reference schema).imp_right ?_
  rintro ⟨t, ht, halias⟩
  have hplain := h t ht
  simp only [Table.isPlain, Bool.and_eq_true] at hplain
  exact isPlainWord_of_present? hplain.2 halias

theorem piece_renderPath (h : ∀ t ∈ c.tables, t.isPlain = true) (qualify : Bool) {path : String}
    (hpath : isPlainPath path = true) (hblank : isBlankEntry path = false) :
    Piece ok (c.renderPath qualify path).toList := by
  rw [isPlainPath, hblank, Bool.false_or, Option.any_eq_true] at hpath
  obtain ⟨p, hp, hplain⟩ := hpath
  rw [Bool.and_eq_true] at hplain
  cases htable : p.table with
  | none =>
      have hrender : c.renderPath qualify path = p.column := by simp [renderPath, hp, htable]
      rw [hrender]
      exact .word hplain.1
  | some t =>
      have ht : isPlainWord t.toList = true := by simpa [htable] using hplain.2
      cases qualify with
      | false =>
          have hrender : c.renderPath false path = p.column := by simp [renderPath, hp, htable]
          rw [hrender]
          exact .word hplain.1
      | true =>
          have hqualifier : isPlainWord (c.qualifier t (p.schema.getD "")).toList = true :=
            (qualifier_plain h t _).elim (fun heq => heq.symm ▸ ht) id
          have hrender : (c.renderPath true path).toList =
              (c.qualifier t (p.schema.getD "")).toList ++ '.' :: p.column.toList := by
            simp [renderPath, hp, htable]
          rw [hrender]
          exact .qualified hqualifier (.word hplain.1)

end Configuration

/-! ## Selected columns -/

namespace Piece

variable {cs w : List Char}

/-- A function applied to something. -/
theorem called (hw : isPlainWord w = true) (h : Piece ok cs) :
    Piece ok (w ++ '(' :: (cs ++ [')'])) :=
  (word hw).append h.parenthesized (.inl (.cons (by decide) _))

/-- A word, a blank, and something else. -/
theorem spaced (hw : isPlainWord w = true) (h : Piece ok cs) : Piece ok (w ++ ' ' :: cs) :=
  (word hw).append (separators [' '] (by decide) h) (.inl (.cons (by decide) _))

theorem literal {t : List Char} (ht : ok t) (hbalanced : surplus t = 0) (hsep : Separated cs)
    (h : Piece ok cs) : Piece ok (Literal.quote t ++ cs) :=
  ⟨.literal ht hsep h.tame, by rw [surplus_append, surplus_quote, hbalanced, h.balanced, add_zero]⟩

end Piece

theorem AggregateFunction.piece_apply (f : AggregateFunction) (isWildcard : Bool)
    {expression : String} (hday : ok truncationPrecision.toList)
    (h : Piece ok expression.toList) : Piece ok (f.apply isWildcard expression).toList := by
  have hword (f : AggregateFunction) : isPlainWord f.word.toList = true := by
    cases f <;> decide
  have hcalled (f : AggregateFunction) :
      Piece ok (f.word ++ "(" ++ expression ++ ")").toList := by
    simpa using Piece.called (hword f) h
  cases f with
  | dateTrunc =>
      have hbehind : Piece ok (',' :: ' ' :: expression.toList) :=
        .separators [',', ' '] (by decide) h
      have hinside := Piece.called (hword .dateTrunc)
        (.literal hday (by decide) (.cons (by decide) _) hbehind)
      have htext : (AggregateFunction.dateTrunc.apply isWildcard expression).toList =
          "DATE_TRUNC".toList ++ '(' :: (Literal.quote truncationPrecision.toList ++
            ',' :: ' ' :: expression.toList ++ [')']) := by
        have hquoted : Literal.quote truncationPrecision.toList = "'day'".toList := by decide
        rw [hquoted]
        simp [apply.eq_def, truncationPrecision]
      rw [htext]
      exact hinside
  | extract =>
      have hpart : isPlainWord extractedPart.toList = true := by decide
      have hfrom : isPlainWord "FROM".toList = true := by decide
      simpa [apply.eq_def, AggregateFunction.word] using
        Piece.called (hword .extract) (.spaced hpart (.spaced hfrom h))
  | count =>
      cases isWildcard with
      | true =>
          have hstar : Piece ok ['*'] := .separators ['*'] (by decide) ⟨.nil, rfl⟩
          simpa [apply.eq_def, AggregateFunction.word] using Piece.called (hword .count) hstar
      | false => exact hcalled .count
  | _ => exact hcalled _

theorem Column.piece_render {c : Configuration String} (h : ∀ t ∈ c.tables, t.isPlain = true)
    (hday : ok truncationPrecision.toList) {x : Column String} (hx : x.isPlain = true) :
    Piece ok (x.render (c.qualifier x.table x.schema)).toList := by
  simp only [isPlain, Bool.and_eq_true] at hx
  obtain ⟨⟨hname, htable⟩, halias⟩ := hx
  have hcolumn : Piece ok x.name.toList := by
    rw [Bool.or_eq_true] at hname
    rcases hname with hword | hstar
    · exact .word hword
    · rw [beq_iff_eq.mp hstar]
      exact .separators ['*'] (by decide) ⟨.nil, rfl⟩
  have hqualified : Piece ok (x.qualified (c.qualifier x.table x.schema)).toList := by
    rw [qualified]
    split
    · next hpresent =>
        have hword : isPlainWord (c.qualifier x.table x.schema).toList = true := by
          rcases Configuration.qualifier_plain h x.table x.schema with heq | hword
          · rw [heq] at hpresent ⊢
            exact isPlainWord_of_present? (v := some x.table) htable
              (by simpa [Entry.present?] using hpresent)
          · exact hword
        simpa using Piece.qualified hword hcolumn
    · exact hcolumn
  have happlied : Piece ok (x.applied (c.qualifier x.table x.schema)).toList := by
    rw [applied]
    split
    · next f _ => exact f.piece_apply _ hday hqualified
    · exact hqualified
  rw [render]
  split
  · next a ha => simpa using happlied.aliased (isPlainWord_of_present? halias ha)
  · exact happlied

/-! ## Conditions -/

/-- In front of a separator a piece adds nothing to the surplus. -/
theorem Piece.before {cs ds : List Char} (hcs : Piece ok cs) (hds : Tame ok ds)
    (hsep : Separated ds) : Tame ok (cs ++ ds) ∧ surplus (cs ++ ds) = surplus ds :=
  ⟨hcs.tame.append hds (.inl hsep), by rw [surplus_append, hcs.balanced, zero_add]⟩

/-- A comparison is written as a sign or with words. -/
theorem ConditionOperator.word_cases {op : ConditionOperator} (h : op.isComparison = true) :
    op.word ∈ comparisons ∨ ∃ words : List String, op.word = " ".intercalate words ∧
      ∀ s ∈ words, isPlainWord s.toList = true := by
  cases op with
  | like => exact .inr ⟨["LIKE"], by decide, by decide⟩
  | ilike => exact .inr ⟨["ILIKE"], by decide, by decide⟩
  | notLike => exact .inr ⟨["NOT", "LIKE"], by decide, by decide⟩
  | notIlike => exact .inr ⟨["NOT", "ILIKE"], by decide, by decide⟩
  | isIn | notIn | isNull | isNotNull | between | notBetween => exact absurd h (by decide)
  | _ => exact .inl (by decide)

namespace Condition

variable {x : Condition String}

theorem operand?_of_isPlain (hx : x.isPlain = true) (start : ℕ) :
    x.operand? .preview start =
      some (.written (String.ofList (Literal.quote (trim x.value.toList)))) := by
  simp only [isPlain, Literal.needsQuotes, Bool.and_eq_true, Bool.not_eq_true',
    Option.any_eq_true] at hx
  obtain ⟨⟨⟨-, op, hop, hcompares⟩, ⟨hpresent, hquoted⟩, hnumeric⟩, -⟩ := hx
  simp only [ConditionOperator.isComparison, Bool.and_eq_true, Bool.not_eq_true'] at hcompares
  have htakes : Literal.TakesOne op x.value.toList :=
    ⟨by simpa using hpresent, hcompares.1, fun h => by simp [hcompares.2] at h⟩
  have hformat : Literal.format (some op) x.value.toList =
      some (Literal.quote (trim x.value.toList)) := by
    rw [htakes.format_eq, Literal.formatScalar, hquoted, hnumeric]
    simp
  simp [operand?, isInline_preview, hop, Entry.chars, hformat]

/-- A comparison as it is written. -/
def compared (path : String) (op : ConditionOperator) (t : List Char) : List Char :=
  path.toList ++ ' ' :: (op.word.toList ++ ' ' :: Literal.quote t)

theorem tame_compared {path : String} (hpath : Piece ok path.toList) {op : ConditionOperator}
    (hop : op.isComparison = true) {t : List Char} (ht : ok t) :
    Tame ok (compared path op t) ∧ surplus (compared path op t) = surplus t := by
  have hliteral : Tame ok (Literal.quote t) := by
    have hquoted : Tame ok (Literal.quote t ++ []) := .literal ht separated_nil .nil
    rwa [List.append_nil] at hquoted
  have hoperator : Tame ok (op.word.toList ++ ' ' :: Literal.quote t) := by
    rcases op.word_cases hop with hsign | ⟨words, hwords, hplain⟩
    · exact .sign hsign hliteral
    · rw [hwords]
      exact (Tame.plainWords hplain).append (.separator (by decide) hliteral)
        (.inl (.cons (by decide) _))
  have hword : surplus op.word.toList = 0 := by cases op <;> decide
  have hblank : surplus [' '] = 0 := rfl
  have hspaced : Tame ok (' ' :: (op.word.toList ++ ' ' :: Literal.quote t)) :=
    .separator (by decide) hoperator
  obtain ⟨htame, hsurplus⟩ := hpath.before hspaced (.cons (by decide) _)
  refine ⟨htame, ?_⟩
  rw [compared, hsurplus, surplus_cons, surplus_append, surplus_cons ' ' (Literal.quote t), hword,
    hblank, surplus_quote]
  omega

/-- The item of a condition, with or without a connector in front. -/
theorem toList_predicate {c : Configuration String} (hx : x.isPlain = true) (isFirst : Bool)
    (start : ℕ) : ∃ op : ConditionOperator, op.isComparison = true ∧
      (c.predicate .preview isFirst start x).text.toList =
        (if isFirst then [] else x.connectorText.toList ++ [' ']) ++
          compared (c.renderPath c.qualifies x.column) op (trim x.value.toList) := by
  have hoperand := operand?_of_isPlain hx start
  simp only [isPlain, Bool.and_eq_true, Option.any_eq_true] at hx
  obtain ⟨⟨⟨-, op, hop, hcompares⟩, -⟩, -⟩ := hx
  have hoperator : x.operator.text = op.word := by
    cases hx : x.operator with
    | verbatim s => rw [hx] at hop; cases hop
    | term op' => rw [hx] at hop; rw [Option.some.inj hop]; rfl
  refine ⟨op, hcompares, ?_⟩
  cases isFirst <;>
    simp [Configuration.predicate, Predicate.text, hoperand, hoperator, Operand.text, compared]

theorem isPlainWord_connectorText (hx : x.isPlain = true) :
    isPlainWord x.connectorText.toList = true := by
  have hword (k : LogicalOperator) : isPlainWord k.word.toList = true := by
    cases k <;> decide
  simp only [isPlain, Bool.and_eq_true] at hx
  have hconnector := hx.2
  rw [connectorText]
  cases hk : x.connector with
  | none => exact hword .and
  | some k =>
      cases k with
      | term k => exact hword k
      | verbatim s => simp [hk, Entered.term?] at hconnector

end Condition

namespace Configuration

variable {c : Configuration String}

theorem tame_predicate (h : ∀ t ∈ c.tables, t.isPlain = true) {x : Condition String}
    (hx : x.isPlain = true) (hblank : isBlankEntry x.column = false)
    (hvalue : ok (trim x.value.toList)) (isFirst : Bool) (start : ℕ) :
    Tame ok (c.predicate .preview isFirst start x).text.toList ∧
      surplus (c.predicate .preview isFirst start x).text.toList =
        surplus (trim x.value.toList) := by
  obtain ⟨op, hop, htext⟩ := Condition.toList_predicate (c := c) hx isFirst start
  have hcolumn : isPlainPath x.column = true := by
    simp only [Condition.isPlain, Bool.and_eq_true] at hx
    exact hx.1.1.1
  obtain ⟨htame, hsurplus⟩ :=
    Condition.tame_compared (piece_renderPath h c.qualifies hcolumn hblank) hop hvalue
  rw [htext]
  cases isFirst with
  | true =>
      rw [if_pos rfl, List.nil_append]
      exact ⟨htame, hsurplus⟩
  | false =>
      have hspaced : Tame ok (' ' :: Condition.compared (c.renderPath c.qualifies x.column) op
          (trim x.value.toList)) := .separator (by decide) htame
      have hconnector : Piece ok x.connectorText.toList :=
        .word (Condition.isPlainWord_connectorText hx)
      obtain ⟨hwhole, hadded⟩ := hconnector.before hspaced (.cons (by decide) _)
      rw [if_neg (by decide), List.append_assoc, List.singleton_append]
      refine ⟨hwhole, ?_⟩
      rw [hadded, surplus_cons, hsurplus]
      exact zero_add _

end Configuration

end SelectQuery
