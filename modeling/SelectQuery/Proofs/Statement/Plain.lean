import SelectQuery.Proofs.Statement.Pieces

/-!
# Plain configurations

In a plain configuration every name is a plain word, nothing is joined, and every condition
compares a column with a text that has to be quoted (`IsPlain`). Behind its first word the
preview is tame (`tame_statement`), for so are its clauses, with line ends between them.
Parentheses of its own come in pairs, so it opens as many more than it closes as the values do
(`surplus_statement_plain`).
-/

namespace SelectQuery

open Screen Text

variable {ok : List Char → Prop}

namespace Configuration

/-- A configuration of plain names, without joins, and with values that are quoted. -/
structure IsPlain (c : Configuration String) : Prop where
  tables_ne : c.tables ≠ []
  tables : ∀ t ∈ c.tables, t.isPlain = true
  columns : ∀ x ∈ c.columns, x.isPlain = true
  joins : c.joins = []
  conditions : ∀ x ∈ c.conditions, x.isPlain = true
  groupBy : ∀ path ∈ c.groupBy, isPlainPath path = true
  orderBy : ∀ o ∈ c.orderBy, o.isPlain = true

/-- The values of the conditions, one behind the other. -/
def valueText (c : Configuration String) : String :=
  String.ofList (c.activeConditions.flatMap (·.value.toList))

end Configuration

/-! ## Clauses -/

theorem Screen.Breaks.separated {cs : List Char} (h : Breaks cs) : Separated cs := by
  intro c hc
  obtain rfl | rfl := h c hc <;> decide

namespace Clause

/-- A clause is its keyword, with a break behind it. -/
theorem exists_body (clause : Clause String) (hne : clause.separator.toList ≠ [])
    (hseparator : Separates clause.separator.toList)
    (hitems : ∀ item ∈ clause.items, Tame ok item.text.toList) :
    ∃ body, clause.text.toList = clause.keyword.toList ++ body ∧ Breaks body ∧ Tame ok body := by
  have hparts : ∀ s ∈ clause.items.map Item.text, Tame ok s.toList := by
    intro s hs
    obtain ⟨item, hitem, rfl⟩ := List.mem_map.mp hs
    exact hitems item hitem
  rw [Clause.text]
  split
  · have hlines : Tame ok (",\n  ".intercalate (clause.items.map Item.text)).toList :=
      .intercalate (by decide) (by decide) hparts
    refine ⟨"\n  ".toList ++ (",\n  ".intercalate (clause.items.map Item.text)).toList, ?_, ?_, ?_⟩
    · rw [String.toList_append, String.toList_append, List.append_assoc]
    · exact .lineEnd _
    · exact .separators_append (by decide) hlines
  · have hline : Tame ok (clause.separator.intercalate (clause.items.map Item.text)).toList :=
      .intercalate hne hseparator hparts
    refine ⟨" ".toList ++ (clause.separator.intercalate (clause.items.map Item.text)).toList,
      ?_, ?_, ?_⟩
    · rw [String.toList_append, String.toList_append, List.append_assoc]
    · exact .space _
    · exact .separators_append (by decide) hline

theorem tame (clause : Clause String) (hne : clause.separator.toList ≠ [])
    (hseparator : Separates clause.separator.toList)
    (hkeyword : Tame ok clause.keyword.toList)
    (hitems : ∀ item ∈ clause.items, Tame ok item.text.toList) : Tame ok clause.text.toList := by
  obtain ⟨body, hbody, hbreaks, htame⟩ := clause.exists_body hne hseparator hitems
  rw [hbody]
  exact hkeyword.append htame (.inl hbreaks.separated)

theorem sum_surplus_items {items : List (Item String)}
    (h : ∀ item ∈ items, Piece ok item.text.toList) :
    (items.map fun item => surplus item.text.toList).sum = 0 := by
  refine List.sum_eq_zero fun n hn => ?_
  obtain ⟨item, hitem, rfl⟩ := List.mem_map.mp hn
  exact (h item hitem).balanced

/-- A clause with its items side by side. -/
theorem piece {kind : ClauseKind} {keyword : String} {items : List (Item String)}
    (hkeyword : Piece ok keyword.toList) (hitems : ∀ item ∈ items, Piece ok item.text.toList) :
    Piece ok (⟨kind, keyword, items, ", ", false⟩ : Clause String).text.toList := by
  have hne : ", ".toList ≠ [] := by decide
  have hseparator : Separates ", ".toList := by decide
  have hsurplus := surplus_text (⟨kind, keyword, items, ", ", false⟩ : Clause String)
    (show surplus ", ".toList = 0 by decide)
  refine ⟨tame _ hne hseparator hkeyword.tame fun item hitem => (hitems item hitem).tame, ?_⟩
  rw [hsurplus, hkeyword.balanced, sum_surplus_items hitems, add_zero]

end Clause

namespace Configuration

variable {c : Configuration String}

/-- The keywords of the clauses behind `SELECT`. -/
theorem piece_keyword {keyword : String}
    (h : keyword ∈ ["FROM", "CROSS JOIN", "WHERE", "GROUP BY", "ORDER BY"]) :
    Piece ok keyword.toList := by
  have hwords : ∀ keyword ∈ ["FROM", "CROSS JOIN", "WHERE", "GROUP BY", "ORDER BY"],
      ∃ words ∈ [["FROM"], ["CROSS", "JOIN"], ["WHERE"], ["GROUP", "BY"], ["ORDER", "BY"]],
        keyword = " ".intercalate words ∧ ∀ s ∈ words, isPlainWord s.toList = true := by
    decide
  obtain ⟨words, -, rfl, hplain⟩ := hwords keyword h
  exact .words hplain

/-- The row limit is a number. -/
theorem piece_limit (m : ℕ) : Piece ok ("LIMIT".toList ++ ' ' :: Nat.toDigits 10 m) := by
  have hdigits : ∀ d ∈ Nat.toDigits 10 m, d.isDigit = true := fun d hd =>
    Nat.isDigit_of_mem_toDigits (by omega) (by omega) hd
  have hnumber : Tame ok (' ' :: (Nat.toDigits 10 m ++ [])) :=
    .number Nat.toDigits_ne_nil hdigits separated_nil .nil
  rw [List.append_nil] at hnumber
  have hparens : surplus (' ' :: Nat.toDigits 10 m) = 0 := by
    refine surplus_eq_zero (fun h => ?_) fun h => ?_
    · exact absurd (hdigits '(' ((List.mem_cons.mp h).resolve_left (by decide))) (by decide)
    · exact absurd (hdigits ')' ((List.mem_cons.mp h).resolve_left (by decide))) (by decide)
  have hword : isPlainWord "LIMIT".toList = true := by decide
  exact (Piece.word hword).append ⟨hnumber, hparens⟩ (.inl (.cons (by decide) _))

theorem piece_ordering (h : c.IsPlain) {o : Ordering String} (ho : o ∈ c.activeOrderings) :
    Piece ok (c.renderPath c.qualifies o.column ++ " " ++ o.direction.text).toList := by
  obtain ⟨hmem, hactive⟩ := List.mem_filter.mp ho
  have hplain := h.orderBy o hmem
  rw [Ordering.isPlain, Bool.and_eq_true] at hplain
  have hblank : isBlankEntry o.column = false := by
    rw [Bool.and_eq_true] at hactive
    simpa using hactive.2
  have hdirection : isPlainWord o.direction.text.toList = true := by
    cases hdirection : o.direction with
    | term t => cases t <;> decide
    | verbatim s => rw [hdirection] at hplain; exact absurd hplain.2 (by simp [Entered.term?])
  have hpath : Piece ok (c.renderPath c.qualifies o.column).toList :=
    piece_renderPath h.tables c.qualifies hplain.1 hblank
  have hordered := hpath.append (.separators [' '] (by decide) (.word hdirection))
    (.inl (.cons (by decide) _))
  simpa using hordered

/-- A clause is a piece unless it is the first one or holds the conditions. -/
theorem piece_of_writes (h : c.IsPlain) {kind : ClauseKind} {clause : Clause String}
    (hclause : c.Writes .preview kind clause) (hselect : kind ≠ .select) (hwhere : kind ≠ .where) :
    Piece ok clause.text.toList := by
  cases hclause with
  | select => exact absurd rfl hselect
  | filtered => exact absurd rfl hwhere
  | source ht | crossed ht =>
      exact Clause.piece (piece_keyword (by decide))
        (List.forall_mem_singleton.mpr (Table.piece_render (h.tables _ ht)))
  | joined hj => exact absurd (h.joins ▸ hj) List.not_mem_nil
  | grouped _ hitems =>
      refine Clause.piece (piece_keyword (by decide)) fun item hitem => ?_
      obtain ⟨path, hpath, hblank, rfl⟩ := hitems item hitem
      simp only [Item.text, Entry.text_string, Entry.ofText_string]
      exact piece_renderPath h.tables c.qualifies (h.groupBy path hpath) hblank
  | ordered _ hitems =>
      refine Clause.piece (piece_keyword (by decide)) fun item hitem => ?_
      obtain ⟨o, ho, rfl⟩ := hitems item hitem
      simp only [Item.text, Entry.text_string, Entry.ofText_string]
      exact piece_ordering h ho
  | limited hn hpos =>
      obtain ⟨m, rfl⟩ := Int.eq_ofNat_of_zero_le hpos.le
      have hshown : (toString (m : ℤ)).toList = Nat.toDigits 10 m := toList_toString m
      simpa [Clause.text, Item.text, ← hshown] using piece_limit m

theorem tame_predicates (h : ∀ t ∈ c.tables, t.isPlain = true) (xs : List (Condition String))
    (hxs : ∀ x ∈ xs, x.isPlain = true ∧ isBlankEntry x.column = false ∧ ok (trim x.value.toList))
    (isFirst : Bool) (start : ℕ) :
    (∀ p ∈ c.predicates .preview isFirst start xs, Tame ok p.text.toList) ∧
      surplusOf (c.predicates .preview isFirst start xs) =
        surplus (xs.flatMap (·.value.toList)) := by
  induction xs generalizing isFirst start with
  | nil => exact ⟨by simp [predicates], rfl⟩
  | cons x xs ih =>
      obtain ⟨⟨hx, hblank, hvalue⟩, hxs⟩ := List.forall_mem_cons.mp hxs
      obtain ⟨htame, hsurplus⟩ := tame_predicate h hx hblank hvalue isFirst start
      obtain ⟨hrest, hsum⟩ := ih hxs false (start + (x.bindings .preview).length)
      rw [predicates]
      refine ⟨List.forall_mem_cons.mpr ⟨htame, hrest⟩, ?_⟩
      rw [surplusOf] at hsum ⊢
      rw [List.map_cons, List.sum_cons, hsum, hsurplus, surplus_trim, List.flatMap_cons,
        surplus_append]

theorem tame_whereClauses {items : List Predicate} (h : ∀ p ∈ items, Tame ok p.text.toList) :
    ∀ clause ∈ clauseOf .where "WHERE" (items.map (.predicate (ν := String))) " ",
      Tame ok clause.text.toList := by
  intro clause hclause
  rw [clauseOf] at hclause
  split at hclause
  · simp at hclause
  · rw [List.mem_singleton.mp hclause]
    have hkeyword : Piece ok "WHERE".toList := piece_keyword (by decide)
    refine Clause.tame _ (show " ".toList ≠ [] by decide)
      (show Separates " ".toList by decide) hkeyword.tame ?_
    intro item hitem
    obtain ⟨p, hp, rfl⟩ := List.mem_map.mp hitem
    exact h p hp

/-- The select clause behind its first word. -/
theorem toList_selectClause_piece (h : c.IsPlain) (hday : ok truncationPrecision.toList) :
    ∃ back, c.selectClause.text.toList = "SELECT".toList ++ back ∧ Breaks back ∧ Piece ok back := by
  have hitems : ∀ item ∈ c.selectItems, Piece ok item.text.toList := by
    intro item hitem
    rw [selectItems] at hitem
    split at hitem
    · rw [List.mem_singleton.mp hitem]
      exact .separators ['*'] (by decide) ⟨.nil, rfl⟩
    · obtain ⟨x, hx, rfl⟩ := List.mem_map.mp hitem
      exact Column.piece_render h.tables hday (h.columns x hx)
  have hwords : ∃ more, c.selectClause.keyword.toList = "SELECT".toList ++ more ∧ Breaks more ∧
      Piece ok more := by
    have hword : isPlainWord "DISTINCT".toList = true := by decide
    cases hon : c.distinct.isOn with
    | true =>
        have hkeyword : c.selectClause.keyword = "SELECT DISTINCT" := by simp [selectClause, hon]
        refine ⟨' ' :: "DISTINCT".toList, by rw [hkeyword]; decide, .space _, ?_⟩
        exact .separators [' '] (by decide) (.word hword)
    | false =>
        have hkeyword : c.selectClause.keyword = "SELECT" := by simp [selectClause, hon]
        exact ⟨[], by rw [hkeyword]; decide, by simp [Breaks], .nil, rfl⟩
  obtain ⟨more, hmore, hbreaks, hpiece⟩ := hwords
  obtain ⟨body, hbody, hbodybreaks, hbodytame⟩ := c.selectClause.exists_body
    (show ", ".toList ≠ [] by decide) (show Separates ", ".toList by decide)
    fun item hitem => (hitems item hitem).tame
  have hsurplus := c.selectClause.surplus_text (show surplus ", ".toList = 0 by decide)
  have hsum : (c.selectClause.items.map fun item => surplus item.text.toList).sum = 0 :=
    Clause.sum_surplus_items hitems
  have hbalanced : surplus body = 0 := by
    rw [hbody, surplus_append, hsum, add_zero] at hsurplus
    omega
  refine ⟨more ++ body, by rw [hbody, hmore, List.append_assoc], hbreaks.append hbodybreaks, ?_⟩
  exact hpiece.append ⟨hbodytame, hbalanced⟩ (.inl hbodybreaks.separated)

/-! ## The preview -/

theorem isBlankEntry_of_active {x : Condition String} (hx : x ∈ c.activeConditions) :
    x ∈ c.conditions ∧ isBlankEntry x.column = false := by
  obtain ⟨hmem, hfilled⟩ := List.mem_filter.mp hx
  exact ⟨hmem, by simpa using hfilled⟩

/-- Behind its first word the preview of a plain configuration is tame. -/
theorem tame_statement (h : c.IsPlain) (hday : ok truncationPrecision.toList)
    (hvalues : ∀ x ∈ c.activeConditions, ok (trim x.value.toList)) :
    ∃ back, (c.statement .preview).text.toList = "SELECT".toList ++ back ∧ Breaks back ∧
      Tame ok back := by
  have hpredicates := (tame_predicates h.tables c.activeConditions (fun x hx =>
    have hactive := isBlankEntry_of_active hx
    ⟨h.conditions x hactive.1, hactive.2, hvalues x hx⟩) true 1).1
  have hclauses : ∀ clause ∈ (c.clauses .preview).tail, Tame ok clause.text.toList := by
    have htail : (c.clauses .preview).tail = ClauseKind.inOrder.tail.flatMap (c.part .preview) := by
      rw [clauses_eq_flatMap]
      rfl
    intro clause hclause
    rw [htail] at hclause
    obtain ⟨kind, hkind, hmem⟩ := List.mem_flatMap.mp hclause
    by_cases hwhere : kind = .where
    · subst hwhere
      exact tame_whereClauses hpredicates clause hmem
    · have hselect : kind ≠ .select := by
        rintro rfl
        exact absurd hkind (by decide)
      exact (piece_of_writes h (writes_of_mem_part hmem) hselect hwhere).tame
  obtain ⟨t, ts, htables⟩ := List.exists_cons_of_ne_nil h.tables_ne
  obtain ⟨next, others, hnext⟩ : ∃ next others, (c.clauses .preview).tail = next :: others := by
    rw [clauses, fromClauses, anchor?, htables]
    exact ⟨_, _, rfl⟩
  have hsplit : c.clauses .preview = c.selectClause :: next :: others := by
    rw [← hnext]
    rfl
  obtain ⟨back, hselect, hbreaks, hback⟩ := toList_selectClause_piece h hday
  rw [hnext] at hclauses
  have hbehind : Tame ok (Statement.mk (next :: others) []).text.toList := by
    refine .intercalate (by decide) (by decide) fun s hs => ?_
    obtain ⟨clause, hclause, rfl⟩ := List.mem_map.mp hs
    exact hclauses clause hclause
  refine ⟨back ++ '\n' :: (Statement.mk (next :: others) []).text.toList, ?_, ?_, ?_⟩
  · rw [statement, hsplit, Statement.toList_text_cons_cons _ _ _ _ [], hselect, List.append_assoc]
  · exact hbreaks.append (.lineEnd _)
  · exact hback.tame.append (.separator (by decide) hbehind) (.inl (.cons (by decide) _))

theorem sum_surplus_clauses (ok : List Char → Prop) {clauses : List (Clause String)}
    (h : ∀ clause ∈ clauses, Piece ok clause.text.toList) :
    (clauses.map fun clause => surplus clause.text.toList).sum = 0 := by
  refine List.sum_eq_zero fun n hn => ?_
  obtain ⟨clause, hclause, rfl⟩ := List.mem_map.mp hn
  exact (h clause hclause).balanced

/-- The preview of a plain configuration opens and closes the parentheses of its values. -/
theorem surplus_statement_plain (h : c.IsPlain) :
    surplus (c.statement .preview).text.toList = surplus c.valueText.toList := by
  let anything (_ : List Char) : Prop := True
  have hplain : ∀ x ∈ c.activeConditions, x.isPlain = true ∧ isBlankEntry x.column = false ∧
      anything (trim x.value.toList) := fun x hx =>
    have hactive := isBlankEntry_of_active hx
    ⟨h.conditions x hactive.1, hactive.2, trivial⟩
  have hpredicates := (tame_predicates h.tables c.activeConditions hplain true 1).2
  obtain ⟨back, hselect, -, hback⟩ :=
    toList_selectClause_piece h (show anything truncationPrecision.toList from trivial)
  have hfirst : surplus c.selectClause.text.toList = 0 := by
    rw [hselect, surplus_append, hback.balanced]
    decide
  have hpart (kind : ClauseKind) (hselect : kind ≠ .select) (hwhere : kind ≠ .where) :
      ((c.part .preview kind).map fun clause => surplus clause.text.toList).sum = 0 :=
    sum_surplus_clauses anything fun clause hclause =>
      piece_of_writes h (writes_of_mem_part hclause) hselect hwhere
  rw [Statement.surplus_text, statement, clauses_eq_flatMap]
  simp only [ClauseKind.inOrder, List.flatMap_cons, List.flatMap_nil, List.map_append,
    List.sum_append, hpart .from (by decide) (by decide), hpart .join (by decide) (by decide),
    hpart .groupBy (by decide) (by decide), hpart .orderBy (by decide) (by decide),
    hpart .limit (by decide) (by decide)]
  simp only [part, List.map_cons, List.map_nil, List.sum_cons, List.sum_nil, hfirst,
    sum_surplus_whereClauses, zero_add, add_zero]
  rw [whereItems, hpredicates, valueText, String.toList_ofList]

end Configuration
end SelectQuery
