import SelectQuery.Proofs.ColumnPath
import SelectQuery.Proofs.Configuration.Loaded
import SelectQuery.Proofs.Literal.Characters
import SelectQuery.Proofs.Statement.Modes
import SelectQuery.Proofs.Statement.Screened

/-!
# The one line layout

A statement has a layout of several lines, for reading, and one of a single line, for use inside
of another statement. As long as no line ends within an item, the two tell the same: the single
line is what is left of the other layout when the indentations and line ends are taken for
spaces (`inlineText_preview`).

Line ends between the clauses have a keyword behind them, and the ones in front of the selected
columns an indentation (`Clause.IsTidy`). So no indentation is mistaken for one, whatever the
items begin with. What remains is that no character of an item ends a line, and an item is made
of the entries of the configuration with words and punctuation between them.
-/

namespace SelectQuery

open Text

/-! ## Taking line ends for spaces -/

namespace Text

/-- Takes a line end with an indentation by two for a space. -/
def unindented : List Char → List Char
  | '\n' :: ' ' :: ' ' :: rest => ' ' :: unindented rest
  | c :: rest => c :: unindented rest
  | [] => []

/-- Takes the line ends that have an indentation for a space with it, and then all others. -/
def unbroken (cs : List Char) : List Char :=
  (unindented cs).map fun c => if c = '\n' then ' ' else c

variable {line rest : List Char}

theorem unbroken_cons {c : Char} (hc : c ≠ '\n') (rest : List Char) :
    unbroken (c :: rest) = c :: unbroken rest := by
  rw [unbroken, unindented]
  · simp [unbroken, hc]
  · exact fun _ h => absurd h hc

@[simp] theorem unbroken_nil : unbroken [] = [] := rfl

theorem unbroken_append (h : '\n' ∉ line) (rest : List Char) :
    unbroken (line ++ rest) = line ++ unbroken rest := by
  induction line with
  | nil => rfl
  | cons c line ih =>
      rw [List.mem_cons, not_or] at h
      rw [List.cons_append, unbroken_cons (Ne.symm h.1), ih h.2]
      rfl

theorem unbroken_indented (rest : List Char) :
    unbroken ('\n' :: ' ' :: ' ' :: rest) = ' ' :: unbroken rest := rfl

theorem unbroken_lineEnd {c : Char} (hc : c ≠ ' ') (rest : List Char) :
    unbroken ('\n' :: c :: rest) = ' ' :: unbroken (c :: rest) := by
  rw [unbroken, unindented]
  · rfl
  · exact fun _ _ h => absurd (List.cons.inj h).1 hc

/-- Lines with a comma and an indentation between them. -/
theorem unbroken_intercalate {lines : List (List Char)} (h : ∀ line ∈ lines, '\n' ∉ line)
    (rest : List Char) :
    unbroken (",\n  ".toList.intercalate lines ++ rest) =
      ", ".toList.intercalate lines ++ unbroken rest := by
  induction lines with
  | nil => rfl
  | cons line lines ih =>
      obtain ⟨hline, hlines⟩ := List.forall_mem_cons.mp h
      cases lines with
      | nil => simpa using unbroken_append hline rest
      | cons next lines =>
          rw [List.intercalate_cons_cons, List.intercalate_cons_cons]
          simp only [List.append_assoc]
          rw [unbroken_append hline, ← ih hlines]
          rfl

end Text

/-! ## Texts of one line -/

/-- A text in which no line ends. -/
def IsLine (s : String) : Prop := '\n' ∉ s.toList

instance (s : String) : Decidable (IsLine s) := inferInstanceAs (Decidable (_ ∉ _))

@[simp] theorem isLine_append {s t : String} : IsLine (s ++ t) ↔ IsLine s ∧ IsLine t := by
  simp [IsLine]

theorem isLine_intercalate {separator : String} (hseparator : IsLine separator)
    {parts : List String} (h : ∀ part ∈ parts, IsLine part) :
    IsLine (separator.intercalate parts) := by
  have hparts : ∀ piece ∈ parts.map String.toList, ∀ c ∈ piece, c ≠ '\n' :=
    List.forall_mem_map.mpr fun part hpart c hc => ne_of_mem_of_not_mem hc (h part hpart)
  have hjoined := forall_mem_intercalate
    (fun c hc => ne_of_mem_of_not_mem hc hseparator) hparts
  rw [IsLine, String.toList_intercalate]
  exact fun hmem => hjoined _ hmem rfl

theorem isLine_of_isIdentifier {s : String} (h : ColumnPath.isIdentifier s.toList = true) :
    IsLine s :=
  fun hmem => absurd (ColumnPath.isInner_of_mem h _ hmem) (by decide)

theorem isLine_toString (n : ℤ) (hn : 0 < n) : IsLine (toString n) := by
  obtain ⟨m, rfl⟩ := Int.eq_ofNat_of_zero_le hn.le
  have hdigits : ∀ d ∈ (toString (m : ℤ)).toList, d.isDigit = true := fun _ hd =>
    isDigit_of_mem_toString (n := m) hd
  exact fun hmem => absurd (hdigits _ hmem) (by decide)

/-! ## Clauses -/

variable {ν : Type} [Entry ν]

/-- A word on a line that does not begin with a space. -/
def isKeyword (s : String) : Bool := s.toList.head?.any (· != ' ') && !s.toList.contains '\n'

theorem exists_of_isKeyword {s : String} (h : isKeyword s = true) :
    ∃ c rest, s.toList = c :: rest ∧ c ≠ ' ' := by
  rw [isKeyword, Bool.and_eq_true] at h
  cases hs : s.toList with
  | nil => simp [hs] at h
  | cons c rest => exact ⟨c, rest, rfl, by simpa [hs] using h.1⟩

theorem isLine_of_isKeyword {s : String} (h : isKeyword s = true) : IsLine s := by
  rw [isKeyword, Bool.and_eq_true] at h
  simpa [IsLine] using h.2

/-- A clause in which a line ends only where its layout says so. -/
structure Clause.IsTidy (clause : Clause ν) : Prop where
  keyword : isKeyword clause.keyword = true
  separator : IsLine clause.separator
  /-- On a single line, what stands on lines of its own is separated by commas. -/
  listed : clause.multiline = true → clause.separator = ", "
  items : ∀ item ∈ clause.items, IsLine item.text

namespace Clause.IsTidy

/-- A clause on one line. -/
theorem oneLine {kind : ClauseKind} {keyword separator : String} {items : List (Item ν)}
    (hkeyword : isKeyword keyword = true) (hseparator : IsLine separator)
    (hitems : ∀ item ∈ items, IsLine item.text) :
    Clause.IsTidy ⟨kind, keyword, items, separator, false⟩ :=
  ⟨hkeyword, hseparator, fun hmultiline => absurd hmultiline (by simp), hitems⟩

variable {clause : Clause ν} (h : clause.IsTidy)
include h

theorem unbroken_text (rest : List Char) :
    unbroken (clause.text.toList ++ rest) = clause.inlineText.toList ++ unbroken rest := by
  have hitems : ∀ s ∈ clause.items.map Item.text, IsLine s := List.forall_mem_map.mpr h.items
  rw [text, inlineText]
  split
  · next hmultiline =>
      have hlines := unbroken_intercalate (List.forall_mem_map.mpr hitems) rest
      rw [h.listed hmultiline]
      simp only [String.toList_append, String.toList_intercalate, List.append_assoc]
      rw [unbroken_append (isLine_of_isKeyword h.keyword)]
      congr 1
      exact (unbroken_indented _).trans (congrArg _ hlines)
  · refine unbroken_append ?_ rest
    exact isLine_append.mpr ⟨isLine_append.mpr ⟨isLine_of_isKeyword h.keyword, by decide⟩,
      isLine_intercalate h.separator hitems⟩

/-- What begins with a clause begins with its keyword. -/
theorem exists_text (others : List (Clause ν)) (params : List (String × Literal)) :
    ∃ c back, (Statement.mk (clause :: others) params).text.toList = c :: back ∧ c ≠ ' ' := by
  obtain ⟨c, word, hkeyword, hc⟩ := exists_of_isKeyword h.keyword
  obtain ⟨tail, -, htail⟩ := Statement.toList_text_cons clause others params
  have htext : ∃ back, clause.text.toList = c :: back := by
    rw [text]
    split
    · rw [String.toList_append, String.toList_append, hkeyword]
      exact ⟨_, rfl⟩
    · rw [String.toList_append, String.toList_append, hkeyword]
      exact ⟨_, rfl⟩
  obtain ⟨back, hback⟩ := htext
  exact ⟨c, back ++ tail, by rw [htail, hback]; rfl, hc⟩

end Clause.IsTidy

namespace Statement

theorem toList_inlineText_cons_cons (first next : Clause ν) (others : List (Clause ν))
    (params : List (String × Literal)) :
    (Statement.mk (first :: next :: others) params).inlineText.toList =
      first.inlineText.toList ++
        ' ' :: (Statement.mk (next :: others) params).inlineText.toList := by
  simp only [inlineText, List.map_cons]
  rw [String.intercalate_cons_cons, String.toList_append, String.toList_append, List.append_assoc]
  rfl

/-- The layout on a single line is the other one with spaces for its line ends. -/
theorem inlineText_eq {clauses : List (Clause ν)} (h : ∀ clause ∈ clauses, clause.IsTidy)
    (params : List (String × Literal)) :
    (Statement.mk clauses params).inlineText.toList =
      unbroken (Statement.mk clauses params).text.toList := by
  induction clauses with
  | nil => rfl
  | cons first others ih =>
      obtain ⟨hfirst, hothers⟩ := List.forall_mem_cons.mp h
      cases others with
      | nil => simpa [inlineText, text] using (hfirst.unbroken_text []).symm
      | cons next others =>
          obtain ⟨c, back, hnext, hc⟩ :=
            (hothers next (List.mem_cons_self ..)).exists_text others params
          rw [toList_inlineText_cons_cons, ih hothers,
            toList_text_cons_cons first next others params params, hfirst.unbroken_text, hnext,
            unbroken_lineEnd hc]

end Statement

/-! ## Items -/

section Items

variable {c : Configuration String}

/-- No entry of a configuration, and no word in the place of an operator, a connector or a
direction, has a line that ends in it. -/
structure Configuration.IsOfLines (c : Configuration String) : Prop where
  tables : ∀ t ∈ c.tables, ∀ s ∈ t.entries, IsLine s
  columns : ∀ x ∈ c.columns, ∀ s ∈ x.entries, IsLine s
  joins : ∀ j ∈ c.joins, ∀ s ∈ j.entries, IsLine s
  conditions : ∀ x ∈ c.conditions, (∀ s ∈ x.entries, IsLine s) ∧ IsLine x.operator.text ∧
    ∀ k ∈ x.connector, IsLine k.text
  groupBy : ∀ path ∈ c.groupBy, IsLine path
  orderBy : ∀ o ∈ c.orderBy, IsLine o.column ∧ IsLine o.direction.text

theorem isLine_present? {v : Option String} (h : ∀ s ∈ v, IsLine s) {a : String}
    (ha : Entry.present? v = some a) : IsLine a := h a (Option.filter_eq_some_iff.mp ha).1

theorem Table.isLine_render {t : Table String} (h : ∀ s ∈ t.entries, IsLine s) :
    IsLine t.render := by
  obtain ⟨hname, hschema, halias⟩ := forall_entries.mp h
  have hqualified : IsLine t.qualifiedName := by
    rw [qualifiedName]
    split
    · simp only [Entry.text_string, Entry.ofText_string, isLine_append]
      exact ⟨⟨hschema, by decide⟩, hname⟩
    · exact hname
  rw [render]
  split
  · next a ha =>
      simp only [Entry.text_string, Entry.ofText_string, isLine_append]
      exact ⟨⟨hqualified, by decide⟩, isLine_present? halias ha⟩
  · exact hqualified

theorem AggregateFunction.isLine_apply (f : AggregateFunction) (isWildcard : Bool)
    {expression : String} (h : IsLine expression) : IsLine (f.apply isWildcard expression) := by
  have hword (f : AggregateFunction) : IsLine f.word := by cases f <;> decide
  have hcalled (f : AggregateFunction) : IsLine (f.word ++ "(" ++ expression ++ ")") := by
    simp only [isLine_append]
    exact ⟨⟨⟨hword f, by decide⟩, h⟩, by decide⟩
  cases f with
  | dateTrunc =>
      show IsLine ("DATE_TRUNC('" ++ truncationPrecision ++ "', " ++ expression ++ ")")
      simp only [isLine_append]
      exact ⟨⟨by decide, h⟩, by decide⟩
  | extract =>
      show IsLine ("EXTRACT(" ++ extractedPart ++ " FROM " ++ expression ++ ")")
      simp only [isLine_append]
      exact ⟨⟨by decide, h⟩, by decide⟩
  | count =>
      cases isWildcard with
      | true => exact (by decide : IsLine "COUNT(*)")
      | false => exact hcalled .count
  | _ => exact hcalled _

theorem Column.isLine_render {x : Column String} (h : ∀ s ∈ x.entries, IsLine s)
    {qualifier : String} (hqualifier : IsLine qualifier) : IsLine (x.render qualifier) := by
  obtain ⟨-, hname, -, halias, -⟩ := forall_entries.mp h
  have hqualified : IsLine (x.qualified qualifier) := by
    rw [qualified]
    split
    · simp only [Entry.text_string, Entry.ofText_string, isLine_append]
      exact ⟨⟨hqualifier, by decide⟩, hname⟩
    · exact hname
  have happlied : IsLine (x.applied qualifier) := by
    rw [applied]
    split
    · next f _ => exact f.isLine_apply _ hqualified
    · exact hqualified
  rw [render]
  split
  · next a ha =>
      simp only [Entry.text_string, Entry.ofText_string, isLine_append]
      exact ⟨⟨happlied, by decide⟩, isLine_present? halias ha⟩
  · exact happlied

theorem Condition.isLine_operand {x : Condition String} (h : IsLine x.value) {start : ℕ}
    {operand : Operand} (hoperand : x.operand? .preview start = some operand) :
    IsLine operand.text := by
  simp only [operand?, isInline_preview, if_true] at hoperand
  obtain ⟨cs, hformat, rfl⟩ := Option.map_eq_some_iff.mp hoperand
  rw [Operand.text, IsLine, String.toList_ofList]
  intro hmem
  rcases Literal.mem_format hformat hmem with hvalue | hmark
  · exact h hvalue
  · exact absurd hmark (by decide)

namespace Configuration.IsOfLines

variable (h : c.IsOfLines)
include h

theorem qualifier {reference : String} (hreference : IsLine reference) (schema : String) :
    IsLine (c.qualifier reference schema) := by
  rcases c.qualifier_eq_or reference schema with hkept | ⟨t, ht, halias⟩
  · rwa [hkept]
  · obtain ⟨-, -, haliases⟩ := Table.forall_entries.mp (h.tables t ht)
    exact isLine_present? haliases halias

theorem renderPath (qualify : Bool) {path : String} (hpath : IsLine path) :
    IsLine (c.renderPath qualify path) := by
  rw [Configuration.renderPath]
  split
  · rw [trimmed, IsLine, String.toList_ofList]
    exact fun hmem => hpath ((trim_sublist _).subset hmem)
  · next p hp =>
      obtain ⟨hcolumn, htable, -⟩ := ColumnPath.isIdentifier_of_parse? hp
      split
      · next t ht =>
          split
          · simp only [Entry.text_string, Entry.ofText_string, isLine_append]
            exact ⟨⟨h.qualifier (isLine_of_isIdentifier (htable t ht)) _, by decide⟩,
              isLine_of_isIdentifier hcolumn⟩
          · exact isLine_of_isIdentifier hcolumn
      · exact isLine_of_isIdentifier hcolumn

theorem predicates {xs : List (Condition String)} (hxs : xs ⊆ c.conditions) (isFirst : Bool)
    (start : ℕ) : ∀ p ∈ c.predicates .preview isFirst start xs, IsLine p.text := by
  induction xs generalizing isFirst start with
  | nil => simp [Configuration.predicates]
  | cons x xs ih =>
      obtain ⟨hx, hrest⟩ := List.cons_subset.mp hxs
      refine List.forall_mem_cons.mpr ⟨?_, ih hrest false _⟩
      obtain ⟨hentries, hoperator, hconnector⟩ := h.conditions x hx
      obtain ⟨hcolumn, hvalue, -⟩ := Condition.forall_entries.mp hentries
      simp only [Predicate.text, predicate, isLine_append]
      refine ⟨⟨⟨⟨?_, h.renderPath _ hcolumn⟩, by decide⟩, hoperator⟩, ?_⟩
      · cases isFirst with
        | true => exact (by decide : IsLine "")
        | false =>
            simp only [Bool.false_eq_true, if_false, isLine_append]
            refine ⟨?_, by decide⟩
            rw [Condition.connectorText]
            cases hk : x.connector with
            | none => decide
            | some k => exact hconnector k hk
      · split
        · next operand hoperand =>
            rw [isLine_append]
            exact ⟨by decide, x.isLine_operand hvalue hoperand⟩
        · decide

theorem joinClause {j : Join String} (hj : j ∈ c.joins) :
    ∀ item ∈ (c.joinClause j).items, IsLine item.text := by
  obtain ⟨hleft, hleftColumn, hright, hrightColumn, -, hconditions⟩ :=
    Join.forall_entries.mp (h.joins j hj)
  have hequality {left leftColumn right rightColumn : String} (hl : IsLine left)
      (hlc : IsLine leftColumn) (hr : IsLine right) (hrc : IsLine rightColumn) :
      IsLine (equality left leftColumn right rightColumn) := by
    simp only [equality, Entry.text_string, isLine_append]
    exact ⟨⟨⟨⟨⟨⟨hl, by decide⟩, hlc⟩, by decide⟩, hr⟩, by decide⟩, hrc⟩
  have hqualified := h.qualifier hleft
  have hqualified' := h.qualifier hright
  have htarget : IsLine (c.joinTarget j) := by
    rw [joinTarget]
    split
    · next t ht => exact Table.isLine_render (h.tables t (List.mem_of_find?_eq_some ht))
    · exact hright
  have hequalities : ∀ part ∈ c.joinEqualities j, IsLine part := by
    refine List.forall_mem_cons.mpr
      ⟨hequality (hqualified _) hleftColumn (hqualified' _) hrightColumn, ?_⟩
    refine List.forall_mem_map.mpr fun x hx => ?_
    obtain ⟨hxl, hxr, -⟩ := JoinCondition.forall_entries.mp (hconditions x hx)
    exact hequality (hqualified _) hxl (hqualified' _) hxr
  simp only [Configuration.joinClause, List.forall_mem_singleton, Item.text, Entry.text_string,
    Entry.ofText_string, isLine_append]
  exact ⟨⟨htarget, by decide⟩, isLine_intercalate (by decide) hequalities⟩

/-! ## The two layouts -/

theorem isTidy_selectClause : c.selectClause.IsTidy where
  keyword := by
    have hkeyword (on : Bool) : isKeyword (if on then "SELECT DISTINCT" else "SELECT") = true := by
      cases on <;> decide
    exact hkeyword c.distinct.isOn
  separator := (by decide : IsLine ", ")
  listed _ := rfl
  items := by
    show ∀ item ∈ c.selectItems, IsLine item.text
    rw [selectItems]
    split
    · exact List.forall_mem_singleton.mpr (by decide : IsLine wildcard)
    · refine List.forall_mem_map.mpr fun x hx => ?_
      have hentries := h.columns x hx
      obtain ⟨htable, -⟩ := Column.forall_entries.mp hentries
      exact Column.isLine_render hentries (h.qualifier htable x.schema)

theorem isTidy_of_writes {kind : ClauseKind} {clause : Clause String}
    (hclause : c.Writes .preview kind clause) : clause.IsTidy := by
  have htable {t : Table String} (ht : t ∈ c.tables) :
      ∀ item ∈ [Item.entry t.render], IsLine item.text :=
    List.forall_mem_singleton.mpr (Table.isLine_render (h.tables t ht))
  cases hclause with
  | select => exact h.isTidy_selectClause
  | source ht | crossed ht => exact .oneLine (by decide) (by decide) (htable ht)
  | @joined j hj =>
      have hkeyword (type : JoinType) : isKeyword (type.keyword ++ " JOIN") = true := by
        cases type <;> decide
      exact .oneLine (hkeyword j.type) (by decide) (h.joinClause hj)
  | filtered =>
      exact .oneLine (by decide) (by decide)
        (List.forall_mem_map.mpr (h.predicates (List.filter_subset_self _) _ _))
  | grouped _ hitems =>
      refine .oneLine (by decide) (by decide) fun item hitem => ?_
      obtain ⟨path, hpath, -, rfl⟩ := hitems item hitem
      simp only [Item.text, Entry.text_string, Entry.ofText_string]
      exact h.renderPath _ (h.groupBy path hpath)
  | ordered _ hitems =>
      refine .oneLine (by decide) (by decide) fun item hitem => ?_
      obtain ⟨o, ho, rfl⟩ := hitems item hitem
      obtain ⟨hcolumn, hdirection⟩ := h.orderBy o (List.mem_of_mem_filter ho)
      simp only [Item.text, Entry.text_string, Entry.ofText_string, isLine_append]
      exact ⟨⟨h.renderPath _ hcolumn, by decide⟩, hdirection⟩
  | @limited n _ hpos =>
      exact .oneLine (by decide) (by decide)
        (List.forall_mem_singleton.mpr (isLine_toString n hpos))

/-- The preview on a single line is the preview with spaces for its line ends. -/
theorem inlineText_preview : (c.statement .preview).inlineText =
    String.ofList (unbroken (c.statement .preview).text.toList) := by
  have htidy : ∀ clause ∈ c.clauses .preview, clause.IsTidy := by
    intro clause hclause
    obtain ⟨kind, hwrites⟩ := exists_writes hclause
    exact h.isTidy_of_writes hwrites
  rw [statement, ← Statement.inlineText_eq htidy, String.ofList_toList]

end Configuration.IsOfLines
end Items

end SelectQuery
