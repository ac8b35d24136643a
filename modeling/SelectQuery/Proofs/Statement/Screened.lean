import SelectQuery.Proofs.Statement.Parentheses

/-!
# The bound statement in front of the screens

Of a configuration the preview is screened and the bound statement is run. Both begin with
`SELECT`, and both have `FROM` if a table is selected. Beyond that the one says little about
the other: a preview may have its `from` inside a value, a value may close the parenthesis of
a column, and a quote in a value may hide what stands behind it. `KeepsAccepted` is what is
left to ask of a configuration with an accepted preview (`accepted_bound_iff`).
-/

namespace SelectQuery

open Screen Text

variable {ν : Type} [Entry ν]

theorem Screen.Breaks.append {front back : List Char} (hfront : Breaks front)
    (hback : Breaks back) : Breaks (front ++ back) := by
  cases front with
  | nil => exact hback
  | cons c front => exact fun d hd => hfront d hd

/-! ## Keywords -/

theorem Statement.toList_text_cons_cons (first next : Clause ν) (others : List (Clause ν))
    (params params' : List (String × Literal)) :
    (Statement.mk (first :: next :: others) params).text.toList =
      first.text.toList ++ '\n' :: (Statement.mk (next :: others) params').text.toList := by
  simp only [Statement.text, List.map_cons]
  rw [String.intercalate_cons_cons, String.toList_append, String.toList_append, List.append_assoc]
  rfl

/-- A statement is its first clause, with a break behind it. -/
theorem Statement.toList_text_cons (first : Clause ν) (others : List (Clause ν))
    (params : List (String × Literal)) : ∃ rest, Breaks rest ∧
    (Statement.mk (first :: others) params).text.toList = first.text.toList ++ rest := by
  cases others with
  | nil => exact ⟨[], by simp [Breaks], by simp [Statement.text]⟩
  | cons next others =>
      exact ⟨_, .lineEnd _, Statement.toList_text_cons_cons first next others params params⟩

namespace Configuration

variable (c : Configuration ν)

/-- The select clause spells `SELECT`, with a break behind it. -/
theorem toList_selectClause :
    ∃ back, Breaks back ∧ c.selectClause.text.toList = "SELECT".toList ++ back := by
  have hwords : ∃ more, Breaks more ∧ c.selectClause.keyword.toList = "SELECT".toList ++ more := by
    cases hon : c.distinct.isOn with
    | true =>
        have hkeyword : c.selectClause.keyword = "SELECT DISTINCT" := by simp [selectClause, hon]
        exact ⟨' ' :: "DISTINCT".toList, .space _, by rw [hkeyword]; decide⟩
    | false =>
        have hkeyword : c.selectClause.keyword = "SELECT" := by simp [selectClause, hon]
        exact ⟨[], by simp [Breaks], by rw [hkeyword]; decide⟩
  obtain ⟨more, hmore, hkeyword⟩ := hwords
  rw [Clause.text]
  split
  · rw [String.toList_append, String.toList_append, hkeyword, List.append_assoc, List.append_assoc]
    exact ⟨_, hmore.append (.lineEnd _), rfl⟩
  · rw [String.toList_append, String.toList_append, hkeyword, List.append_assoc, List.append_assoc]
    exact ⟨_, hmore.append (.space _), rfl⟩

theorem startsWithSelect_statement (mode : Mode) :
    startsWithSelect (c.statement mode).text = true := by
  obtain ⟨back, hback, hselect⟩ := c.toList_selectClause
  obtain ⟨rest, hrest, htext⟩ := Statement.toList_text_cons c.selectClause
    (c.clauses mode).tail (named (c.bindings mode))
  have htoList : (c.statement mode).text.toList = "SELECT".toList ++ (back ++ rest) := by
    rw [← List.append_assoc, ← hselect, ← htext]
    rfl
  exact startsWithSelect_of_toList (hback.append hrest) htoList

theorem hasFrom_statement (mode : Mode) (h : c.tables ≠ []) :
    hasFrom (c.statement mode).text = true := by
  obtain ⟨t, ts, htables⟩ := List.exists_cons_of_ne_nil h
  let clause : Clause ν := ⟨.from, "FROM", [.entry t.render], ", ", false⟩
  obtain ⟨others, hclauses⟩ : ∃ others, c.clauses mode = c.selectClause :: clause :: others := by
    rw [clauses, fromClauses, anchor?, htables]
    exact ⟨_, rfl⟩
  obtain ⟨rest, hrest, htext⟩ := Statement.toList_text_cons clause others []
  have hfrom : clause.text.toList = "FROM".toList ++ ' ' :: (Entry.text t.render).toList := by
    simp [Clause.text, clause, Item.text]
  have htoList : (c.statement mode).text.toList = c.selectClause.text.toList ++
      '\n' :: ("FROM".toList ++ (' ' :: (Entry.text t.render).toList ++ rest)) := by
    rw [statement, hclauses, Statement.toList_text_cons_cons _ _ _ _ [], htext, hfrom,
      List.append_assoc]
  -- the text begins with a letter, so trimming does not reach the line of `FROM`
  obtain ⟨back, -, hselect⟩ := c.toList_selectClause
  refine hasFrom_of_toList ?_ ?_ ((Breaks.space _).append hrest) htoList
  · simp [hselect]
  · intro d hd
    rw [hselect] at hd
    obtain rfl : 'S' = d := by simpa using hd
    decide

/-! ## The other rules -/

/-- What a configuration with an accepted preview needs for an accepted bound statement. -/
structure KeepsAccepted : Prop where
  /-- The word `from` is no part of a value. -/
  source : c.tables ≠ [] ∨ hasFrom (c.statement .bound).text = true
  /-- No value opens or closes a parenthesis for the rest of the text. -/
  parentheses : isBalanced c.handed = true
  /-- No value hides a forbidden word that stands outside of it. -/
  words : findForbidden (c.statement .bound).text = []
  /-- No value hides another statement that stands outside of it. -/
  select : Script.isSelect (c.statement .bound).text = true

variable {c}

theorem accepted_bound_iff (h : Accepted (c.statement .preview).text) :
    Accepted (c.statement .bound).text ↔ c.KeepsAccepted := by
  obtain ⟨-, -, hbalanced, -⟩ := isValid_iff.mp h.2
  have hparens := c.isBalanced_bound hbalanced
  constructor
  · rintro ⟨hselect, hvalid⟩
    obtain ⟨-, hfrom, hbound, hwords⟩ := isValid_iff.mp hvalid
    exact ⟨.inr hfrom, hparens.mp hbound, hwords, hselect⟩
  · intro hkeeps
    have hfrom : hasFrom (c.statement .bound).text = true :=
      hkeeps.source.elim (c.hasFrom_statement .bound) id
    exact ⟨hkeeps.select, isValid_iff.mpr ⟨c.startsWithSelect_statement .bound, hfrom,
      hparens.mpr hkeeps.parentheses, hkeeps.words⟩⟩

end Configuration
end SelectQuery
