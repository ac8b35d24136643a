import SelectQuery.Proofs.Service.Run
import SelectQuery.Proofs.Statement.Plain

/-!
# The check of a preview

A service shows the query of a plain configuration, and three of the four rules hold of it:
it begins with `SELECT`, it has `FROM`, and it has no forbidden word, whatever the values of
its conditions are. The other screens look into the literals. The rule for parentheses counts
those of the values, and the first screen can take a quote behind a backslash for one that does
not close. Nothing else in a value makes a difference (`check_preview_iff`), but these two do
(`check_preview_parenthesis`, `check_preview_backslash`).
-/

namespace SelectQuery

open Screen Text

namespace Configuration

variable {c : Configuration String}

/-- The only rule that the preview of a plain configuration can break. -/
theorem problems_statement (h : c.IsPlain) :
    problems (c.statement .preview).text =
      if isBalanced c.valueText then [] else [.unbalancedParentheses] := by
  let anything (_ : List Char) : Prop := True
  obtain ⟨back, htext, hbreaks, hback⟩ := tame_statement h
    (show anything truncationPrecision.toList from trivial) fun _ _ => trivial
  have hselect : isPlainWord "SELECT".toList = true := by decide +kernel
  have htame : Tame anything (c.statement .preview).text.toList := by
    rw [htext]
    exact .word hselect hbreaks.separated hback
  have hbalanced : isBalanced (c.statement .preview).text = isBalanced c.valueText := by
    rw [Bool.eq_iff_iff, isBalanced_iff, isBalanced_iff, surplus_statement_plain h]
  rw [problems, c.startsWithSelect_statement .preview, c.hasFrom_statement .preview h.tables_ne,
    htame.findForbidden_eq_nil, hbalanced]
  simp

/-- Without a backslash in front of a quote the preview of a plain configuration selects. -/
theorem isSelect_statement (h : c.IsPlain)
    (hcloses : ∀ x ∈ c.activeConditions, Script.Closes (trim x.value.toList)) :
    Script.isSelect (c.statement .preview).text = true := by
  have hday : Script.Closes truncationPrecision.toList := by decide
  obtain ⟨back, htext, hbreaks, hback⟩ := tame_statement h hday hcloses
  refine isSelect_of_tame htext hback hbreaks.separated fun hparen => ?_
  obtain hblank | hline := hbreaks _ hparen
  · exact absurd hblank (by decide)
  · exact absurd hline (by decide)

end Configuration

namespace Service

variable {μ : Type}

/-- The preview of a plain configuration passes the check if and only if the parentheses of its
values match in number and the first screen sees that it selects. The latter it does unless a
value has a backslash in front of a quote or at its end. -/
theorem check_preview_iff {c : Configuration String} (h : c.IsPlain) (hlimit : c.PrintsLimit)
    (s : Service μ) (hdialect : targetDialect? s.dialect = none) :
    ∃ text, (∀ lib, s.preview lib c = .ok text) ∧
      (Screen.check text = .ok () ↔
        isBalanced c.valueText = true ∧ Script.isSelect text = true) ∧
      ((∀ x ∈ c.activeConditions, Script.Closes (trim x.value.toList)) →
        Screen.check text = if isBalanced c.valueText then .ok ()
          else .error (.rejected [Problem.unbalancedParentheses.message] text)) := by
  have hproblems := Configuration.problems_statement h
  refine ⟨_, c.preview_string hlimit hdialect, ?_, fun hcloses => ?_⟩
  · rw [check_eq_ok_iff, Accepted, isValid, hproblems]
    cases isBalanced c.valueText <;> simp
  · have hselect := Configuration.isSelect_statement h hcloses
    rw [Screen.check, refusal?, hselect, isValid, errors, hproblems]
    cases isBalanced c.valueText <;> rfl

/-- Values with quotes, marks and words that mean something outside of a literal. -/
def quoting : Configuration String where
  tables := [⟨"users", "public", some "u"⟩]
  columns := [⟨"u", "id", "", none, some .count, []⟩]
  conditions :=
    [⟨"users.name", .term .like, "O'Brien; DROP TABLE users -- (x)", none, "condition_1"⟩]
  limit := some 10

theorem check_preview_quoting : quoting.IsPlain ∧ quoting.PrintsLimit ∧
    targetDialect? ({} : Service Value).dialect = none ∧
    ∃ text, (∀ lib, ({} : Service Value).preview lib quoting = .ok text) ∧
      Screen.check text = .ok () := by
  have hplain : quoting.IsPlain :=
    ⟨by decide, by decide +kernel, by decide +kernel, rfl, by decide +kernel, by decide, by decide⟩
  have hdialect : targetDialect? ({} : Service Value).dialect = none := rfl
  have hlimit : quoting.PrintsLimit := by
    intro n hn
    obtain rfl : n = 10 := by simpa [quoting] using hn.symm
    exact lt_self_pow₀ (by decide) (by decide)
  obtain ⟨text, hpreview, -, hcheck⟩ :=
    check_preview_iff hplain hlimit ({} : Service Value) hdialect
  have hcloses : ∀ x ∈ quoting.activeConditions, Script.Closes (trim x.value.toList) := by
    decide +kernel
  refine ⟨hplain, hlimit, hdialect, text, hpreview, ?_⟩
  rw [hcheck hcloses, if_pos (by decide +kernel)]

/-- A value with a parenthesis. -/
def opening : Configuration String where
  tables := [⟨"users", "", none⟩]
  conditions := [⟨"name", .term .eq, "(", none, "condition_1"⟩]

/-- A parenthesis in a value is counted as if it stood in the query. -/
theorem check_preview_parenthesis : opening.IsPlain ∧
    (∀ lib, ({} : Service Value).preview lib opening =
      .ok "SELECT *\nFROM users\nWHERE name = '('") ∧
    Screen.check "SELECT *\nFROM users\nWHERE name = '('" = .error
      (.rejected ["Unbalanced parentheses in query"] "SELECT *\nFROM users\nWHERE name = '('") := by
  have hplain : opening.IsPlain :=
    ⟨by decide, by decide +kernel, by decide, rfl, by decide +kernel, by decide, by decide⟩
  have htext : (opening.statement .preview).text = "SELECT *\nFROM users\nWHERE name = '('" := by
    decide +kernel
  have hrefusal : refusal? "SELECT *\nFROM users\nWHERE name = '('" =
      some ["Unbalanced parentheses in query"] := by
    decide +kernel
  have hlimit : opening.PrintsLimit := by simp [Configuration.PrintsLimit, opening]
  refine ⟨hplain, fun lib => ?_, ?_⟩
  · exact (opening.preview_string hlimit rfl lib).trans (congrArg Except.ok htext)
  · rw [Screen.check, hrefusal]

/-- Values of which the first ends in a backslash. -/
def escaping : Configuration String where
  tables := [⟨"users", "", none⟩]
  conditions := [⟨"name", .term .eq, "\\", none, "condition_1"⟩,
    ⟨"city", .term .eq, "; y", some (.term .and), "condition_2"⟩]

/-- The first screen reads the literals from the second quote on, and finds two statements. -/
theorem check_preview_backslash : escaping.IsPlain ∧
    (∀ lib, ({} : Service Value).preview lib escaping =
      .ok "SELECT *\nFROM users\nWHERE name = '\\' AND city = '; y'") ∧
    Screen.check "SELECT *\nFROM users\nWHERE name = '\\' AND city = '; y'" = .error
      (.rejected [readOnly] "SELECT *\nFROM users\nWHERE name = '\\' AND city = '; y'") := by
  have hplain : escaping.IsPlain :=
    ⟨by decide, by decide +kernel, by decide, rfl, by decide +kernel, by decide, by decide⟩
  have htext : (escaping.statement .preview).text =
      "SELECT *\nFROM users\nWHERE name = '\\' AND city = '; y'" := by
    decide +kernel
  have hrefusal : refusal? "SELECT *\nFROM users\nWHERE name = '\\' AND city = '; y'" =
      some [readOnly] := by
    decide +kernel
  have hlimit : escaping.PrintsLimit := by simp [Configuration.PrintsLimit, escaping]
  refine ⟨hplain, fun lib => ?_, ?_⟩
  · exact (escaping.preview_string hlimit rfl lib).trans (congrArg Except.ok htext)
  · rw [Screen.check, hrefusal]

end Service
end SelectQuery
