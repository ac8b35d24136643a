import SelectQuery.Proofs.Configuration.Reload
import SelectQuery.Proofs.Editing.Effect
import SelectQuery.Proofs.Statement.Layout
import SelectQuery.Proofs.Statement.SingleLine

/-!
# Attached subqueries

A subquery is attached as the text of a condition. That text goes through the same reading of
values as anything else that is entered for a membership test, and it must come out as it went
in: in parentheses of its own, and never as a list of values to be handed over. It does, whatever
the subquery holds, because it opens with a parenthesis and a letter, so that its first item is
neither a quoted literal nor a number (`Subquery.isLiteralList_text`).

Hence a configuration gains one item of `WHERE` by an attachment and no parameter. Its statements
exist if and only if they existed before: a row limit with too many digits still prevents both,
and an integer with too many digits in an earlier condition the bound one
(`addSubqueryCondition_gains_iff`).
-/

namespace SelectQuery

open Text

/-! ## The text of a subquery -/

/-- A text in parentheses that begins like no literal is not taken for a list of literals. -/
theorem Literal.isLiteralList_parens {c : Char} (hblank : isBlank c = false) (hcomma : c ≠ ',')
    (hquote : c ≠ '\'') (hnumber : isNumberChar c = false) (body : List Char) :
    isLiteralList ('(' :: (c :: body ++ [')'])) = false := by
  have hleading : leading? (c :: body) = none := by simp [leading?, hquote]
  have hitems : splitList ('(' :: (c :: body ++ [')'])) =
      trim (c :: body.takeWhile (!isComma ·)) :: items (body.dropWhile (!isComma ·)) := by
    rw [splitList, trim_parens, withoutParens_parens]
    exact items_of_run (by simp [hblank]) hcomma hleading
  rw [Bool.eq_false_iff]
  intro hlist
  rw [isLiteralList_iff, hitems] at hlist
  rcases hlist.2 _ (List.mem_cons_self ..) with hquoted | hnumeric
  · rw [isQuoted_trim_cons hblank hquote] at hquoted
    cases hquoted
  · rw [isNumeric_trim_cons hblank hnumber] at hnumeric
    cases hnumeric

namespace Subquery

variable (s : Subquery String) (select : String)

/-- A subquery is rendered exactly if its row limit is. -/
theorem render_eq_ok_iff {value : String} :
    s.render select = .ok value ↔ s.config.PrintsLimit ∧ value = s.text select := by
  have hinline : (s.config.statement .preview).renderInline =
      .ok (s.config.statement .preview).inlineText := by
    simp [Statement.renderInline]
  by_cases hlimit : s.config.PrintsLimit
  · have hrender : s.render select = .ok (s.text select) := by
      rw [render, s.config.build_preview hlimit]
      simp only [bind, Except.bind, hinline]
      rfl
    simp [hrender, hlimit, eq_comm]
  · simp only [hlimit, false_and, iff_false]
    intro h
    cases hbuild : s.config.build .preview with
    | error e => simp [render, hbuild, bind, Except.bind] at h
    | ok statement => exact hlimit ((s.config.build_eq_ok_iff .preview).mp hbuild).2.1

theorem text_string : s.text select = "(SELECT " ++ select ++ " FROM (" ++
    (s.config.statement .preview).inlineText ++ ") " ++ s.aliasName ++ ")" := rfl

/-- A subquery is written in parentheses, and a letter follows on the first one. -/
theorem exists_text : ∃ body, (s.text select).toList = '(' :: ('S' :: body ++ [')']) := by
  refine ⟨"ELECT ".toList ++ select.toList ++ " FROM (".toList ++
    (s.config.statement .preview).inlineText.toList ++ ") ".toList ++ s.aliasName.toList, ?_⟩
  simp only [text_string, String.toList_append]
  rfl

theorem isLiteralList_text : Literal.isLiteralList (s.text select).toList = false := by
  obtain ⟨body, hbody⟩ := s.exists_text select
  rw [hbody]
  exact Literal.isLiteralList_parens (by decide) (by decide) (by decide) (by decide) body

/-- A membership test keeps a subquery as it was written. -/
theorem format_text {op : ConditionOperator} (hmember : op.isMembership = true) :
    Literal.format (some op) (s.text select).toList = some (s.text select).toList := by
  obtain ⟨body, hbody⟩ := s.exists_text select
  have htrim : trim (s.text select).toList = (s.text select).toList := by
    rw [hbody]
    exact Literal.trim_parens ('S' :: body)
  rw [Literal.format_membership hmember (by rw [htrim, hbody]; simp), htrim, hbody]
  rfl

end Subquery

/-! ## The condition -/

/-- A condition with a subquery for its value. -/
structure Condition.Attaches (x : Condition String) (s : Subquery String) (select : String)
    (op : ConditionOperator) : Prop where
  operator : x.operator = .term op
  isMembership : op.isMembership = true
  value : x.value = s.text select

namespace Condition.Attaches

variable {x : Condition String} {s : Subquery String} {select : String} {op : ConditionOperator}
  (h : x.Attaches s select op)
include h

theorem not_isBound : x.isBound = false := by
  simp [isBound, h.operator, h.isMembership, Entry.chars, h.value, s.isLiteralList_text]

theorem bindings_eq_nil (mode : Mode) : x.bindings mode = [] := by
  cases mode with
  | preview => rfl
  | bound => simp [bindings_bound, h.not_isBound]

theorem excess?_eq_none (mode : Mode) : x.excess? mode = none := by
  cases mode with
  | preview => rfl
  | bound => simp [excess?, h.operator, isInline_bound, h.not_isBound]

theorem operand?_eq (mode : Mode) (start : ℕ) :
    x.operand? mode start = some (.written (s.text select)) := by
  have hpreview (start : ℕ) : x.operand? .preview start = some (.written (s.text select)) := by
    simp [operand?, isInline_preview, h.operator, Entered.term?, Entry.chars, h.value,
      s.format_text select h.isMembership]
  cases mode with
  | preview => exact hpreview start
  | bound => rw [operand?_of_not_isBound h.not_isBound start start, hpreview]

end Condition.Attaches

/-! ## The statements -/

/-- A statement is another one with one more item behind those of `WHERE`. -/
structure Statement.Gains (before after : Statement String) (p : Predicate) : Prop where
  conditions : after.itemsOf .where = before.itemsOf .where ++ [.predicate p]
  params : after.params = before.params
  others : ∀ kind, kind ≠ .where → after.clausesOf kind = before.clausesOf kind

namespace Configuration

variable {c d : Configuration String} {s : Subquery String} {a : Attachment String}

/-- A condition that hands nothing over adds an item of its own and changes nothing else. -/
theorem gains_of_bindings_eq_nil {x : Condition String} (hcolumn : isFilled x.column = true)
    {mode : Mode} (hbindings : x.bindings mode = []) :
    (c.statement mode).Gains ({ c with conditions := c.conditions ++ [x] }.statement mode)
      (c.predicate mode c.activeConditions.isEmpty
        (1 + (c.activeConditions.flatMap (Condition.bindings mode)).length) x) := by
  let d : Configuration String := { c with conditions := c.conditions ++ [x] }
  have hactive : d.activeConditions = c.activeConditions ++ [x] := by
    simp [activeConditions_eq, d, List.filter_append, hcolumn]
  constructor
  case conditions =>
    have hpredicates : d.whereItems mode = c.predicates mode true 1 d.activeConditions :=
      predicates_of_forall₂ (R := Eq) (List.forall₂_same.mpr fun _ _ => rfl)
        (fun _ _ hxy _ _ => hxy ▸ rfl) (fun _ _ hxy => hxy ▸ rfl) true 1
    rw [itemsOf_where, itemsOf_where, hpredicates, hactive, predicates_append, List.map_append,
      Bool.true_and]
    rfl
  case params =>
    have hvalues : d.bindings mode = c.bindings mode := by
      simp [bindings, hactive, hbindings]
    exact congrArg named hvalues
  case others =>
    -- no other part of a statement looks at the conditions
    intro kind hkind
    rw [clausesOf_statement, clausesOf_statement]
    cases kind with
    | «where» => exact absurd rfl hkind
    | _ => rfl

/-- The item of `WHERE` that an attached subquery becomes. -/
def attachedItem (c : Configuration String) (a : Attachment String) (value : String) :
    Predicate where
  connector := if c.activeConditions.isEmpty then none else some "AND"
  column := c.renderPath c.qualifies a.column
  operator := upper (trimmed a.operator)
  operand := some (.written value)

theorem word_of_ofEntry {τ : Type} [Term τ] {v path : String} {t : τ}
    (h : Term.ofEntry τ v path = .ok t) : Term.word t = upper (trimmed v) := by
  rw [Term.ofEntry, Term.ofValue] at h
  split at h
  · next found hfound =>
      obtain rfl := Except.ok.inj h
      have hnamed : (Term.members : List τ).find? (fun t => Term.word t == upper (trimmed v)) =
          some found := hfound
      have hword := List.find?_some hnamed
      simpa using hword
  · cases h

/-- Without another one, the connector of a condition that is added is `AND`. -/
theorem connectorOf_default {path : String} {connector : Option LogicalOperator}
    (h : connectorOf (none <|> c.defaultConnector) path = .ok connector) :
    connector = none ∨ connector = some .and := by
  rw [defaultConnector] at h
  split at h
  · exact .inl (Except.ok.inj h).symm
  · have hand : Term.ofEntry LogicalOperator LogicalOperator.and.word
        (path ++ ".logicalOperator") = .ok .and := Term.ofValue_word LogicalOperator.and _
    have hconnector : connectorOf (some LogicalOperator.and.word) path = .ok (some .and) := by
      have hpresent : Entry.present? (some LogicalOperator.and.word) =
          some LogicalOperator.and.word := by decide
      simp only [connectorOf, hpresent, hand]
      rfl
    exact .inr (Except.ok.inj (hconnector.symm.trans h)).symm

/-- An attached subquery is the last condition, and all else stays as it was. -/
theorem exists_attaches {supply left : IdSupply}
    (h : (c.addSubqueryCondition s a).outcome supply = (.ok d, left)) :
    s.config.PrintsLimit ∧ ∃ x op, d = { c with conditions := c.conditions ++ [x] } ∧
      x.column = a.column ∧ x.Attaches s a.select op ∧ x.connectorText = "AND" ∧
        Term.word op = upper (trimmed a.operator) := by
  obtain ⟨op, value, hop, hmember, -, hvalue, hadd⟩ := addSubqueryCondition_eq_ok h
  obtain ⟨op', connector, -, hop', hconnector, rfl⟩ := addCondition_eq_ok hadd
  obtain rfl : op = op' := by
    have hword : Term.ofEntry ConditionOperator op.word
        (itemPath "conditions" c.conditions.length ++ ".operator") = .ok op :=
      Term.ofValue_word op _
    exact Except.ok.inj (hword.symm.trans hop')
  obtain ⟨hlimit, rfl⟩ := s.render_eq_ok_iff a.select |>.mp hvalue
  refine ⟨hlimit, _, op, rfl, rfl, ⟨rfl, hmember, rfl⟩, ?_, word_of_ofEntry hop⟩
  · rcases connectorOf_default hconnector with rfl | rfl <;> rfl

/-- An attached subquery stands behind the other items of `WHERE`, written as it is rendered, in
both modes and with no parameter of its own. The only things that may keep a statement from being
there are a row limit with too many digits and, for the bound one, an integer with too many digits
in another condition. If no line ends in the entries of the subquery, the query in that item is the
preview of the subquery on a single line. -/
theorem addSubqueryCondition_gains_iff {supply left : IdSupply}
    (h : (c.addSubqueryCondition s a).outcome supply = (.ok d, left))
    (hcolumn : isFilled a.column = true) :
    ∃ value, s.render a.select = .ok value ∧
      (∀ mode, (∃ before after, c.build mode = .ok before ∧ d.build mode = .ok after ∧
          before.Gains after (c.attachedItem a value)) ↔
        c.PrintsLimit ∧ (mode = .preview ∨
          ∀ x ∈ c.conditions, isFilled x.column = true → x.excess? .bound = none)) ∧
      (s.config.IsOfLines → ∃ sql, (∀ lib, s.config.preview lib none = .ok sql) ∧
        value = "(SELECT " ++ a.select ++ " FROM (" ++ String.ofList (unbroken sql.toList) ++
          ") " ++ s.aliasName ++ ")") := by
  obtain ⟨hprints, x, op, rfl, hxcolumn, hx, hconnector, hop⟩ := exists_attaches h
  refine ⟨s.text a.select, (s.render_eq_ok_iff a.select).mpr ⟨hprints, rfl⟩, fun mode => ?_,
    fun hlines => ?_⟩
  · have hmode : (mode = .preview ∨
        ∀ x ∈ c.conditions, isFilled x.column = true → x.excess? .bound = none) ↔
          ∀ x ∈ c.conditions, isFilled x.column = true → x.excess? mode = none := by
      cases mode with
      | preview => exact iff_of_true (.inl rfl) fun _ _ _ => rfl
      | bound => simp
    have hitem (start : ℕ) : c.predicate mode c.activeConditions.isEmpty start x =
        c.attachedItem a (s.text a.select) := by
      simp [predicate, attachedItem, hconnector, hxcolumn, hx.operator, Entered.text, hop,
        hx.operand?_eq]
    have hgains := gains_of_bindings_eq_nil (c := c) (hxcolumn ▸ hcolumn) (hx.bindings_eq_nil mode)
    rw [hitem] at hgains
    rw [hmode]
    constructor
    · rintro ⟨before, after, hbefore, -⟩
      exact ((c.build_eq_ok_iff mode).mp hbefore).2
    · rintro ⟨hlimit, hdigits⟩
      refine ⟨_, _, (c.build_eq_ok_iff mode).mpr ⟨rfl, hlimit, hdigits⟩,
        (build_eq_ok_iff _ mode).mpr ⟨rfl, hlimit, ?_⟩, hgains⟩
      exact List.forall_mem_append.mpr ⟨hdigits,
        List.forall_mem_singleton.mpr fun _ => hx.excess?_eq_none mode⟩
  · refine ⟨_, s.config.preview_string hprints rfl, ?_⟩
    rw [s.text_string, hlines.inlineText_preview]

/-- The example of a subquery: the users who have ordered something. -/
def buyers : Subquery String where
  name := "Buyers"
  aliasName := "sub1"
  config := {
    tables := [⟨"orders", "", none⟩]
    columns := [⟨"orders", "user_id", "", some "id", none, []⟩] }
  id := "subquery_1"

/-- Users of one name. -/
def ohara : Configuration String where
  tables := [⟨"users", "", none⟩]
  conditions := [⟨"users.name", .term .eq, "O'Hara", none, "condition_1"⟩]

theorem addSubqueryCondition_gains_buyers : ∃ d left,
    (ohara.addSubqueryCondition buyers {}).outcome {} = (.ok d, left) ∧
      isFilled "id" = true ∧
      (∃ before after, ohara.build .bound = .ok before ∧ d.build .bound = .ok after ∧
        before.Gains after (ohara.attachedItem {}
          "(SELECT id FROM (SELECT orders.user_id AS id FROM orders) sub1)")) ∧
      buyers.config.IsOfLines ∧ ∃ sql, (∀ lib, buyers.config.preview lib none = .ok sql) ∧
        "(SELECT id FROM (SELECT orders.user_id AS id FROM orders) sub1)" =
          "(SELECT id FROM (" ++ String.ofList (unbroken sql.toList) ++ ") sub1)" := by
  obtain ⟨d, left, h⟩ : ∃ d left,
      (ohara.addSubqueryCondition buyers {}).outcome {} = (.ok d, left) := ⟨_, _, rfl⟩
  have hid : isFilled "id" = true := by decide
  obtain ⟨value, hvalue, hmodes, hlayout⟩ := addSubqueryCondition_gains_iff h hid
  have htext : buyers.render "id" =
      .ok "(SELECT id FROM (SELECT orders.user_id AS id FROM orders) sub1)" := rfl
  obtain rfl := Except.ok.inj (htext.symm.trans hvalue)
  have hdigits : ∀ x ∈ ohara.conditions, isFilled x.column = true → x.excess? .bound = none :=
    List.forall_mem_singleton.mpr fun _ => by decide
  have hlines : buyers.config.IsOfLines :=
    ⟨by decide, by decide, by simp [buyers], by simp [buyers], by decide, by simp [buyers]⟩
  obtain ⟨sql, hsql, hline⟩ := hlayout hlines
  have hlimit : ohara.PrintsLimit := by simp [PrintsLimit, ohara]
  refine ⟨d, left, h, hid, (hmodes .bound).mpr ⟨hlimit, .inr hdigits⟩, hlines, sql, hsql, ?_⟩
  rw [hline, ← String.toList_inj]
  simp only [String.toList_append, List.append_assoc]
  rfl

theorem addSubqueryCondition_gains_overlong : ∃ d left,
    (overlong.addSubqueryCondition buyers {}).outcome {} = (.ok d, left) ∧
      ¬∃ after, d.build .bound = .ok after := by
  obtain ⟨d, left, h⟩ : ∃ d left,
      (overlong.addSubqueryCondition buyers {}).outcome {} = (.ok d, left) := ⟨_, _, rfl⟩
  refine ⟨d, left, h, ?_⟩
  rintro ⟨after, hafter⟩
  obtain ⟨-, x, -, rfl, -⟩ := exists_attaches h
  have hexcess := ((build_eq_ok_iff _ .bound).mp hafter).2.2 _
    (List.mem_append_left _ (List.mem_singleton_self _)) (by decide)
  rw [Condition.excess?_replicate (by decide)] at hexcess
  exact Option.some_ne_none _ hexcess

end Configuration
end SelectQuery
