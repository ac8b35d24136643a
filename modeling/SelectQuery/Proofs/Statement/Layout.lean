import SelectQuery.Proofs.Statement.Modes
import SelectQuery.Proofs.Statement.Pointwise
import SelectQuery.Proofs.Text.Blank

/-!
# The layout of a statement

Which clauses a statement has, in which order and with how many items, is told by the parts of
its configuration alone (`Configuration.LaidOut`): the first clause selects, the tables follow
behind `FROM` and the joins, and every other clause stands there once if it has an item.

The clauses of a statement are its parts, laid end to end in the order of their kinds, so that
theirs is the order of the kinds as well (`pairwise_kinds_statement`). The clauses of one kind are
one part (`clausesOf_statement`), and what is left is to count the items of each.

A statement may fail for one reason: an integer that is handed over, or the row limit, has too
many digits (`build_laidOut_iff`).
-/

namespace SelectQuery

variable {ν : Type} [Entry ν]

open Entry

/-! ## What is stated -/

namespace Statement

/-- There is a single clause of a kind, with a number of items, or none for no items. -/
def HasClause (s : Statement ν) (kind : ClauseKind) (items : ℕ) : Prop :=
  (s.clausesOf kind).map (·.items.length) = if items = 0 then [] else [items]

/-- The keyword and the items of the clauses of one kind. -/
def targets (s : Statement ν) (kind : ClauseKind) : List (String × List (Item ν)) :=
  (s.clausesOf kind).map fun clause => (clause.keyword, clause.items)

end Statement

/-- Something other than blanks. -/
def isFilled (path : String) : Bool := Text.trimmed path != ""

/-- A statement has the clauses that the parts of a configuration call for. -/
structure Configuration.LaidOut (c : Configuration String) (s : Statement String) : Prop where
  order : s.kinds.Pairwise fun earlier later => earlier.rank ≤ later.rank
  first : s.kinds.head? = some .select
  items : ∀ clause ∈ s.clauses, clause.items ≠ []
  /-- Without columns there is one item for all of them. -/
  select : s.HasClause .select (max 1 c.columns.length)
  source : s.targets .from = (c.tables.take 1).map fun t => ("FROM", [.entry t.render])
  crossed : c.joins = [] →
    s.targets .join = c.tables.tail.map fun t => ("CROSS JOIN", [.entry t.render])
  joined : c.joins ≠ [] →
    (s.clausesOf .join).map (·.items.length) = List.replicate c.joins.length 1
  filtered : s.HasClause .where (c.conditions.countP (isFilled ·.column))
  grouped : s.HasClause .groupBy (c.groupBy.countP isFilled)
  ordered : s.HasClause .orderBy (c.orderBy.countP (isFilled ·.column))
  limited : s.HasClause .limit (c.limit.toList.countP (0 < ·))

/-! ## The order of the clauses -/

namespace Configuration

variable {c : Configuration ν} {mode : Mode}

theorem pairwise_kinds_statement :
    (c.statement mode).kinds.Pairwise fun earlier later => earlier.rank ≤ later.rank := by
  have hkinds : ∀ kind, ∀ clause ∈ c.part mode kind, clause.kind = kind :=
    fun kind clause h => (writes_of_mem_part h).ofKind.kind_eq
  rw [Statement.kinds, statement, clauses_eq_flatMap, List.pairwise_map, List.pairwise_flatMap]
  constructor
  · intro kind _
    refine List.pairwise_of_forall_mem_list fun a ha b hb => ?_
    rw [hkinds kind a ha, hkinds kind b hb]
  · -- clauses of different parts are compared by the kinds of the parts
    have hranks : ClauseKind.inOrder.Pairwise fun earlier later => earlier.rank ≤ later.rank := by
      decide
    refine hranks.imp fun hle a ha b hb => ?_
    rw [hkinds _ a ha, hkinds _ b hb]
    exact hle

end Configuration

/-! ## Counting items -/

theorem not_isBlankEntry (path : String) : (!isBlankEntry path) = isFilled path := by
  rw [isBlankEntry, text_string, isFilled, bne, Bool.not_inj_iff, Bool.eq_iff_iff,
    ← Text.trimmed_eq_empty_iff, beq_iff_eq]

theorem isPresent_of_isFilled {path : String} (h : isFilled path = true) :
    isPresent path = true := by
  rw [isPresent_string, bne_iff_ne]
  rintro rfl
  exact absurd h (by decide)

/-- A run of ones is an integer with that many digits. -/
theorem Literal.excessDigits?_replicate {n : ℕ} (hn : digitLimit ≤ n) :
    excessDigits? (List.replicate (n + 1) '1') = some (n + 1) := by
  have hdigit : Text.isDigit '1' = true := by decide
  have hparts : numberParts? (List.replicate (n + 1) '1') =
      some ⟨false, List.replicate (n + 1) '1', false, [], none⟩ := by
    have htake : (List.replicate (n + 1) '1').takeWhile Text.isDigit =
        List.replicate (n + 1) '1' := by
      rw [List.takeWhile_replicate, if_pos hdigit]
    have hdrop : (List.replicate (n + 1) '1').dropWhile Text.isDigit = [] := by
      rw [List.dropWhile_replicate, if_pos hdigit]
    have hsign : Integer.splitSign (List.replicate (n + 1) '1') =
        (false, List.replicate (n + 1) '1') := rfl
    simp [numberParts?, hsign, htake, hdrop, exponentEnd?]
  have hquoted : isQuoted (List.replicate (n + 1) '1') = false := by
    simp [isQuoted, List.replicate_succ]
  have hzero : hasLeadingZero (List.replicate (n + 1) '1') = false := rfl
  simp [excessDigits?, hquoted, hzero, hparts, NumberParts.isInteger]
  omega

theorem Condition.excess?_replicate {n : ℕ} (hn : digitLimit ≤ n) (path id : String) :
    (⟨path, .term .eq, String.ofList (List.replicate (n + 1) '1'), none, id⟩ :
      Condition String).excess? .bound = some (.badValue (.tooManyDigits (n + 1))) := by
  have hblank : ∀ c ∈ List.replicate (n + 1) '1', Text.isBlank c = false := by
    intro c h
    rw [List.eq_of_mem_replicate h]
    rfl
  have htrim : Text.trim (List.replicate (n + 1) '1') = List.replicate (n + 1) '1' :=
    Text.trim_eq_self (fun c h => hblank c (List.mem_of_mem_head? h))
      fun c h => hblank c (List.mem_of_getLast? h)
  have hscalars : Literal.scalars .eq (List.replicate (n + 1) '1') =
      [List.replicate (n + 1) '1'] := by
    rw [Literal.scalars, htrim]
    rfl
  have hvalue : chars (String.ofList (List.replicate (n + 1) '1')) = List.replicate (n + 1) '1' :=
    String.toList_ofList
  have hexcess : Literal.excess? .eq (List.replicate (n + 1) '1') = some (n + 1) := by
    rw [Literal.excess?, if_neg (by decide), hscalars, List.findSome?_singleton,
      Literal.excessDigits?_replicate hn]
  simp [excess?, isInline, ConditionOperator.isMembership, hvalue, hexcess]

namespace Configuration

/-- A clause that is left out without items is there once with them. -/
theorem length_items_clauseOf {α : Type} (kind : ClauseKind) (keyword separator : String)
    (items : List (Item α)) :
    (clauseOf kind keyword items separator).map (·.items.length) =
      if items.length = 0 then [] else [items.length] := by
  cases items with
  | nil => rfl
  | cons item items => simp [clauseOf]

variable (c : Configuration String) (mode : Mode)

theorem length_selectItems : c.selectItems.length = max 1 c.columns.length := by
  rw [selectItems]
  split
  · next hcolumns => simp [List.isEmpty_iff.mp hcolumns]
  · next hcolumns =>
      have hpos : 0 < c.columns.length := List.length_pos_iff.mpr (by simpa using hcolumns)
      rw [List.length_map]
      omega

theorem activeConditions_eq : c.activeConditions = c.conditions.filter (isFilled ·.column) :=
  List.filter_congr fun x _ => not_isBlankEntry x.column

theorem activeOrderings_eq : c.activeOrderings = c.orderBy.filter (isFilled ·.column) := by
  refine List.filter_congr fun o _ => ?_
  rw [not_isBlankEntry, Bool.and_eq_right_iff_imp]
  exact isPresent_of_isFilled

theorem length_whereItems :
    (c.whereItems mode).length = c.conditions.countP (isFilled ·.column) := by
  rw [whereItems, length_predicates, activeConditions_eq, List.countP_eq_length_filter]

theorem length_activeOrderings :
    c.activeOrderings.length = c.orderBy.countP (isFilled ·.column) := by
  rw [activeOrderings_eq, List.countP_eq_length_filter]

/-- Only a condition with a column can have a fault. -/
theorem fault?_eq : c.fault? mode =
    (firstFault? (Condition.excess? mode) c.activeConditions <|> c.limitFault?) := by
  have hactive : firstFault? (c.conditionFault? mode) c.conditions =
      firstFault? (Condition.excess? mode) c.activeConditions := by
    rw [activeConditions]
    induction c.conditions with
    | nil => rfl
    | cons x xs ih =>
        unfold firstFault? at *
        rw [List.findSome?_cons, List.filter_cons, ih]
        by_cases hblank : isBlankEntry x.column = true
        · simp [conditionFault?, textFault?, hblank]
        · simp [conditionFault?, textFault?, hblank, List.findSome?_cons]
  rw [fault?_string, hactive]

theorem hasClause_limit :
    (c.statement mode).HasClause .limit (c.limit.toList.countP (0 < ·)) := by
  rw [Statement.HasClause, clausesOf_statement, part, limitClauses]
  cases c.limit with
  | none => rfl
  | some n =>
      by_cases hn : 0 < n
      · simp [hn, clauseOf]
      · simp [hn]

theorem laidOut_statement : c.LaidOut (c.statement mode) where
  order := pairwise_kinds_statement
  first := rfl
  items := by
    intro clause h
    obtain ⟨kind, hwrites⟩ := exists_writes h
    exact hwrites.ofKind.items_ne_nil
  select := by
    rw [Statement.HasClause, clausesOf_statement, if_neg (by omega), ← c.length_selectItems]
    rfl
  source := by
    rw [Statement.targets, clausesOf_statement, part, fromClauses, anchor?]
    cases c.tables <;> rfl
  crossed := by
    intro hjoins
    rw [Statement.targets, clausesOf_statement, part, crossClauses, hjoins]
    simp [Function.comp_def]
  joined := by
    intro hjoins
    rw [clausesOf_statement, part, crossClauses, if_neg (by simpa using hjoins), List.nil_append,
      List.map_map]
    exact List.map_const' ..
  filtered := by
    rw [Statement.HasClause, clausesOf_statement, part, whereClauses, length_items_clauseOf,
      List.length_map, c.length_whereItems mode]
  grouped := by
    rw [Statement.HasClause, clausesOf_statement, part, groupClauses, length_items_clauseOf,
      List.length_map, List.countP_eq_length_filter]
    simp only [not_isBlankEntry]
  ordered := by
    rw [Statement.HasClause, clausesOf_statement, part, orderClauses, length_items_clauseOf,
      List.length_map, c.length_activeOrderings]
  limited := c.hasClause_limit mode

/-- Entries of text are rendered unless the row limit, or a value that is handed over, has too
many digits. -/
theorem build_eq_ok_iff {s : Statement String} : c.build mode = .ok s ↔ s = c.statement mode ∧
    c.PrintsLimit ∧ ∀ x ∈ c.conditions, isFilled x.column = true → x.excess? mode = none := by
  have hfault : c.fault? mode = none ↔
      c.PrintsLimit ∧ ∀ x ∈ c.conditions, isFilled x.column = true → x.excess? mode = none := by
    rw [fault?_eq, activeConditions_eq, Option.orElse_eq_orElse, Option.orElse_eq_or,
      Option.or_eq_none_iff, limitFault?_eq_none_iff, firstFault?, List.findSome?_eq_none_iff,
      and_comm]
    simp only [List.mem_filter, and_imp]
  rw [← hfault, build]
  cases c.fault? mode with
  | none => simp [eq_comm]
  | some e => simp

/-- A configuration has a statement in both modes, and it has the clauses that are called for,
but for a row limit with too many digits, and for a bound statement with too many digits in an
integer. -/
theorem build_laidOut_iff : (∃ s, c.build mode = .ok s ∧ c.LaidOut s) ↔
    c.PrintsLimit ∧ (mode = .preview ∨
      ∀ x ∈ c.conditions, isFilled x.column = true → x.excess? .bound = none) := by
  have hmode : (mode = .preview ∨
      ∀ x ∈ c.conditions, isFilled x.column = true → x.excess? .bound = none) ↔
        ∀ x ∈ c.conditions, isFilled x.column = true → x.excess? mode = none := by
    cases mode with
    | preview => exact iff_of_true (.inl rfl) fun _ _ _ => rfl
    | bound => simp
  rw [hmode]
  constructor
  · rintro ⟨s, hs, -⟩
    exact (c.build_eq_ok_iff mode).mp hs |>.2
  · intro hdigits
    exact ⟨_, (c.build_eq_ok_iff mode).mpr ⟨rfl, hdigits⟩, c.laidOut_statement mode⟩

/-- A condition on an integer with one digit too many. -/
def overlong : Configuration String where
  tables := [⟨"users", "", none⟩]
  conditions :=
    [⟨"users.id", .term .eq, String.ofList (List.replicate 4301 '1'), none, "condition_1"⟩]

theorem build_laidOut_overlong : ¬∃ s, overlong.build .bound = .ok s ∧ overlong.LaidOut s := by
  rintro ⟨s, hs, -⟩
  have hexcess := ((overlong.build_eq_ok_iff .bound).mp hs).2.2 _ (List.mem_singleton_self _)
    (by decide)
  rw [Condition.excess?_replicate (by decide)] at hexcess
  exact Option.some_ne_none _ hexcess

end Configuration
end SelectQuery
