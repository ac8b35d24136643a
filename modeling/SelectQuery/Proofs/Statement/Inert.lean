import SelectQuery.Proofs.Statement.Layout

/-!
# What plays no part in a statement

A configuration holds more than its statement shows: conditions, paths and orderings without a
column, the value beside a test for a missing value, the connector of the first condition,
identifiers, and the parameters of functions. Configurations that differ in nothing else
(`SameUse`) are built alike in both modes, with the same numbers for the parameters or with
the same error (`build_sameUse`).

The conditions are compared once those without a column are left out, for the first of the
others is the first in the clause. What keeps the numbers together is that conditions that are
the same test hand over the same values (`Condition.SameTest.bindings`).
-/

namespace SelectQuery

open Entry

/-! ## The same use -/

/-- A column is kept but for the parameters of its function. -/
def Column.SameUse (x y : Column String) : Prop := ∃ params, y = { x with params }

/-- A pair of columns is kept but for its identifier. -/
def JoinCondition.SameUse (x y : JoinCondition String) : Prop := ∃ id, y = { x with id }

/-- A join is kept but for the identifiers in it. -/
def Join.SameUse (i j : Join String) : Prop :=
  ∃ id conditions, List.Forall₂ JoinCondition.SameUse i.conditions conditions ∧
    j = { i with id, conditions }

/-- The operator of a condition tests for a missing value. -/
def Condition.TestsMissing (x : Condition String) : Prop :=
  ∃ op, x.operator = .term op ∧ op.isNullability = true

/-- A condition tests for the same, whatever its connector and its identifier. -/
structure Condition.SameTest (x y : Condition String) : Prop where
  column : y.column = x.column
  operator : y.operator = x.operator
  value : y.value = x.value ∨ x.TestsMissing

/-- A condition tests for the same behind the same connector. A missing one means `AND`. -/
structure Condition.SameUse (x y : Condition String) : Prop extends Condition.SameTest x y where
  connector : y.connector.getD (.term .and) = x.connector.getD (.term .and)

/-- Conditions are kept one by one, and the first one may have any connector. -/
inductive SameConditions : List (Condition String) → List (Condition String) → Prop
  | nil : SameConditions [] []
  | cons {x y : Condition String} {xs ys : List (Condition String)} (hfirst : x.SameTest y)
      (hrest : List.Forall₂ Condition.SameUse xs ys) : SameConditions (x :: xs) (y :: ys)

namespace Configuration

/-- What has no column is left out. -/
def withoutBlanks (c : Configuration String) : Configuration String :=
  { c with
    conditions := c.conditions.filter (isFilled ·.column)
    groupBy := c.groupBy.filter isFilled
    orderBy := c.orderBy.filter (isFilled ·.column) }

/-- A configuration is kept but for what plays no part in its statement. -/
structure SameUse (c d : Configuration String) : Prop where
  tables : d.tables = c.tables
  columns : List.Forall₂ Column.SameUse c.columns d.columns
  joins : List.Forall₂ Join.SameUse c.joins d.joins
  conditions : SameConditions (c.conditions.filter (isFilled ·.column))
    (d.conditions.filter (isFilled ·.column))
  groupBy : d.groupBy.filter isFilled = c.groupBy.filter isFilled
  orderBy : d.orderBy.filter (isFilled ·.column) = c.orderBy.filter (isFilled ·.column)
  limit : d.limit = c.limit
  distinct : d.distinct = c.distinct

end Configuration

/-! ## Conditions -/

namespace Condition

variable {x y : Condition String}

/-- A test for a missing value has no value, and so does the same condition with another one. -/
theorem TestsMissing.unread (h : x.TestsMissing) (mode : Mode) :
    x.bindings mode = [] ∧ x.excess? mode = none ∧ ∀ start, x.operand? mode start = none := by
  obtain ⟨op, hoperator, hnull⟩ := h
  have hmember : op.isMembership = false := by
    cases op <;> first | rfl | simp [ConditionOperator.isNullability] at hnull
  have hscalars : Literal.scalars op (chars x.value) = [] := by simp [Literal.scalars, hnull]
  have hformat : Literal.format (some op) (chars x.value) = none := by
    simp [Literal.format, hnull]
  have hbindings : x.bindings mode = [] := by
    cases mode with
    | preview => rfl
    | bound => simp [bindings, hoperator, hmember, Literal.values, hscalars]
  refine ⟨hbindings, ?_, fun start => ?_⟩
  · cases mode with
    | preview => rfl
    | bound => simp [excess?, hoperator, Literal.excess?, hscalars]
  · simp only [operand?, hbindings, hoperator, Entered.term?, hformat]
    split <;> rfl

/-- The same test reads the same from its value. -/
theorem SameTest.read (h : x.SameTest y) (mode : Mode) :
    y.bindings mode = x.bindings mode ∧ y.excess? mode = x.excess? mode ∧
      ∀ start, y.operand? mode start = x.operand? mode start := by
  rcases h.value with hvalue | hmissing
  · have hinline : y.isInline mode = x.isInline mode := by
      simp only [isInline, h.operator, hvalue]
    have hbindings : y.bindings mode = x.bindings mode := by
      simp only [bindings, h.operator, hvalue]
    refine ⟨hbindings, ?_, fun start => ?_⟩
    · simp only [excess?, hinline, h.operator, hvalue]
    · simp only [operand?, hinline, hbindings, h.operator, hvalue]
  · have hmissing' : y.TestsMissing := by
      obtain ⟨op, hoperator, hnull⟩ := hmissing
      exact ⟨op, h.operator.trans hoperator, hnull⟩
    obtain ⟨hbindings, hexcess, hoperand⟩ := hmissing.unread mode
    obtain ⟨hbindings', hexcess', hoperand'⟩ := hmissing'.unread mode
    exact ⟨hbindings'.trans hbindings.symm, hexcess'.trans hexcess.symm,
      fun start => (hoperand' start).trans (hoperand start).symm⟩

end Condition

theorem SameConditions.refl (xs : List (Condition String)) : SameConditions xs xs := by
  cases xs with
  | nil => exact .nil
  | cons x xs =>
      refine .cons ⟨rfl, rfl, .inl rfl⟩ ?_
      exact List.forall₂_same.mpr fun x _ => ⟨⟨rfl, rfl, .inl rfl⟩, rfl⟩

theorem SameConditions.forall₂ {xs ys : List (Condition String)} (h : SameConditions xs ys) :
    List.Forall₂ Condition.SameTest xs ys := by
  cases h with
  | nil => exact .nil
  | cons hfirst hrest => exact .cons hfirst (hrest.imp fun _ _ hxy => hxy.toSameTest)

namespace Configuration

namespace SameUse

variable {c d : Configuration String} (h : c.SameUse d)

include h

theorem qualifies : d.qualifies = c.qualifies :=
  qualifies_of_tables h.tables (isEmpty_of_forall₂ h.joins)

theorem activeConditions : SameConditions c.activeConditions d.activeConditions := by
  rw [activeConditions_eq, activeConditions_eq]
  exact h.conditions

theorem fault? (mode : Mode) : d.fault? mode = c.fault? mode := by
  have hconditions : firstFault? (Condition.excess? mode) d.activeConditions =
      firstFault? (Condition.excess? mode) c.activeConditions :=
    firstFault?_of_forall₂ h.activeConditions.forall₂ fun _ _ hxy => (hxy.read mode).2.1
  rw [fault?_eq, fault?_eq, hconditions, limitFault?, limitFault?, h.limit]

theorem bindings (mode : Mode) : d.bindings mode = c.bindings mode :=
  Condition.flatMap_bindings_of_forall₂ h.activeConditions.forall₂ fun _ _ hxy =>
    (hxy.read mode).1

theorem selectClause : d.selectClause = c.selectClause := by
  have hitems : d.selectItems = c.selectItems := by
    unfold selectItems
    rw [isEmpty_of_forall₂ h.columns]
    refine congrArg (ite _ _) ?_
    apply map_eq_of_forall₂ h.columns
    rintro x y ⟨params, rfl⟩
    rw [qualifier_of_tables h.tables]
    rfl
  unfold Configuration.selectClause
  rw [hitems, h.distinct, isEmpty_of_forall₂ h.columns]

theorem fromClauses : d.fromClauses = c.fromClauses :=
  fromClauses_of_tables h.tables

theorem crossClauses : d.crossClauses = c.crossClauses :=
  crossClauses_of_tables h.tables (isEmpty_of_forall₂ h.joins)

theorem joinClause {i j : Join String} (hij : i.SameUse j) : d.joinClause j = c.joinClause i := by
  obtain ⟨id, conditions, hconditions, rfl⟩ := hij
  have hequalities : d.joinEqualities { i with id, conditions } = c.joinEqualities i := by
    unfold joinEqualities
    dsimp only
    rw [qualifier_of_tables h.tables, qualifier_of_tables h.tables]
    refine congrArg (_ :: ·) ?_
    apply map_eq_of_forall₂ hconditions
    rintro x y ⟨id, rfl⟩
    rfl
  unfold Configuration.joinClause joinTarget
  rw [hequalities]
  dsimp only
  rw [tableFor_of_tables h.tables]

/-- The first condition is written without a connector. -/
theorem predicate {x y : Condition String} (hxy : x.SameTest y) {isFirst : Bool}
    (hconnector : isFirst = false →
      y.connector.getD (.term .and) = x.connector.getD (.term .and)) (mode : Mode) (start : ℕ) :
    d.predicate mode isFirst start y = c.predicate mode isFirst start x := by
  have hpath := renderPath_of_tables h.tables c.qualifies x.column
  unfold Configuration.predicate Condition.connectorText
  rw [h.qualifies, text_string, text_string, hxy.column, hpath, hxy.operator,
    (hxy.read mode).2.2 start]
  cases isFirst with
  | true => rfl
  | false => rw [hconnector rfl]

/-- The numbers go on alike, for the same number of values was handed over before. -/
theorem predicates {xs ys : List (Condition String)} (hxy : SameConditions xs ys) (mode : Mode)
    (start : ℕ) : d.predicates mode true start ys = c.predicates mode true start xs := by
  cases hxy with
  | nil => rfl
  | cons hfirst hrest =>
      rw [Configuration.predicates, Configuration.predicates, h.predicate hfirst (by simp),
        (hfirst.read mode).1]
      congr 1
      exact predicates_of_forall₂ hrest
        (fun _ _ hxy _ => h.predicate hxy.toSameTest (fun _ => hxy.connector) mode)
        (fun _ _ hxy => (hxy.toSameTest.read mode).1) false _

theorem whereClauses (mode : Mode) : d.whereClauses mode = c.whereClauses mode := by
  unfold Configuration.whereClauses whereItems
  rw [h.predicates h.activeConditions]

theorem groupClauses : d.groupClauses = c.groupClauses := by
  unfold Configuration.groupClauses
  simp only [not_isBlankEntry, h.groupBy, h.qualifies, renderPath_of_tables h.tables]

theorem orderClauses : d.orderClauses = c.orderClauses := by
  unfold Configuration.orderClauses
  simp only [activeOrderings_eq, h.orderBy, h.qualifies, renderPath_of_tables h.tables]

theorem limitClauses : d.limitClauses = c.limitClauses := by
  unfold Configuration.limitClauses
  rw [h.limit]

end SameUse

/-- What is left out is what is passed over. -/
theorem sameUse_withoutBlanks (c : Configuration String) : c.SameUse c.withoutBlanks := by
  refine ⟨rfl, ?_, ?_, ?_, ?_, ?_, rfl, rfl⟩
  · exact List.forall₂_same.mpr fun x _ => ⟨x.params, rfl⟩
  · refine List.forall₂_same.mpr fun j _ => ⟨j.id, j.conditions, ?_, rfl⟩
    exact List.forall₂_same.mpr fun x _ => ⟨x.id, rfl⟩
  · simpa [withoutBlanks] using .refl (c.conditions.filter (isFilled ·.column))
  · simp [withoutBlanks]
  · simp [withoutBlanks]

/-- What has no column can be left out, and in general nothing depends on what plays no part in
a statement. -/
theorem build_sameUse (c : Configuration String) (mode : Mode) :
    c.withoutBlanks.build mode = c.build mode ∧
      ∀ d, c.SameUse d → d.build mode = c.build mode := by
  have hsame (d : Configuration String) (h : c.SameUse d) : d.build mode = c.build mode := by
    have hjoins : d.joins.map d.joinClause = c.joins.map c.joinClause :=
      map_eq_of_forall₂ h.joins fun _ _ hij => h.joinClause hij
    have hstatement : d.statement mode = c.statement mode := by
      unfold statement clauses
      rw [h.bindings, h.selectClause, h.fromClauses, h.crossClauses, hjoins, h.whereClauses,
        h.groupClauses, h.orderClauses, h.limitClauses]
    unfold build
    rw [h.fault?, hstatement]
  exact ⟨hsame _ c.sameUse_withoutBlanks, hsame⟩

/-- A blank condition in front, a connector that is not read, and a test for a missing value. -/
def cluttered : Configuration String where
  tables := [⟨"users", "", none⟩]
  columns := [⟨"users", "name", "", none, some .upper, ["x"]⟩]
  conditions := [⟨" ", .term .eq, "1", none, "condition_1"⟩,
    ⟨"age", .term .gt, "18", some (.term .or), "condition_2"⟩,
    ⟨"email", .term .isNull, "5", none, "condition_3"⟩,
    ⟨"city", .term .eq, "Rome", some (.term .or), "condition_4"⟩]
  groupBy := ["", "name"]
  orderBy := [⟨"", .term .asc⟩]

/-- The same query with nothing in it that is not read. -/
def tidy : Configuration String where
  tables := [⟨"users", "", none⟩]
  columns := [⟨"users", "name", "", none, some .upper, []⟩]
  conditions := [⟨"age", .term .gt, "18", none, "a"⟩,
    ⟨"email", .term .isNull, "", some (.term .and), "b"⟩,
    ⟨"city", .term .eq, "Rome", some (.term .or), "c"⟩]
  groupBy := ["name"]

theorem build_sameUse_tidy :
    cluttered.SameUse tidy ∧ ∀ mode, tidy.build mode = cluttered.build mode := by
  have hsame : cluttered.SameUse tidy := by
    refine ⟨rfl, .cons ⟨[], rfl⟩ .nil, .nil, ?_, rfl, rfl, rfl, rfl⟩
    refine .cons ⟨rfl, rfl, .inl rfl⟩ (.cons ?_ (.cons ?_ .nil))
    · exact ⟨⟨rfl, rfl, .inr ⟨.isNull, rfl, rfl⟩⟩, rfl⟩
    · exact ⟨⟨rfl, rfl, .inl rfl⟩, rfl⟩
  exact ⟨hsame, fun mode => (build_sameUse cluttered mode).2 tidy hsame⟩

end Configuration
end SelectQuery
