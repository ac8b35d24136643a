import SelectQuery.Dialect.Adaptation
import SelectQuery.Proofs.Literal.Operand
import SelectQuery.Proofs.Statement.Parts
import SelectQuery.Proofs.Statement.Pointwise

/-!
# Preview and bound statement

A configuration has two statements: the preview, with the values in its text, and the one
that is run, with placeholders and the values beside it. They differ in the value parts of
conditions only (`Modes`).

Every part of `Configuration.clauses` but `WHERE` is the same list in both modes, so the
work is on `predicates`. It numbers the placeholders on from condition to condition, and
the invariant is where a condition starts: behind the values of the bound conditions in
front of it (`predicates_append`).
-/

namespace SelectQuery

variable {ν : Type} [Entry ν]

open Entry

/-! ## What is stated -/

/-- A condition hands its values over. A membership test does so for a list of literals
only, and a condition without a known operator never. -/
def Condition.isBound (x : Condition ν) : Bool :=
  match x.operator with
  | .term op => !op.isMembership || Literal.isLiteralList (chars x.value)
  | .verbatim _ => false

/-- What the value of a condition is read as. -/
def Condition.parsed (x : Condition ν) : List Literal :=
  match x.operator with
  | .term op => Literal.values op (chars x.value)
  | .verbatim _ => []

/-- The values of the bound ones among some conditions, in their order. -/
def parsedValues (xs : List (Condition ν)) : List Literal :=
  (xs.filter Condition.isBound).flatMap Condition.parsed

/-- The shape in which an operator has its placeholders. -/
inductive Shaped (op : ConditionOperator) : List String → Option String → Prop
  | absent : Shaped op [] none
  | list {names : List String} (hop : op.isMembership = true) (hnames : names ≠ []) :
      Shaped op names (some ("(" ++ ", ".intercalate names ++ ")"))
  | range {low high : String} (hop : op.isRange = true) :
      Shaped op [low, high] (some (low ++ " AND " ++ high))
  | single {name : String} (hop : op.isMembership = false) : Shaped op [name] (some name)

/-- Two items of `WHERE` agree on everything but what their value parts are. -/
structure Predicate.SameButValue (p q : Predicate) : Prop where
  connector : p.connector = q.connector
  column : p.column = q.column
  operator : p.operator = q.operator
  presence : p.operand.isSome = q.operand.isSome

/-- Two clauses are of one kind, and are equal but for the items of `WHERE`. -/
structure Clause.SameButWhere (a b : Clause ν) : Prop where
  kind : a.kind = b.kind
  keyword : a.keyword = b.keyword
  separator : a.separator = b.separator
  multiline : a.multiline = b.multiline
  items : a.kind ≠ .where → a.items = b.items

/-- The items of `WHERE` in a statement. -/
def Statement.predicates (s : Statement ν) : List Predicate :=
  (s.itemsOf .where).filterMap fun
    | .predicate p => some p
    | .entry _ => none

/-- The two statements of a configuration belong together. -/
structure Modes (c : Configuration ν) (preview bound : Statement ν) : Prop where
  clauses : List.Forall₂ Clause.SameButWhere preview.clauses bound.clauses
  predicates : List.Forall₂ Predicate.SameButValue preview.predicates bound.predicates
  /-- Nothing else stands in `WHERE`. -/
  items : preview.itemsOf .where = preview.predicates.map .predicate ∧
    bound.itemsOf .where = bound.predicates.map .predicate
  previewParams : preview.params = []
  names : bound.params.map Prod.fst =
    (List.range bound.params.length).map fun i => "p" ++ toString (i + 1)
  values : bound.params.map Prod.snd = parsedValues c.activeConditions
  /-- A bound condition has the placeholders of its own values, which follow on each other
  behind those of the conditions in front of it. -/
  handed : ∀ before x after op, c.activeConditions = before ++ x :: after →
    x.operator = .term op → x.isBound = true →
      ∃ earlier run later, bound.params = earlier ++ run ++ later ∧
        earlier.map Prod.snd = parsedValues before ∧ run.map Prod.snd = x.parsed ∧
        ∃ p, bound.predicates[before.length]? = some p ∧
          Shaped op (run.map fun param => ":" ++ param.1) (p.operand.map Operand.text)
  /-- Any other condition is written as in the preview. -/
  written : ∀ before x after, c.activeConditions = before ++ x :: after → x.isBound = false →
    bound.predicates[before.length]? = preview.predicates[before.length]?

/-! ## Faults -/

namespace Configuration

/-- Entries of text are rendered unless an integer has too many digits. -/
theorem build_string (c : Configuration String) (mode : Mode)
    (h : ∀ x ∈ c.activeConditions, x.excess? mode = none) (hlimit : c.PrintsLimit) :
    c.build mode = .ok (c.statement mode) := by
  have hconditions : firstFault? (c.conditionFault? mode) c.conditions = none := by
    rw [firstFault?, List.findSome?_eq_none_iff]
    intro x hx
    simp only [conditionFault?, textFault?, isText_string, if_true, pathFault?_string]
    by_cases hblank : isBlankEntry x.column = true
    · rw [if_pos hblank]
    · rw [if_neg hblank]
      exact h x (List.mem_filter.mpr ⟨hx, by simp [hblank]⟩)
  have hfault : c.fault? mode = none := by
    rw [fault?_string, hconditions, c.limitFault?_eq_none_iff.mpr hlimit]
    rfl
  rw [build, hfault]

theorem build_preview (c : Configuration String) (hlimit : c.PrintsLimit) :
    c.build .preview = .ok (c.statement .preview) := c.build_string .preview (fun _ _ => rfl) hlimit

/-- Without a dialect to adapt to, entries of text are shown if the row limit is. -/
theorem preview_string (c : Configuration String) {dialect : Option String}
    (hlimit : c.PrintsLimit) (hdialect : targetDialect? dialect = none) (lib : Translator) :
    c.preview lib dialect = .ok (c.statement .preview).text := by
  have hrender : (c.statement .preview).render = .ok (c.statement .preview).text := by
    rw [Statement.render, Statement.textFault?_string]
  rw [preview, c.build_preview hlimit]
  change ((c.statement .preview).render >>= adapt lib dialect) = _
  rw [hrender]
  change adapt lib dialect (c.statement .preview).text = _
  rw [adapt, hdialect]

/-- Without a dialect to adapt to, a bound statement is handed over as it is. -/
theorem prepare_string (c : Configuration String) {dialect : Option String}
    {s : Statement String} (h : c.build .bound = .ok s) (hdialect : targetDialect? dialect = none)
    (lib : Translator) : c.prepare lib dialect = .ok ⟨s.text, s.params, s.kinds⟩ := by
  have hrender : s.render = .ok s.text := by
    rw [Statement.render, Statement.textFault?_string]
  rw [prepare, h]
  show (s.render >>= _) = _
  rw [hrender, hdialect]
  rfl

end Configuration

/-! ## Value parts -/

namespace Condition

theorem bindings_preview (x : Condition ν) : x.bindings .preview = [] := rfl

theorem isInline_preview (x : Condition ν) : x.isInline .preview = true := rfl

theorem isInline_bound (x : Condition ν) : x.isInline .bound = !x.isBound := by
  cases h : x.operator with
  | term op => simp [isInline, isBound, h]
  | verbatim s => simp [isInline, isBound, h]

theorem bindings_bound (x : Condition ν) :
    x.bindings .bound = if x.isBound then x.parsed else [] := by
  cases h : x.operator with
  | term op => cases hmember : op.isMembership <;>
      cases hlist : Literal.isLiteralList (chars x.value) <;>
      simp [bindings, isBound, parsed, h, hmember, hlist]
  | verbatim s => simp [bindings, isBound, h]

theorem operand?_of_not_isBound {x : Condition ν} (h : x.isBound = false) (start start' : ℕ) :
    x.operand? .bound start = x.operand? .preview start' := by
  simp [operand?, isInline_bound, isInline_preview, h]

theorem operand?_of_isBound {x : Condition ν} {op : ConditionOperator} (h : x.isBound = true)
    (hop : x.operator = .term op) (start : ℕ) :
    x.operand? .bound start =
      if x.parsed.length = 0 then none
      else some (.bound (shape op x.parsed.length) start x.parsed.length) := by
  simp [operand?, isInline_bound, h, hop, bindings_bound]

/-- A value part stands in both statements or in neither. -/
theorem isSome_operand? (x : Condition ν) (start start' : ℕ) :
    (x.operand? .preview start).isSome = (x.operand? .bound start').isSome := by
  cases h : x.isBound with
  | false =>
      rw [operand?_of_not_isBound h start' start]
  | true =>
      cases hop : x.operator with
      | verbatim s => simp [isBound, hop] at h
      | term op =>
          have hformat := @Literal.isSome_format op (chars x.value) (by
            intro hmember
            simpa [isBound, hop, hmember] using h)
          rw [operand?_of_isBound h hop]
          simp only [operand?, isInline_preview, if_true, hop, Entered.term?, Option.isSome_map,
            hformat, parsed]
          cases Literal.values op (chars x.value) <;> rfl

/-- The placeholders of a bound condition have the shape of its operator. -/
theorem shaped_operand? {x : Condition ν} {op : ConditionOperator} (h : x.isBound = true)
    (hop : x.operator = .term op) (start : ℕ) :
    Shaped op (placeholders start x.parsed.length)
      ((x.operand? .bound start).map Operand.text) := by
  rw [operand?_of_isBound h hop]
  by_cases hnone : x.parsed.length = 0
  · rw [if_pos hnone, hnone]
    exact .absent
  rw [if_neg hnone, Option.map_some]
  by_cases hmember : op.isMembership = true
  · have hshape : shape op x.parsed.length = .list := if_pos hmember
    rw [hshape]
    refine .list hmember ?_
    simp [placeholders, hnone]
  rw [Bool.not_eq_true] at hmember
  have hparsed : x.parsed = Literal.values op (chars x.value) := by rw [parsed, hop]
  have hlength := @Literal.length_values op (chars x.value) hmember
  rw [← hparsed] at hlength
  -- outside of lists there are two values for two bounds, and one otherwise
  by_cases htwo : op.isRange = true ∧ x.parsed.length = 2
  · have hshape : shape op x.parsed.length = .range := by simp [shape, hmember, htwo]
    rw [hshape, htwo.2]
    exact .range htwo.1
  · have hone : x.parsed.length = 1 := by
      have := hlength.resolve_left htwo
      omega
    have hshape : shape op x.parsed.length = .single := by simp [shape, hmember, hone]
    rw [hshape, hone]
    exact .single hmember

end Condition

/-! ## Parameters -/

/-- Values with the names of the parameters from a number on. -/
def namedFrom (start : ℕ) (values : List Literal) : List (String × Literal) :=
  (values.zipIdx start).map fun (v, i) => (parameterName (i + 1), v)

theorem Configuration.named_eq (values : List Literal) : named values = namedFrom 0 values := rfl

theorem namedFrom_append (start : ℕ) (vs ws : List Literal) :
    namedFrom start (vs ++ ws) = namedFrom start vs ++ namedFrom (start + vs.length) ws := by
  rw [namedFrom, List.zipIdx_append, List.map_append]
  rfl

theorem map_snd_namedFrom (start : ℕ) (values : List Literal) :
    (namedFrom start values).map Prod.snd = values := by
  rw [namedFrom, List.map_map]
  exact List.zipIdx_map_fst start values

theorem map_fst_namedFrom (start : ℕ) (values : List Literal) :
    (namedFrom start values).map Prod.fst =
      (List.range' start values.length).map fun i => parameterName (i + 1) := by
  rw [namedFrom, List.map_map, ← List.zipIdx_map_snd start values, List.map_map]
  rfl

theorem placeholders_namedFrom (start : ℕ) (values : List Literal) :
    (namedFrom start values).map (fun param => ":" ++ param.1) =
      placeholders (start + 1) values.length := by
  have hnames := congrArg (List.map fun name => ":" ++ name) (map_fst_namedFrom start values)
  rw [List.map_map, List.map_map] at hnames
  rw [placeholders, List.range'_succ_left, List.map_map]
  exact hnames

/-! ## The items of `WHERE` -/

namespace Configuration

variable {c : Configuration ν}

theorem flatMap_bindings_bound (xs : List (Condition ν)) :
    xs.flatMap (Condition.bindings .bound) = parsedValues xs := by
  induction xs with
  | nil => rfl
  | cons x xs ih =>
      rw [List.flatMap_cons, ih, Condition.bindings_bound]
      cases h : x.isBound with
      | false => simp [parsedValues, h]
      | true => simp [parsedValues, h]

theorem length_predicates (mode : Mode) (isFirst : Bool) (start : ℕ) (xs : List (Condition ν)) :
    (c.predicates mode isFirst start xs).length = xs.length := by
  induction xs generalizing isFirst start with
  | nil => rfl
  | cons x xs ih => rw [predicates, List.length_cons, List.length_cons, ih]

/-- Conditions behind others are numbered on from the values of those. -/
theorem predicates_append (mode : Mode) (isFirst : Bool) (start : ℕ)
    (xs ys : List (Condition ν)) :
    c.predicates mode isFirst start (xs ++ ys) =
      c.predicates mode isFirst start xs ++
        c.predicates mode (isFirst && xs.isEmpty)
          (start + (xs.flatMap (Condition.bindings mode)).length) ys := by
  induction xs generalizing isFirst start with
  | nil => simp [predicates]
  | cons x xs ih =>
      simp [predicates, ih, Nat.add_assoc]

/-- The item of the condition behind some others. -/
theorem getElem?_whereItems {mode : Mode} {before after : List (Condition ν)} {x : Condition ν}
    (h : c.activeConditions = before ++ x :: after) :
    (c.whereItems mode)[before.length]? =
      some (c.predicate mode before.isEmpty
        (1 + (before.flatMap (Condition.bindings mode)).length) x) := by
  rw [whereItems, h, predicates_append, List.getElem?_append_right (by rw [length_predicates]),
    length_predicates, Nat.sub_self]
  rfl

theorem sameButValue_predicates (isFirst : Bool) (start start' : ℕ) (xs : List (Condition ν)) :
    List.Forall₂ Predicate.SameButValue (c.predicates .preview isFirst start xs)
      (c.predicates .bound isFirst start' xs) := by
  induction xs generalizing isFirst start start' with
  | nil => exact .nil
  | cons x xs ih =>
      exact .cons ⟨rfl, rfl, rfl, x.isSome_operand? start start'⟩ (ih ..)

/-! ## Clauses -/

theorem itemsOf_where (c : Configuration ν) (mode : Mode) :
    (c.statement mode).itemsOf .where = (c.whereItems mode).map .predicate := by
  rw [itemsOf_statement, part, whereClauses, flatMap_items_clauseOf]

theorem predicates_statement (c : Configuration ν) (mode : Mode) :
    (c.statement mode).predicates = c.whereItems mode := by
  rw [Statement.predicates, itemsOf_where, List.filterMap_map]
  exact List.filterMap_some

theorem sameButWhere_whereClauses (c : Configuration ν) :
    List.Forall₂ Clause.SameButWhere (c.whereClauses .preview) (c.whereClauses .bound) := by
  have hempty : (c.whereItems .preview).isEmpty = (c.whereItems .bound).isEmpty := by
    rw [Bool.eq_iff_iff, List.isEmpty_iff_length_eq_zero, List.isEmpty_iff_length_eq_zero,
      whereItems, whereItems, length_predicates, length_predicates]
  rw [whereClauses, whereClauses, clauseOf, clauseOf, List.isEmpty_map, List.isEmpty_map, hempty]
  split
  · exact .nil
  · exact .cons ⟨rfl, rfl, rfl, rfl, fun h => absurd rfl h⟩ .nil

theorem sameButWhere_clauses (c : Configuration ν) :
    List.Forall₂ Clause.SameButWhere (c.clauses .preview) (c.clauses .bound) := by
  obtain ⟨front, back, hclauses⟩ := c.clauses_eq
  have hsame (clauses : List (Clause ν)) : List.Forall₂ Clause.SameButWhere clauses clauses :=
    List.forall₂_same.mpr fun clause _ => ⟨rfl, rfl, rfl, rfl, fun _ => rfl⟩
  rw [hclauses, hclauses]
  exact List.rel_append (List.rel_append (hsame front) c.sameButWhere_whereClauses) (hsame back)

/-! ## The two statements -/

theorem modes_statement (c : Configuration ν) :
    Modes c (c.statement .preview) (c.statement .bound) where
  clauses := c.sameButWhere_clauses
  predicates := by
    rw [predicates_statement, predicates_statement]
    exact sameButValue_predicates true 1 1 c.activeConditions
  items := by
    rw [predicates_statement, predicates_statement]
    exact ⟨c.itemsOf_where .preview, c.itemsOf_where .bound⟩
  previewParams := by
    simp [statement, bindings, Condition.bindings_preview, named]
  names := by
    have hlength : (namedFrom 0 (c.bindings .bound)).length = (c.bindings .bound).length := by
      rw [namedFrom, List.length_map, List.length_zipIdx]
    rw [statement, named_eq, hlength, map_fst_namedFrom, ← List.range_eq_range']
    rfl
  values := by
    rw [statement, bindings, flatMap_bindings_bound, named_eq, map_snd_namedFrom]
  handed := by
    intro before x after op hsplit hop hbound
    have hvalues : c.bindings .bound = parsedValues before ++ x.parsed ++ parsedValues after := by
      simp [bindings, hsplit, flatMap_bindings_bound, Condition.bindings_bound, hbound]
    -- the parameters split where the values do, and the numbers go on
    refine ⟨namedFrom 0 (parsedValues before),
      namedFrom (parsedValues before).length x.parsed,
      namedFrom (parsedValues before ++ x.parsed).length (parsedValues after), ?_, ?_, ?_, ?_⟩
    · rw [statement, hvalues, named_eq, namedFrom_append, namedFrom_append, Nat.zero_add,
        Nat.zero_add]
    · rw [map_snd_namedFrom]
    · rw [map_snd_namedFrom]
    · rw [predicates_statement, getElem?_whereItems hsplit, flatMap_bindings_bound,
        placeholders_namedFrom, Nat.add_comm 1]
      exact ⟨_, rfl, Condition.shaped_operand? hbound hop _⟩
  written := by
    intro before x after hsplit hbound
    rw [predicates_statement, predicates_statement, getElem?_whereItems hsplit,
      getElem?_whereItems hsplit, predicate, predicate]
    rw [Condition.operand?_of_not_isBound hbound]

/-- A configuration with entries of text has both statements, and they belong together,
unless an integer that is handed over, or the row limit, has too many digits. -/
theorem build_modes (c : Configuration String)
    (hdigits : ∀ x ∈ c.activeConditions, x.excess? .bound = none) (hlimit : c.PrintsLimit) :
    ∃ preview bound, c.build .preview = .ok preview ∧ c.build .bound = .ok bound ∧
      Modes c preview bound :=
  ⟨c.statement .preview, c.statement .bound, c.build_preview hlimit,
    c.build_string .bound hdigits hlimit, c.modes_statement⟩

/-- Two bounds, a condition without a column, and a test for a missing value. -/
def screened : Configuration String where
  tables := [⟨"users", "public", none⟩]
  conditions := [⟨"users.age", .term .between, "18 and 30", none, "condition_1"⟩,
    ⟨" ", .term .eq, "1", none, "condition_2"⟩,
    ⟨"users.email", .term .isNull, "", some (.term .or), "condition_3"⟩]

theorem build_modes_screened :
    (∀ x ∈ screened.activeConditions, x.excess? .bound = none) ∧ screened.PrintsLimit ∧
    ∃ preview bound, screened.build .preview = .ok preview ∧ screened.build .bound = .ok bound ∧
      Modes screened preview bound := by
  have hdigits : ∀ x ∈ screened.activeConditions, x.excess? .bound = none := by decide
  have hlimit : screened.PrintsLimit := by simp [PrintsLimit, screened]
  exact ⟨hdigits, hlimit, build_modes screened hdigits hlimit⟩

end Configuration
end SelectQuery
