import SelectQuery.Proofs.Statement.Pointwise

/-!
# Configurations that are rendered alike

A configuration with any entries and one with values in their place have the same statement
if they agree on what is rendered (`Configuration.Alike`): the values are those of the
entries, and aliases that do not count may be missing. Identifiers and the parameters of
functions are rendered nowhere, so that nothing is asked of them.

Every rendering function has one lemma here. Those for tables come first, because columns,
joins and paths all look references up among them.
-/

namespace SelectQuery

open Entry

/-- Entries whose texts are texts as values too. -/
class LawfulEntry (ν : Type) [Entry ν] : Prop where
  toValue_ofText : ∀ s : String, Entry.toValue (Entry.ofText s : ν) = .text s

instance : LawfulEntry String := ⟨fun _ => rfl⟩

instance : LawfulEntry Value := ⟨fun _ => rfl⟩

variable {ν : Type} [Entry ν]

/-! ## What is compared -/

/-- A table is rendered like another one. -/
structure Table.Alike (t : Table ν) (u : Table Value) : Prop where
  name : u.name = Entry.toValue t.name
  schema : u.schema = Entry.toValue t.schema
  aliasName : present? u.aliasName = (present? t.aliasName).map Entry.toValue

/-- A column is rendered like another one. -/
structure Column.Alike (c : Column ν) (d : Column Value) : Prop where
  table : d.table = Entry.toValue c.table
  name : d.name = Entry.toValue c.name
  schema : d.schema = Entry.toValue c.schema
  aliasName : present? d.aliasName = (present? c.aliasName).map Entry.toValue
  function : d.function = c.function

/-- A further condition of a join is rendered like another one. -/
structure JoinCondition.Alike (c : JoinCondition ν) (d : JoinCondition Value) : Prop where
  left : d.left = Entry.toValue c.left
  right : d.right = Entry.toValue c.right

/-- A join is rendered like another one. -/
structure Join.Alike (i : Join ν) (j : Join Value) : Prop where
  leftTable : j.leftTable = Entry.toValue i.leftTable
  leftColumn : j.leftColumn = Entry.toValue i.leftColumn
  rightTable : j.rightTable = Entry.toValue i.rightTable
  rightColumn : j.rightColumn = Entry.toValue i.rightColumn
  type : j.type = i.type
  conditions : List.Forall₂ JoinCondition.Alike i.conditions j.conditions

/-- A condition is rendered like another one. -/
structure Condition.Alike (c : Condition ν) (d : Condition Value) : Prop where
  column : d.column = Entry.toValue c.column
  operator : d.operator = c.operator
  value : d.value = Entry.toValue c.value
  connector : d.connector = c.connector

/-- An ordering is rendered like another one. -/
structure Ordering.Alike (o : Ordering ν) (p : Ordering Value) : Prop where
  column : p.column = Entry.toValue o.column
  direction : p.direction = o.direction

/-- A configuration is rendered like another one. -/
structure Configuration.Alike (c : Configuration ν) (d : Configuration Value) : Prop where
  tables : List.Forall₂ Table.Alike c.tables d.tables
  columns : List.Forall₂ Column.Alike c.columns d.columns
  joins : List.Forall₂ Join.Alike c.joins d.joins
  conditions : List.Forall₂ Condition.Alike c.conditions d.conditions
  groupBy : d.groupBy = c.groupBy.map Entry.toValue
  orderBy : List.Forall₂ Ordering.Alike c.orderBy d.orderBy
  limit : d.limit = c.limit
  distinct : d.distinct.isOn = c.distinct.isOn

/-! ## Statements with values for entries -/

/-- An item with its entry as a value. -/
def Item.values : Item ν → Item Value
  | .entry v => .entry (Entry.toValue v)
  | .predicate p => .predicate p

/-- A clause with its entries as values. -/
def Clause.values (c : Clause ν) : Clause Value :=
  { kind := c.kind, keyword := c.keyword, items := c.items.map Item.values
    separator := c.separator, multiline := c.multiline }

/-- A statement with its entries as values. -/
def Statement.values (s : Statement ν) : Statement Value :=
  ⟨s.clauses.map Clause.values, s.params⟩

@[simp] theorem Item.text_values (item : Item ν) : item.values.text = item.text := by
  cases item <;> rfl

@[simp] theorem Item.isText_values (item : Item ν) : item.values.isText = item.isText := by
  cases item <;> rfl

theorem Clause.text_values (c : Clause ν) : c.values.text = c.text := by
  have hitems : c.values.items.map Item.text = c.items.map Item.text := by simp [Clause.values]
  unfold Clause.text
  rw [hitems]
  rfl

/-- Entries read the same as values. -/
theorem Statement.render_values (s : Statement ν) : s.values.render = s.render := by
  have hfault : s.values.textFault? = s.textFault? := by
    simp [textFault?, values, Clause.values, Function.comp_def]
  have hclauses : s.values.clauses.map Clause.text = s.clauses.map Clause.text := by
    unfold values
    rw [List.map_map]
    exact List.map_congr_left fun c _ => c.text_values
  unfold render text
  rw [hfault, hclauses]

/-! ## Entries as values -/

namespace Entry

theorem text_toValue (v : ν) : text (Entry.toValue v) = text v := rfl

theorem chars_toValue (v : ν) : chars (Entry.toValue v) = chars v := rfl

theorem isPresent_toValue (v : ν) : isPresent (Entry.toValue v) = isPresent v := rfl

theorem isText_toValue (v : ν) : isText (Entry.toValue v) = isText v := rfl

theorem ofText_value (s : String) : (ofText s : Value) = .text s := rfl

variable [LawfulEntry ν]

@[simp] theorem toValue_ofText (s : String) : Entry.toValue (ofText s : ν) = .text s :=
  LawfulEntry.toValue_ofText s

theorem toValue_blank : Entry.toValue (blank : ν) = (blank : Value) := toValue_ofText ""

end Entry

/-! ## Tables -/

variable [LawfulEntry ν]

namespace Table.Alike

variable {t : Table ν} {u : Table Value}

theorem qualifiedName (h : t.Alike u) : u.qualifiedName = Entry.toValue t.qualifiedName := by
  unfold Table.qualifiedName
  rw [h.name, h.schema, isPresent_toValue]
  split
  · exact (toValue_ofText _).symm
  · rfl

theorem references (h : t.Alike u) : u.references = t.references.map Entry.toValue := by
  unfold Table.references
  rw [h.name, h.qualifiedName, h.aliasName]
  cases present? t.aliasName <;> rfl

theorem answersTo (h : t.Alike u) (reference : ν) :
    u.answersTo (Entry.toValue reference) = t.answersTo reference := by
  unfold Table.answersTo
  rw [h.references, List.any_map]
  rfl

omit [LawfulEntry ν] in
theorem inSchema (h : t.Alike u) (schema : ν) :
    u.inSchema (Entry.toValue schema) = t.inSchema schema := by
  unfold Table.inSchema
  rw [h.schema]
  rfl

theorem isSearchable (h : t.Alike u) : u.isSearchable = t.isSearchable := by
  unfold Table.isSearchable
  rw [h.references, List.all_map]
  rfl

omit [LawfulEntry ν] in
theorem qualifier (h : t.Alike u) (reference : ν) :
    u.qualifier (Entry.toValue reference) = Entry.toValue (t.qualifier reference) := by
  unfold Table.qualifier
  rw [h.aliasName]
  cases present? t.aliasName <;> rfl

theorem render (h : t.Alike u) : u.render = Entry.toValue t.render := by
  unfold Table.render
  rw [h.aliasName, h.qualifiedName]
  cases present? t.aliasName with
  | none => rfl
  | some a => exact (toValue_ofText _).symm

end Table.Alike

/-- A reference means no table on either side, or tables that are alike. -/
theorem tableFor_alike {ts : List (Table ν)} {us : List (Table Value)}
    (h : List.Forall₂ Table.Alike ts us) (reference schema : ν) :
    (tableFor ts reference schema = none ∧
      tableFor us (Entry.toValue reference) (Entry.toValue schema) = none) ∨
    ∃ t u, tableFor ts reference schema = some t ∧
      tableFor us (Entry.toValue reference) (Entry.toValue schema) = some u ∧ t.Alike u := by
  induction h with
  | nil => exact .inl ⟨rfl, rfl⟩
  | @cons t u ts us htu _ ih =>
      unfold tableFor at *
      rw [List.find?_cons, List.find?_cons, htu.answersTo, htu.inSchema]
      cases t.answersTo reference && t.inSchema schema with
      | true => exact .inr ⟨t, u, rfl, rfl, htu⟩
      | false => exact ih

theorem lookupFails_alike {ts : List (Table ν)} {us : List (Table Value)}
    (h : List.Forall₂ Table.Alike ts us) (reference schema : ν) :
    lookupFails (Entry.toValue reference) (Entry.toValue schema) us =
      lookupFails reference schema ts := by
  induction h with
  | nil => rfl
  | cons htu _ ih =>
      unfold lookupFails
      rw [htu.isSearchable, htu.answersTo, htu.inSchema, ih]
      rfl

namespace Configuration.Alike

variable {c : Configuration ν} {d : Configuration Value}

theorem qualifier (h : c.Alike d) (reference schema : ν) :
    d.qualifier (Entry.toValue reference) (Entry.toValue schema) =
      Entry.toValue (c.qualifier reference schema) := by
  unfold Configuration.qualifier Configuration.tableFor
  rcases tableFor_alike h.tables reference schema with ⟨hc, hd⟩ | ⟨t, u, hc, hd, htu⟩
  · rw [hc, hd]
  · rw [hc, hd]
    exact htu.qualifier reference

theorem lookupFault? (h : c.Alike d) (reference schema : ν) :
    d.lookupFault? (Entry.toValue reference) (Entry.toValue schema) =
      c.lookupFault? reference schema := by
  unfold Configuration.lookupFault?
  rw [lookupFails_alike h.tables]

theorem renderPath (h : c.Alike d) (qualify : Bool) (path : String) :
    d.renderPath qualify path = c.renderPath qualify path := by
  unfold Configuration.renderPath
  cases ColumnPath.parse? path with
  | none => rfl
  | some p =>
      cases htable : p.table with
      | none => simp [htable]
      | some r =>
          have hqualifier := h.qualifier (ofText r) (ofText (p.schema.getD ""))
          rw [toValue_ofText, toValue_ofText] at hqualifier
          simp only [htable, ofText_value, hqualifier, text_toValue]

theorem pathFault? (h : c.Alike d) (qualify : Bool) (path : String) :
    d.pathFault? qualify path = c.pathFault? qualify path := by
  unfold Configuration.pathFault?
  cases ColumnPath.parse? path with
  | none => rfl
  | some p =>
      cases htable : p.table with
      | none => simp [htable]
      | some r =>
          have hfault := h.lookupFault? (ofText r) (ofText (p.schema.getD ""))
          rw [toValue_ofText, toValue_ofText] at hfault
          simp only [htable, ofText_value, hfault]

omit [LawfulEntry ν] in
theorem qualifies (h : c.Alike d) : d.qualifies = c.qualifies := by
  unfold Configuration.qualifies
  rw [h.tables.length_eq, isEmpty_of_forall₂ h.joins]

end Configuration.Alike

/-! ## Columns and joins -/

namespace Column.Alike

variable {c : Column ν} {d : Column Value}

theorem applied (h : c.Alike d) (qualifier : ν) :
    d.applied (Entry.toValue qualifier) = Entry.toValue (c.applied qualifier) := by
  have hqualified :
      d.qualified (Entry.toValue qualifier) = Entry.toValue (c.qualified qualifier) := by
    unfold Column.qualified
    rw [h.name, isPresent_toValue]
    split
    · exact (toValue_ofText _).symm
    · rfl
  unfold Column.applied
  rw [h.function, h.name, hqualified]
  cases c.function with
  | none => rfl
  | some f =>
      simp only [toValue_ofText, ofText_value, Entry.same]
      rfl

theorem render (h : c.Alike d) (qualifier : ν) :
    d.render (Entry.toValue qualifier) = Entry.toValue (c.render qualifier) := by
  unfold Column.render
  rw [h.aliasName, h.applied]
  cases present? c.aliasName with
  | none => rfl
  | some a => exact (toValue_ofText _).symm

theorem renderFault? (h : c.Alike d) (qualifier : ν) :
    d.renderFault? (Entry.toValue qualifier) = c.renderFault? qualifier := by
  unfold Column.renderFault?
  rw [h.aliasName, h.applied, Option.isSome_map, isText_toValue]

end Column.Alike

namespace Configuration.Alike

variable {c : Configuration ν} {d : Configuration Value}

theorem selectClause (h : c.Alike d) : d.selectClause = c.selectClause.values := by
  have hitems : d.selectItems = c.selectItems.map Item.values := by
    unfold selectItems
    rw [isEmpty_of_forall₂ h.columns]
    cases c.columns.isEmpty with
    | true => simp [Item.values, ofText_value]
    | false =>
        simp only [Bool.false_eq_true, if_false, List.map_map]
        apply map_eq_of_forall₂ h.columns
        intro x y hxy
        rw [hxy.table, hxy.schema, h.qualifier, hxy.render]
        rfl
  unfold Configuration.selectClause
  rw [hitems, h.distinct, isEmpty_of_forall₂ h.columns]
  rfl

/-- The clause of a table behind a keyword. -/
theorem tableClauses {ts : List (Table ν)} {us : List (Table Value)}
    (h : List.Forall₂ Table.Alike ts us) (kind : ClauseKind) (keyword : String) :
    (us.map fun u => ({ kind, keyword, items := [.entry u.render] } : Clause Value)) =
      (ts.map fun t => ({ kind, keyword, items := [.entry t.render] } : Clause ν)).map
        Clause.values := by
  rw [List.map_map]
  apply map_eq_of_forall₂ h
  intro t u htu
  rw [htu.render]
  rfl

theorem fromClauses (h : c.Alike d) : d.fromClauses = c.fromClauses.map Clause.values := by
  have hanchor : List.Forall₂ Table.Alike c.anchor?.toList d.anchor?.toList := by
    have htables := h.tables
    unfold anchor?
    generalize c.tables = ts, d.tables = us at htables
    cases htables with
    | nil => exact .nil
    | cons htu _ => exact .cons htu .nil
  exact tableClauses hanchor .from "FROM"

theorem crossClauses (h : c.Alike d) : d.crossClauses = c.crossClauses.map Clause.values := by
  have htail : List.Forall₂ Table.Alike c.tables.tail d.tables.tail := by
    have htables := h.tables
    generalize c.tables = ts, d.tables = us at htables
    cases htables with
    | nil => exact .nil
    | cons _ hrest => exact hrest
  unfold Configuration.crossClauses
  rw [isEmpty_of_forall₂ h.joins]
  cases c.joins.isEmpty with
  | true => exact tableClauses htail .join "CROSS JOIN"
  | false => rfl

theorem joinTarget (h : c.Alike d) {i : Join ν} {j : Join Value} (hij : i.Alike j) :
    d.joinTarget j = Entry.toValue (c.joinTarget i) := by
  unfold Configuration.joinTarget Configuration.tableFor
  rw [hij.rightTable, ← toValue_blank (ν := ν)]
  rcases tableFor_alike h.tables i.rightTable blank with ⟨hc, hd⟩ | ⟨t, u, hc, hd, htu⟩
  · rw [hc, hd]
  · rw [hc, hd]
    exact htu.render

theorem joinEqualities (h : c.Alike d) {i : Join ν} {j : Join Value} (hij : i.Alike j) :
    d.joinEqualities j = c.joinEqualities i := by
  have hleft := h.qualifier i.leftTable blank
  have hright := h.qualifier i.rightTable blank
  rw [toValue_blank] at hleft hright
  unfold Configuration.joinEqualities
  rw [hij.leftTable, hij.leftColumn, hij.rightTable, hij.rightColumn, hleft, hright]
  apply congrArg (List.cons _)
  apply map_eq_of_forall₂ hij.conditions
  intro x y hxy
  rw [hxy.left, hxy.right]
  rfl

theorem joinClause (h : c.Alike d) {i : Join ν} {j : Join Value} (hij : i.Alike j) :
    d.joinClause j = (c.joinClause i).values := by
  unfold Configuration.joinClause
  rw [h.joinTarget hij, h.joinEqualities hij, hij.type, text_toValue]
  simp [Clause.values, Item.values, ofText_value]

end Configuration.Alike

/-! ## Conditions -/

namespace Condition.Alike

omit [LawfulEntry ν]

variable {x : Condition ν} {y : Condition Value}

theorem bindings (h : x.Alike y) (mode : Mode) : y.bindings mode = x.bindings mode := by
  unfold Condition.bindings
  rw [h.operator, h.value, chars_toValue]

theorem isInline (h : x.Alike y) (mode : Mode) : y.isInline mode = x.isInline mode := by
  unfold Condition.isInline
  rw [h.operator, h.value, chars_toValue]

theorem operand? (h : x.Alike y) (mode : Mode) (start : ℕ) :
    y.operand? mode start = x.operand? mode start := by
  unfold Condition.operand?
  rw [h.isInline, h.bindings, h.operator, h.value, chars_toValue]

theorem excess? (h : x.Alike y) (mode : Mode) : y.excess? mode = x.excess? mode := by
  unfold Condition.excess?
  rw [h.isInline, h.operator, h.value, chars_toValue]

theorem isBlankEntry (h : x.Alike y) : isBlankEntry y.column = isBlankEntry x.column := by
  rw [h.column]
  rfl

end Condition.Alike

namespace Configuration.Alike

variable {c : Configuration ν} {d : Configuration Value}

omit [LawfulEntry ν] in
theorem activeConditions (h : c.Alike d) :
    List.Forall₂ Condition.Alike c.activeConditions d.activeConditions :=
  filter_forall₂ h.conditions fun x y hxy => by rw [hxy.isBlankEntry]

theorem predicate (h : c.Alike d) {x : Condition ν} {y : Condition Value} (hxy : x.Alike y)
    (mode : Mode) (isFirst : Bool) (start : ℕ) :
    d.predicate mode isFirst start y = c.predicate mode isFirst start x := by
  unfold Configuration.predicate Condition.connectorText
  rw [hxy.column, hxy.operator, hxy.connector, hxy.operand?, h.qualifies, h.renderPath,
    text_toValue]

theorem predicates (h : c.Alike d) (mode : Mode) {xs : List (Condition ν)}
    {ys : List (Condition Value)} (hxs : List.Forall₂ Condition.Alike xs ys) (isFirst : Bool)
    (start : ℕ) : d.predicates mode isFirst start ys = c.predicates mode isFirst start xs :=
  predicates_of_forall₂ hxs (fun _ _ hxy => h.predicate hxy mode)
    (fun _ _ hxy => hxy.bindings mode) isFirst start

omit [LawfulEntry ν] in
theorem bindings (h : c.Alike d) (mode : Mode) : d.bindings mode = c.bindings mode := by
  exact Condition.flatMap_bindings_of_forall₂ h.activeConditions fun x y hxy => hxy.bindings mode

/-! ## Clauses -/

omit [LawfulEntry ν] in
theorem clauseOf_values {items : List (Item ν)} (kind : ClauseKind) (keyword : String)
    (separator : String) :
    clauseOf kind keyword (items.map Item.values) separator =
      (clauseOf kind keyword items separator).map Clause.values := by
  cases items <;> rfl

theorem whereClauses (h : c.Alike d) (mode : Mode) :
    d.whereClauses mode = (c.whereClauses mode).map Clause.values := by
  unfold Configuration.whereClauses whereItems
  rw [h.predicates mode h.activeConditions, ← clauseOf_values, List.map_map]
  rfl

theorem groupClauses (h : c.Alike d) : d.groupClauses = c.groupClauses.map Clause.values := by
  unfold Configuration.groupClauses
  rw [← clauseOf_values, h.groupBy, List.filter_map, List.map_map, List.map_map, h.qualifies]
  congr 1
  apply List.map_congr_left
  intro path _
  simp [h.renderPath, Item.values, text_toValue, ofText_value]

omit [LawfulEntry ν] in
theorem activeOrderings (h : c.Alike d) :
    List.Forall₂ Ordering.Alike c.activeOrderings d.activeOrderings :=
  filter_forall₂ h.orderBy fun o p hop => by rw [hop.column]; rfl

theorem orderClauses (h : c.Alike d) : d.orderClauses = c.orderClauses.map Clause.values := by
  unfold Configuration.orderClauses
  rw [← clauseOf_values, List.map_map, h.qualifies]
  congr 1
  apply map_eq_of_forall₂ h.activeOrderings
  intro o p hop
  simp [hop.column, hop.direction, h.renderPath, Item.values, text_toValue, ofText_value]

theorem limitClauses (h : c.Alike d) : d.limitClauses = c.limitClauses.map Clause.values := by
  unfold Configuration.limitClauses
  rw [h.limit]
  cases c.limit with
  | none => rfl
  | some n =>
      dsimp only
      split
      · rw [← clauseOf_values]
        simp [Item.values, ofText_value]
      · rfl

/-- Configurations that are alike have one statement. -/
theorem statement (h : c.Alike d) (mode : Mode) :
    d.statement mode = (c.statement mode).values := by
  have hjoins : d.joins.map d.joinClause = (c.joins.map c.joinClause).map Clause.values := by
    rw [List.map_map]
    exact map_eq_of_forall₂ h.joins fun i j hij => h.joinClause hij
  unfold Configuration.statement clauses Statement.values
  rw [h.bindings, h.selectClause, h.fromClauses, h.crossClauses, hjoins, h.whereClauses,
    h.groupClauses, h.orderClauses, h.limitClauses]
  simp

/-! ## Faults -/

theorem columnFault? (h : c.Alike d) {x : Column ν} {y : Column Value} (hxy : x.Alike y) :
    d.columnFault? y = c.columnFault? x := by
  unfold Configuration.columnFault?
  rw [hxy.table, hxy.schema, h.qualifier, h.lookupFault?, hxy.renderFault?]

theorem joinFault? (h : c.Alike d) {i : Join ν} {j : Join Value} (hij : i.Alike j) :
    d.joinFault? j = c.joinFault? i := by
  unfold Configuration.joinFault?
  rw [hij.leftTable, hij.rightTable, ← toValue_blank (ν := ν), h.lookupFault?, h.lookupFault?]

theorem conditionFault? (h : c.Alike d) (mode : Mode) {x : Condition ν}
    {y : Condition Value} (hxy : x.Alike y) :
    d.conditionFault? mode y = c.conditionFault? mode x := by
  unfold Configuration.conditionFault?
  rw [hxy.isBlankEntry, hxy.excess?, hxy.column, hxy.value, h.qualifies, h.pathFault?]
  rfl

theorem groupFault? (h : c.Alike d) (path : ν) :
    d.groupFault? (Entry.toValue path) = c.groupFault? path := by
  unfold Configuration.groupFault?
  rw [h.qualifies, h.pathFault?]
  rfl

theorem orderFault? (h : c.Alike d) {o : Ordering ν} {p : Ordering Value} (hop : o.Alike p) :
    d.orderFault? p = c.orderFault? o := by
  unfold Configuration.orderFault?
  rw [hop.column, h.groupFault?]
  rfl

/-- Configurations that are alike have one fault. -/
theorem fault? (h : c.Alike d) (mode : Mode) : d.fault? mode = c.fault? mode := by
  have hgroups : firstFault? d.groupFault? d.groupBy = firstFault? c.groupFault? c.groupBy := by
    unfold firstFault?
    rw [h.groupBy, List.findSome?_map]
    congr 1
    exact funext h.groupFault?
  unfold Configuration.fault?
  rw [firstFault?_of_forall₂ h.columns fun _ _ => h.columnFault?,
    firstFault?_of_forall₂ h.joins fun _ _ => h.joinFault?,
    firstFault?_of_forall₂ h.conditions fun _ _ => h.conditionFault? mode, hgroups,
    firstFault?_of_forall₂ h.orderBy fun _ _ => h.orderFault?, limitFault?, limitFault?, h.limit]

/-- Configurations that are alike are built alike. -/
theorem build (h : c.Alike d) (mode : Mode) : d.build mode = Statement.values <$> c.build mode := by
  unfold Configuration.build
  rw [h.fault?, h.statement]
  cases c.fault? mode <;> rfl

end Configuration.Alike
end SelectQuery
