import SelectQuery.Proofs.Editing.Effect
import SelectQuery.Proofs.Statement.Pointwise
import SelectQuery.Proofs.Text.Blank

/-!
# How references are spelled

A table with an alias is called by its alias wherever a query mentions one of its columns. So
it does not matter by which of its references a configuration means it, as long as no other
table answers to them (`Configuration.build_respelled`).

References are looked up in three ways: a column has its schema beside the reference, a side of
a join is a reference on its own, and a path is read into parts first. In each of them the same
table is found (`tableFor_of_goesBy`), and the alias stands in the place of the reference.
-/

namespace SelectQuery

open Entry

/-! ## Spellings -/

namespace Table

variable (t : Table String)

/-- A table goes by a reference, with its schema beside it or without one. -/
def GoesBy (reference schema : String) : Prop :=
  reference ∈ t.references ∧ (schema = "" ∨ schema = t.schema)

instance (reference schema : String) : Decidable (t.GoesBy reference schema) :=
  inferInstanceAs (Decidable (_ ∧ _))

/-- A path names a column of a table. -/
def NamesColumn (column path : String) : Prop :=
  ∃ p reference, ColumnPath.parse? path = some p ∧ p.column = column ∧
    p.table = some reference ∧ t.GoesBy reference (p.schema.getD "")

/-- A reference is kept, or another one of the table stands in its place. -/
def SameReference (reference reference' : String) : Prop :=
  reference' = reference ∨ (t.GoesBy reference "" ∧ t.GoesBy reference' "")

/-- A path is kept, or another one to the same column of the table stands in its place. -/
def SamePath (path path' : String) : Prop :=
  path' = path ∨ ∃ column, t.NamesColumn column path ∧ t.NamesColumn column path'

end Table

/-- A column is kept, or means its table by another reference. -/
def Column.Respelled (t : Table String) (x y : Column String) : Prop :=
  y = x ∨ (t.GoesBy x.table x.schema ∧
    ∃ reference schema, t.GoesBy reference schema ∧ y = { x with table := reference, schema })

/-- A join is kept but for the references on its two sides. -/
def Join.Respelled (t : Table String) (i j : Join String) : Prop :=
  ∃ left right, t.SameReference i.leftTable left ∧ t.SameReference i.rightTable right ∧
    j = { i with leftTable := left, rightTable := right }

/-- A condition is kept but for its path. -/
def Condition.Respelled (t : Table String) (x y : Condition String) : Prop :=
  ∃ path, t.SamePath x.column path ∧ y = { x with column := path }

/-- An ordering is kept but for its path. -/
def Ordering.Respelled (t : Table String) (o p : Ordering String) : Prop :=
  ∃ path, t.SamePath o.column path ∧ p = { o with column := path }

namespace Configuration

/-- A configuration is kept but for the references by which it means a table. -/
structure Respelled (t : Table String) (c d : Configuration String) : Prop where
  tables : d.tables = c.tables
  columns : List.Forall₂ (Column.Respelled t) c.columns d.columns
  joins : List.Forall₂ (Join.Respelled t) c.joins d.joins
  conditions : List.Forall₂ (Condition.Respelled t) c.conditions d.conditions
  groupBy : List.Forall₂ t.SamePath c.groupBy d.groupBy
  orderBy : List.Forall₂ (Ordering.Respelled t) c.orderBy d.orderBy
  limit : d.limit = c.limit
  distinct : d.distinct = c.distinct

/-- A selected table has an alias, and shares no reference with another selected table. -/
structure Aliases (c : Configuration String) (t : Table String) (a : String) : Prop where
  mem : t ∈ c.tables
  aliasName : t.aliasName = some a
  ne_empty : a ≠ ""
  unshared : ∀ u ∈ c.tables, u ≠ t → ∀ reference ∈ u.references, reference ∉ t.references

/-! ## Looking a table up -/

variable {c d : Configuration String} {t : Table String} {a reference schema : String}

/-- A reference of the table means it, whatever tables stand before it. -/
theorem tableFor_of_goesBy (ht : c.Aliases t a) (h : t.GoesBy reference schema) :
    c.tableFor reference schema = some t := by
  have hmeant : (t.answersTo reference && t.inSchema schema) = true := by
    rw [Bool.and_eq_true, Table.answersTo_iff]
    refine ⟨h.1, ?_⟩
    rcases h.2 with rfl | rfl <;> simp [Table.inSchema]
  unfold Configuration.tableFor SelectQuery.tableFor
  cases hfound : c.tables.find? fun u => u.answersTo reference && u.inSchema schema with
  | none => exact absurd hmeant (List.find?_eq_none.mp hfound t ht.mem)
  | some u =>
      have hanswers := List.find?_some hfound
      rw [Bool.and_eq_true, Table.answersTo_iff] at hanswers
      by_contra hne
      exact ht.unshared u (List.mem_of_find?_eq_some hfound) (fun h => hne (congrArg some h))
        reference hanswers.1 h.1

theorem qualifier_of_goesBy (ht : c.Aliases t a) (h : t.GoesBy reference schema) :
    c.qualifier reference schema = a := by
  have halias : t.qualifier reference = a := by
    unfold Table.qualifier
    rw [ht.aliasName]
    simp [present?, Option.filter, ht.ne_empty]
  unfold qualifier
  rw [tableFor_of_goesBy ht h]
  exact halias

theorem renderPath_of_namesColumn (ht : c.Aliases t a) {column path : String}
    (h : t.NamesColumn column path) (qualify : Bool) :
    c.renderPath qualify path = if qualify then a ++ "." ++ column else column := by
  obtain ⟨p, reference, hparse, rfl, htable, hgoesBy⟩ := h
  have hqualifier := qualifier_of_goesBy ht hgoesBy
  unfold renderPath
  simp [hparse, htable, hqualifier]

theorem not_isAllBlank_of_parse? {path : String} {p : ColumnPath}
    (h : ColumnPath.parse? path = some p) : Text.isAllBlank path = false := by
  rw [Bool.eq_false_iff]
  intro hblank
  have htrim : Text.trim path.toList = [] := by
    have htrimmed := Text.trimmed_eq_empty_iff.mpr hblank
    rwa [Text.trimmed, String.ofList_eq_empty_iff] at htrimmed
  unfold ColumnPath.parse? at h
  rw [htrim] at h
  exact absurd h (by simp [Text.splitOn, ColumnPath.isIdentifier])

theorem isBlankEntry_samePath {path path' : String} (h : t.SamePath path path') :
    isBlankEntry path' = isBlankEntry path := by
  rcases h with rfl | ⟨column, ⟨p, -, hparse, -⟩, ⟨p', -, hparse', -⟩⟩
  · rfl
  · show Text.isAllBlank path' = Text.isAllBlank path
    rw [not_isAllBlank_of_parse? hparse, not_isAllBlank_of_parse? hparse']

/-! ## Clauses -/

namespace Respelled

variable (h : c.Respelled t d)

include h

theorem tableFor (reference schema : String) :
    d.tableFor reference schema = c.tableFor reference schema :=
  tableFor_of_tables h.tables reference schema

theorem qualifier (reference schema : String) :
    d.qualifier reference schema = c.qualifier reference schema :=
  qualifier_of_tables h.tables reference schema

theorem renderPath (qualify : Bool) (path : String) :
    d.renderPath qualify path = c.renderPath qualify path :=
  renderPath_of_tables h.tables qualify path

theorem qualifies : d.qualifies = c.qualifies :=
  qualifies_of_tables h.tables (isEmpty_of_forall₂ h.joins)

theorem fromClauses : d.fromClauses = c.fromClauses :=
  fromClauses_of_tables h.tables

theorem crossClauses : d.crossClauses = c.crossClauses :=
  crossClauses_of_tables h.tables (isEmpty_of_forall₂ h.joins)

theorem limitClauses : d.limitClauses = c.limitClauses := by
  unfold Configuration.limitClauses
  rw [h.limit]

omit h in
theorem bindings_respelled {x y : Condition String} (hxy : x.Respelled t y) (mode : Mode) :
    y.bindings mode = x.bindings mode := by
  obtain ⟨path, -, rfl⟩ := hxy
  rfl

theorem activeConditions :
    List.Forall₂ (Condition.Respelled t) c.activeConditions d.activeConditions := by
  refine filter_forall₂ h.conditions fun x y hxy => ?_
  obtain ⟨path, hpath, rfl⟩ := hxy
  rw [isBlankEntry_samePath hpath]

theorem bindings (mode : Mode) : d.bindings mode = c.bindings mode :=
  Condition.flatMap_bindings_of_forall₂ h.activeConditions fun _ _ hxy =>
    bindings_respelled hxy mode

/-- The values are kept, and so is what is wrong with them. -/
theorem fault? (mode : Mode) : d.fault? mode = c.fault? mode := by
  have hconditions : firstFault? (d.conditionFault? mode) d.conditions =
      firstFault? (c.conditionFault? mode) c.conditions := by
    apply firstFault?_of_forall₂ h.conditions
    rintro x y ⟨path, hpath, rfl⟩
    have hexcess : ({ x with column := path } : Condition String).excess? mode = x.excess? mode :=
      rfl
    unfold conditionFault?
    rw [isBlankEntry_samePath hpath, hexcess]
    simp [textFault?]
  rw [fault?_string, fault?_string, hconditions, limitFault?, limitFault?, h.limit]

variable (ht : c.Aliases t a)

include ht

omit h in
theorem qualifier_sameReference {reference' : String}
    (hreference : t.SameReference reference reference') :
    c.qualifier reference' = c.qualifier reference := by
  rcases hreference with rfl | ⟨hold, hnew⟩
  · rfl
  · exact (qualifier_of_goesBy ht hnew).trans
      (qualifier_of_goesBy ht hold).symm

theorem renderPath_samePath {path path' : String} (hpath : t.SamePath path path')
    (qualify : Bool) : d.renderPath qualify path' = c.renderPath qualify path := by
  rw [h.renderPath]
  rcases hpath with rfl | ⟨column, hold, hnew⟩
  · rfl
  · rw [renderPath_of_namesColumn ht hold, renderPath_of_namesColumn ht hnew]

theorem selectClause : d.selectClause = c.selectClause := by
  have hitems : d.selectItems = c.selectItems := by
    unfold selectItems
    rw [isEmpty_of_forall₂ h.columns]
    refine congrArg (ite _ _) ?_
    apply map_eq_of_forall₂ h.columns
    rintro x y (rfl | ⟨hold, reference, schema, hnew, rfl⟩)
    · rw [h.qualifier]
    · rw [h.qualifier, qualifier_of_goesBy ht hold,
        qualifier_of_goesBy ht hnew]
      rfl
  unfold Configuration.selectClause
  rw [hitems, h.distinct, isEmpty_of_forall₂ h.columns]

theorem joinClause {i j : Join String} (hij : i.Respelled t j) :
    d.joinClause j = c.joinClause i := by
  obtain ⟨left, right, hleft, hright, rfl⟩ := hij
  have htarget : d.joinTarget { i with leftTable := left, rightTable := right } =
      c.joinTarget i := by
    unfold joinTarget
    dsimp only
    rw [h.tableFor]
    rcases hright with rfl | ⟨hold, hnew⟩
    · rfl
    · have hfound := tableFor_of_goesBy ht hold
      have hfound' := tableFor_of_goesBy ht hnew
      rw [blank, ofText_string, hfound, hfound']
  have hequalities : d.joinEqualities { i with leftTable := left, rightTable := right } =
      c.joinEqualities i := by
    unfold joinEqualities
    dsimp only
    rw [h.qualifier, h.qualifier, qualifier_sameReference ht hleft,
      qualifier_sameReference ht hright]
  unfold Configuration.joinClause
  rw [htarget, hequalities]

theorem predicate {x y : Condition String} (hxy : x.Respelled t y) (mode : Mode)
    (isFirst : Bool) (start : ℕ) :
    d.predicate mode isFirst start y = c.predicate mode isFirst start x := by
  obtain ⟨path, hpath, rfl⟩ := hxy
  unfold Configuration.predicate
  rw [h.qualifies, text_string, text_string, h.renderPath_samePath ht hpath]
  rfl

theorem whereClauses (mode : Mode) : d.whereClauses mode = c.whereClauses mode := by
  unfold Configuration.whereClauses whereItems
  rw [predicates_of_forall₂ h.activeConditions
    (fun _ _ hxy => h.predicate ht hxy mode) fun _ _ hxy => bindings_respelled hxy mode]

theorem groupClauses : d.groupClauses = c.groupClauses := by
  have hactive := filter_forall₂ h.groupBy fun path path' hpath => by
    show (!isBlankEntry path') = !isBlankEntry path
    rw [isBlankEntry_samePath hpath]
  unfold Configuration.groupClauses
  rw [h.qualifies]
  refine congrArg (clauseOf .groupBy "GROUP BY" · ", ") ?_
  apply map_eq_of_forall₂ hactive
  intro path path' hpath
  rw [text_string, text_string, h.renderPath_samePath ht hpath]

theorem orderClauses : d.orderClauses = c.orderClauses := by
  have hactive : List.Forall₂ (Ordering.Respelled t) c.activeOrderings d.activeOrderings := by
    refine filter_forall₂ h.orderBy fun o p hop => ?_
    obtain ⟨path, hpath, rfl⟩ := hop
    rw [isPresent_and_not_isBlankEntry, isPresent_and_not_isBlankEntry,
      isBlankEntry_samePath hpath]
  unfold Configuration.orderClauses
  rw [h.qualifies]
  refine congrArg (clauseOf .orderBy "ORDER BY" · ", ") ?_
  apply map_eq_of_forall₂ hactive
  rintro o p ⟨path, hpath, rfl⟩
  rw [text_string, text_string, h.renderPath_samePath ht hpath]

end Respelled

/-- By whichever of its references a configuration means a table with an alias, the statement
is the same in both modes, if no other selected table answers to one of them. -/
theorem build_respelled (ht : c.Aliases t a) (h : c.Respelled t d) (mode : Mode) :
    d.build mode = c.build mode := by
  have hjoins : d.joins.map d.joinClause = c.joins.map c.joinClause :=
    map_eq_of_forall₂ h.joins fun _ _ hij => h.joinClause ht hij
  have hstatement : d.statement mode = c.statement mode := by
    unfold statement clauses
    rw [h.bindings, h.selectClause ht, h.fromClauses, h.crossClauses, hjoins,
      h.whereClauses ht, h.groupClauses ht, h.orderClauses ht,
      h.limitClauses]
  unfold build
  rw [h.fault?, hstatement]

/-- A table with a schema and an alias. -/
def people : Table String := ⟨"people", "staff", some "p"⟩

/-- It is meant by its name, by schema and name, and by its schema and alias. -/
def spelledOut : Configuration String where
  tables := [⟨"rooms", "", none⟩, people]
  columns := [⟨"staff.people", "name", "staff", none, none, []⟩, ⟨"rooms", "id", "", none, none, []⟩]
  joins := [⟨"rooms", "id", "people", "room", .inner, [], "join_1"⟩]
  conditions := [⟨"people.age", .term .gt, "18", none, "condition_1"⟩]
  groupBy := ["staff.people.name"]
  orderBy := [⟨" staff.p.name ", .term .asc⟩]

/-- It is meant by its alias. -/
def abbreviated : Configuration String where
  tables := [⟨"rooms", "", none⟩, people]
  columns := [⟨"p", "name", "", none, none, []⟩, ⟨"rooms", "id", "", none, none, []⟩]
  joins := [⟨"rooms", "id", "p", "room", .inner, [], "join_1"⟩]
  conditions := [⟨"p.age", .term .gt, "18", none, "condition_1"⟩]
  groupBy := ["p.name"]
  orderBy := [⟨"p.name", .term .asc⟩]

theorem build_respelled_people :
    spelledOut.Aliases people "p" ∧ Respelled people spelledOut abbreviated ∧
    ∀ mode, abbreviated.build mode = spelledOut.build mode := by
  have haliases : spelledOut.Aliases people "p" := by
    refine ⟨by simp [spelledOut], rfl, by decide, ?_⟩
    intro u hu hne
    obtain rfl : u = ⟨"rooms", "", none⟩ := by simpa [spelledOut, hne] using hu
    decide
  have hage : people.SamePath "people.age" "p.age" :=
    .inr ⟨"age", ⟨_, _, rfl, rfl, rfl, by decide⟩, ⟨_, _, rfl, rfl, rfl, by decide⟩⟩
  have hname : people.SamePath "staff.people.name" "p.name" :=
    .inr ⟨"name", ⟨_, _, rfl, rfl, rfl, by decide⟩, ⟨_, _, rfl, rfl, rfl, by decide⟩⟩
  have hname' : people.SamePath " staff.p.name " "p.name" :=
    .inr ⟨"name", ⟨_, _, rfl, rfl, rfl, by decide⟩, ⟨_, _, rfl, rfl, rfl, by decide⟩⟩
  have hrespelled : Respelled people spelledOut abbreviated := by
    refine ⟨rfl, ?_, ?_, ?_, ?_, ?_, rfl, rfl⟩
    · exact .cons (.inr ⟨by decide, "p", "", by decide, rfl⟩) (.cons (.inl rfl) .nil)
    · exact .cons ⟨"rooms", "p", .inl rfl, .inr ⟨by decide, by decide⟩, rfl⟩ .nil
    · exact .cons ⟨"p.age", hage, rfl⟩ .nil
    · exact .cons hname .nil
    · exact .cons ⟨"p.name", hname', rfl⟩ .nil
  exact ⟨haliases, hrespelled, build_respelled haliases hrespelled⟩

end Configuration
end SelectQuery
