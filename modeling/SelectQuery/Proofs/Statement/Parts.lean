import SelectQuery.Statement.Clauses

/-!
# The parts of a statement

The clauses of a statement are lists laid end to end, one for each kind of clause (`part`). What
a clause of a part can be is told once (`Writes`), with what it is written from. What holds of all
clauses is then shown by cases on that, and no part is opened again. A clause has the kind of its
part and at least one item, and outside of `WHERE` its items are entries (`Writes.ofKind`). So the
clauses of one kind are one part again (`clausesOf_statement`).
-/

namespace SelectQuery

open Entry

variable {ν : Type}

/-- The clauses of one kind. -/
def Statement.clausesOf (s : Statement ν) (kind : ClauseKind) : List (Clause ν) :=
  s.clauses.filter fun clause => clause.kind == kind

/-- The kinds of clause in their order. -/
def ClauseKind.inOrder : List ClauseKind :=
  [.select, .from, .join, .where, .groupBy, .orderBy, .limit]

/-- What is true of every clause that a configuration has of a kind. -/
structure Clause.OfKind (clause : Clause ν) (kind : ClauseKind) : Prop where
  kind_eq : clause.kind = kind
  items_ne_nil : clause.items ≠ []
  /-- Only conditions are told apart into column, operator and value. -/
  entries : kind ≠ .where → ∀ item ∈ clause.items, ∃ v, item = .entry v

namespace Configuration

theorem mem_clauseOf {kind : ClauseKind} {keyword separator : String} {items : List (Item ν)}
    {clause : Clause ν} : clause ∈ clauseOf kind keyword items separator ↔
      items ≠ [] ∧ clause = ⟨kind, keyword, items, separator, false⟩ := by
  cases items <;> simp [clauseOf]

theorem flatMap_items_clauseOf (kind : ClauseKind) (keyword separator : String)
    (items : List (Item ν)) : (clauseOf kind keyword items separator).flatMap Clause.items =
      items := by
  cases items with
  | nil => rfl
  | cons item items => exact List.flatMap_singleton ..

variable [Entry ν] (c : Configuration ν) (mode : Mode)

/-- The clauses that a configuration has of one kind. -/
def part : ClauseKind → List (Clause ν)
  | .select => [c.selectClause]
  | .from => c.fromClauses
  | .join => c.crossClauses ++ c.joins.map c.joinClause
  | .where => c.whereClauses mode
  | .groupBy => c.groupClauses
  | .orderBy => c.orderClauses
  | .limit => c.limitClauses

theorem clauses_eq_flatMap : c.clauses mode = ClauseKind.inOrder.flatMap (c.part mode) := by
  simp [clauses, ClauseKind.inOrder, part]

/-- The mode only matters to `WHERE`. -/
theorem clauses_eq : ∃ front back : List (Clause ν),
    ∀ mode, c.clauses mode = front ++ c.whereClauses mode ++ back :=
  ⟨c.selectClause :: c.fromClauses ++ c.crossClauses ++ c.joins.map c.joinClause,
    c.groupClauses ++ c.orderClauses ++ c.limitClauses, fun mode => by simp [clauses]⟩

variable {c mode}

/-- The clauses that a configuration can have of a kind. -/
inductive Writes (c : Configuration ν) (mode : Mode) : ClauseKind → Clause ν → Prop
  | select : Writes c mode .select c.selectClause
  | source {t : Table ν} (ht : t ∈ c.tables) :
      Writes c mode .from { kind := .from, keyword := "FROM", items := [.entry t.render] }
  | crossed {t : Table ν} (ht : t ∈ c.tables) :
      Writes c mode .join { kind := .join, keyword := "CROSS JOIN", items := [.entry t.render] }
  | joined {j : Join ν} (hj : j ∈ c.joins) : Writes c mode .join (c.joinClause j)
  | filtered (hne : c.whereItems mode ≠ []) :
      Writes c mode .where
        { kind := .where, keyword := "WHERE", separator := " ",
          items := (c.whereItems mode).map .predicate }
  | grouped {items : List (Item ν)} (hne : items ≠ [])
      (hitems : ∀ item ∈ items, ∃ path ∈ c.groupBy, isBlankEntry path = false ∧
        item = .entry (ofText (c.renderPath c.qualifies (text path)))) :
      Writes c mode .groupBy { kind := .groupBy, keyword := "GROUP BY", items }
  | ordered {items : List (Item ν)} (hne : items ≠ [])
      (hitems : ∀ item ∈ items, ∃ o ∈ c.activeOrderings, item = .entry
        (ofText (c.renderPath c.qualifies (text o.column) ++ " " ++ o.direction.text))) :
      Writes c mode .orderBy { kind := .orderBy, keyword := "ORDER BY", items }
  | limited {n : Int} (hn : c.limit = some n) (hpos : 0 < n) :
      Writes c mode .limit
        { kind := .limit, keyword := "LIMIT", items := [.entry (ofText (toString n))] }

theorem writes_of_mem_part {kind : ClauseKind} {clause : Clause ν}
    (h : clause ∈ c.part mode kind) : c.Writes mode kind clause := by
  cases kind with
  | select =>
      obtain rfl := List.mem_singleton.mp h
      exact .select
  | «from» =>
      obtain ⟨t, ht, rfl⟩ := List.mem_map.mp h
      exact .source (List.mem_of_mem_head? (Option.mem_toList.mp ht))
  | join =>
      rcases List.mem_append.mp h with hcross | hjoin
      · rw [crossClauses] at hcross
        split at hcross
        · obtain ⟨t, ht, rfl⟩ := List.mem_map.mp hcross
          exact .crossed (List.mem_of_mem_tail ht)
        · exact absurd hcross List.not_mem_nil
      · obtain ⟨j, hj, rfl⟩ := List.mem_map.mp hjoin
        exact .joined hj
  | «where» =>
      obtain ⟨hne, rfl⟩ := mem_clauseOf.mp h
      exact .filtered (by simpa using hne)
  | groupBy =>
      obtain ⟨hne, rfl⟩ := mem_clauseOf.mp h
      refine .grouped hne (List.forall_mem_map.mpr fun path hpath => ?_)
      obtain ⟨hmem, hfilled⟩ := List.mem_filter.mp hpath
      exact ⟨path, hmem, by simpa using hfilled, rfl⟩
  | orderBy =>
      obtain ⟨hne, rfl⟩ := mem_clauseOf.mp h
      exact .ordered hne (List.forall_mem_map.mpr fun o ho => ⟨o, ho, rfl⟩)
  | limit =>
      rw [part, limitClauses] at h
      split at h
      · next n hn =>
          split at h
          · next hpos =>
              obtain ⟨-, rfl⟩ := mem_clauseOf.mp h
              exact .limited hn hpos
          · exact absurd h List.not_mem_nil
      · exact absurd h List.not_mem_nil

theorem exists_writes {clause : Clause ν} (h : clause ∈ c.clauses mode) :
    ∃ kind, c.Writes mode kind clause := by
  rw [clauses_eq_flatMap] at h
  obtain ⟨kind, -, hmem⟩ := List.mem_flatMap.mp h
  exact ⟨kind, writes_of_mem_part hmem⟩

theorem Writes.ofKind {kind : ClauseKind} {clause : Clause ν} (h : c.Writes mode kind clause) :
    clause.OfKind kind := by
  cases h with
  | select =>
      refine ⟨rfl, ?_, fun _ => ?_⟩
      · show c.selectItems ≠ []
        rw [selectItems]
        split
        · exact List.cons_ne_nil _ _
        · next hcolumns => simpa using hcolumns
      · show ∀ item ∈ c.selectItems, ∃ v, item = .entry v
        rw [selectItems]
        split <;> simp
  | source | crossed | joined | limited =>
      exact ⟨rfl, List.cons_ne_nil _ _, fun _ => List.forall_mem_singleton.mpr ⟨_, rfl⟩⟩
  | filtered hne => exact ⟨rfl, by simpa using hne, fun hkind => absurd rfl hkind⟩
  | grouped hne hitems =>
      refine ⟨rfl, hne, fun _ item hitem => ?_⟩
      obtain ⟨path, -, -, rfl⟩ := hitems item hitem
      exact ⟨_, rfl⟩
  | ordered hne hitems =>
      refine ⟨rfl, hne, fun _ item hitem => ?_⟩
      obtain ⟨o, -, rfl⟩ := hitems item hitem
      exact ⟨_, rfl⟩

theorem clausesOf_statement (kind : ClauseKind) :
    (c.statement mode).clausesOf kind = c.part mode kind := by
  have hpart (other : ClauseKind) :
      (c.part mode other).filter (fun clause => clause.kind == kind) =
        if other = kind then c.part mode other else [] := by
    split
    · next hkind =>
        subst hkind
        refine List.filter_eq_self.mpr fun clause h => ?_
        simpa using (writes_of_mem_part h).ofKind.kind_eq
    · next hkind =>
        refine List.filter_eq_nil_iff.mpr fun clause h => ?_
        simpa [(writes_of_mem_part h).ofKind.kind_eq] using hkind
  rw [Statement.clausesOf, statement, clauses_eq_flatMap, List.filter_flatMap]
  simp only [hpart]
  cases kind <;> simp [ClauseKind.inOrder]

theorem itemsOf_statement (kind : ClauseKind) :
    (c.statement mode).itemsOf kind = (c.part mode kind).flatMap Clause.items := by
  rw [← clausesOf_statement]
  rfl

end Configuration
end SelectQuery
