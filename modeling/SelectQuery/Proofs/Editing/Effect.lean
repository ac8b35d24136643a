import Mathlib.Data.List.InsertIdx
import Mathlib.Data.List.Perm.Subperm
import SelectQuery.Editing.Edit
import SelectQuery.Proofs.Build

/-!
# What an edit does

There are many edits, and few things that they do to a configuration. `Effect` lists these
with all that is checked on the way, and `edit_effect` says that every edit that succeeds has
one of them. What holds of a configuration through a series of edits is then shown by cases
on the effect, and no edit is opened again.
-/

namespace SelectQuery

variable {ν : Type} [Entry ν]

open Entry

/-! ## Keys -/

namespace Table

/-- What a table is told from others by. -/
def key (t : Table ν) : ν × ν := (t.schema, t.name)

theorem sameKey_iff {t u : Table String} : t.sameKey u = true ↔ t.key = u.key := by
  simp [sameKey, key]

theorem isNamed_iff {t : Table String} {schema name : String} :
    t.isNamed schema name = true ↔ t.key = (schema, name) := by
  simp [isNamed, key]

theorem answersTo_iff {t : Table String} {reference : String} :
    t.answersTo reference = true ↔ reference ∈ t.references := by
  simp [answersTo]

end Table

namespace Column

/-- What a column is told from others by. -/
def key (c : Column ν) : ν × ν × ν := (c.schema, c.table, c.name)

theorem sameKey_iff {c d : Column String} : c.sameKey d = true ↔ c.key = d.key := by
  simp [sameKey, key, and_assoc]

theorem belongsTo_iff {c : Column String} {t : Table String} :
    c.belongsTo t = true ↔ c.table ∈ t.references ∧ (c.schema = "" ∨ c.schema = t.schema) := by
  simp [belongsTo, Table.answersTo_iff, Table.inSchema]

end Column

/-- The references of a join. -/
def Join.sides (j : Join ν) : List ν := [j.leftTable, j.rightTable]

/-- A join names selected tables, as far as it names any. -/
def Configuration.NamesTables (c : Configuration String) (j : Join String) : Prop :=
  ∀ reference ∈ j.sides, reference ≠ "" → ∃ t ∈ c.tables, reference ∈ t.references

/-! ## Effects -/

/-- What an edit makes of a configuration. The supply of identifiers before the edit and
the one that is left bound the number of an identifier that it took. -/
inductive Effect (c : Configuration String) (e : Edit String) (supply left : IdSupply) :
    Configuration String → Prop
  | unchanged : Effect c e supply left c
  | table {t : Table String} (hnew : t.key ∉ c.tables.map Table.key) :
      Effect c e supply left { c with tables := c.tables ++ [t] }
  | renamed {schema name : String} {aliasName : Option String} {tables : List (Table String)}
      (he : e = .updateTable schema name aliasName)
      (hkeys : tables.map Table.key = c.tables.map Table.key) :
      Effect c e supply left { c with tables }
  | withoutTable {t : Table String} (ht : t ∈ c.tables) : Effect c e supply left (c.withoutTable t)
  /-- A new column stands behind the others, and one of the tables is its own. If none was,
  a new table stands behind the others too. -/
  | column {col : Column String} {tables : List (Table String)}
      (hnew : col.key ∉ c.columns.map Column.key)
      (htables : tables = c.tables ∨
        ∃ t : Table String, t.key ∉ c.tables.map Table.key ∧ tables = c.tables ++ [t])
      (hown : ∃ t ∈ tables, col.belongsTo t = true) :
      Effect c e supply left { c with tables, columns := c.columns ++ [col] }
  | columns {columns : List (Column String)}
      (hkeys : (columns.map Column.key).Subperm (c.columns.map Column.key)) :
      Effect c e supply left { c with columns }
  /-- Every join was there with the same references, or its references were checked. -/
  | joins {joins : List (Join String)}
      (hnamed : ∀ j ∈ joins, (∃ i ∈ c.joins, j.sides = i.sides) ∨ c.NamesTables j) :
      Effect c e supply left { c with joins }
  | condition {x : Condition String} {n : ℕ} (hid : x.id = IdKind.condition.id n)
      (hfree : supply.taken < n) (htaken : n ≤ left.taken) :
      Effect c e supply left { c with conditions := c.conditions ++ [x] }
  | conditions {conditions : List (Condition String)}
      (hids : (conditions.map Condition.id).Sublist (c.conditions.map Condition.id)) :
      Effect c e supply left { c with conditions }
  | path {path : String} (hnew : path ∉ c.groupBy) :
      Effect c e supply left { c with groupBy := c.groupBy ++ [path] }
  | groupBy {paths : List String} (hkept : paths.Sublist c.groupBy) :
      Effect c e supply left { c with groupBy := paths }
  | ordering {o : Ordering String} (hnew : o.column ∉ c.orderBy.map Ordering.column) :
      Effect c e supply left { c with orderBy := c.orderBy ++ [o] }
  | orderBy {orderBy : List (Ordering String)}
      (hkept : (orderBy.map Ordering.column).Sublist (c.orderBy.map Ordering.column)) :
      Effect c e supply left { c with orderBy }
  | limit {limit : Option Int} (hlimit : ∀ n, limit = some n → 0 < n) :
      Effect c e supply left { c with limit }
  | distinct {distinct : Switch} : Effect c e supply left { c with distinct }

namespace Configuration

variable {c d : Configuration String} {e : Edit String} {supply left : IdSupply}

/-! ## Tables -/

theorem any_sameKey_iff {t : Table String} :
    c.tables.any (·.sameKey t) = true ↔ t.key ∈ c.tables.map Table.key := by
  simp [Table.sameKey_iff]

theorem addTable_effect (t : Table String) : Effect c e supply left (c.addTable t) := by
  rw [addTable]
  split
  · exact .unchanged
  · next hnew => exact .table (mt any_sameKey_iff.mpr hnew)

theorem updateTable_effect {schema name : String} {aliasName : Option String}
    (he : e = .updateTable schema name aliasName)
    (h : c.updateTable schema name aliasName = .ok d) : Effect c e supply left d := by
  rw [updateTable] at h
  split at h
  · cases h
    refine .renamed he ?_
    rw [List.map_map]
    refine List.map_congr_left fun t _ => ?_
    rw [Function.comp_apply]
    split <;> rfl
  · simp at h

theorem removeTable_effect {schema name : String} (h : c.removeTable schema name = .ok d) :
    Effect c e supply left d := by
  rw [removeTable] at h
  split at h
  · cases h
    exact .unchanged
  · next t ht =>
      simp only [referencesFail_string, pathsFail_string, Bool.false_eq_true, if_false,
        Except.ok.injEq] at h
      subst h
      exact .withoutTable (List.mem_of_find?_eq_some ht)

/-! ## Columns -/

/-- The table that is selected with a column. -/
theorem belongsTo_ownTable (col : Column String) :
    col.belongsTo { name := col.table, schema := col.schema } = true := by
  simp [Column.belongsTo_iff, Table.references]

theorem withColumn_effect {col : Column String} (hnew : col.key ∉ c.columns.map Column.key) :
    Effect c e supply left (c.withColumn col) := by
  have hany : c.columns.any (·.sameKey col) = false := by
    simpa [Column.sameKey_iff] using hnew
  rw [withColumn, hany, if_neg Bool.false_ne_true]
  cases hown : c.tables.any col.belongsTo with
  | true => exact .column hnew (.inl rfl) (List.any_eq_true.mp hown)
  | false =>
      -- a table with the key of the new one would be the column's own
      have hkey : ({ name := col.table, schema := col.schema } : Table String).key ∉
          c.tables.map Table.key := by
        rintro hmem
        obtain ⟨t, ht, hkey⟩ := List.mem_map.mp hmem
        obtain ⟨hschema, hname⟩ := Prod.mk.inj hkey
        refine (List.any_eq_false.mp hown t ht) (Column.belongsTo_iff.mpr ⟨?_, .inr hschema.symm⟩)
        rw [show col.table = t.name from hname.symm, Table.references]
        exact List.mem_cons_self ..
      have hadded := mt any_sameKey_iff.mp hkey
      rw [if_neg Bool.false_ne_true, addTable, if_neg hadded]
      exact .column hnew (.inr ⟨_, hkey, rfl⟩)
        ⟨_, List.mem_append_right _ (List.mem_singleton_self _), belongsTo_ownTable col⟩

theorem addColumn_effect {col : Column String} (h : c.addColumn col = .ok d) :
    Effect c e supply left d := by
  simp only [addColumn, Column.hasId_string, belongingFails_string, if_true, Bool.false_eq_true,
    if_false] at h
  split at h
  · cases h
    exact .unchanged
  · next hnew =>
      cases h
      exact withColumn_effect (by simpa [Column.sameKey_iff] using hnew)

theorem key_apply (col : Column String) (x : ColumnChange String) :
    (x.apply col).key = col.key := by
  cases x <;> rfl

theorem key_foldl_apply (changes : List (ColumnChange String)) (col : Column String) :
    (changes.foldl ColumnChange.apply col).key = col.key := by
  induction changes generalizing col with
  | nil => rfl
  | cons x changes ih => rw [List.foldl_cons, ih, key_apply]

theorem updateColumn_effect {id : String} {changes : List (ColumnChange String)}
    (h : c.updateColumn id changes = .ok d) : Effect c e supply left d := by
  obtain ⟨_, -, h⟩ := Except.bind_eq_ok.mp h
  obtain ⟨_, -, h⟩ := Except.bind_eq_ok.mp h
  obtain ⟨_, -, h⟩ := Except.bind_eq_ok.mp h
  obtain ⟨_, -, h⟩ := Except.bind_eq_ok.mp h
  obtain ⟨_, -, h⟩ := Except.bind_eq_ok.mp h
  cases h
  refine .columns (List.Perm.subperm (.of_eq ?_))
  rw [List.map_map]
  refine List.map_congr_left fun col _ => ?_
  rw [Function.comp_apply]
  split
  · exact key_foldl_apply changes col
  · rfl

theorem removeColumn_effect {id : String} (h : c.removeColumn id = .ok d) :
    Effect c e supply left d := by
  obtain ⟨_, -, h⟩ := Except.bind_eq_ok.mp h
  cases h
  exact .columns (List.filter_sublist.map Column.key).subperm

theorem moveItem_perm {α : Type} {items : List α} {source target : ℕ}
    (htarget : target ≤ items.length - 1) : (moveItem items source target).Perm items := by
  rw [moveItem]
  split
  · next x hx =>
      obtain ⟨hsource, rfl⟩ := List.getElem?_eq_some_iff.mp hx
      have hlength : target ≤ (items.eraseIdx source).length := by
        rw [List.length_eraseIdx_of_lt hsource]
        exact htarget
      exact (List.perm_insertIdx _ _ hlength).trans (List.getElem_cons_eraseIdx_perm hsource)
  · exact .refl items

theorem placeOf_le {last place : ℕ} {index : Value} (h : placeOf last index = .ok place) :
    place ≤ last := by
  rw [placeOf] at h
  split at h
  · simp at h
  · cases h
    exact Nat.min_le_right ..
  · split at h
    · cases h
      exact Nat.le_refl last
    · split at h
      · simp at h
      · cases h
        exact Nat.zero_le last

theorem moveColumn_effect {id : String} {index : Value} (h : c.moveColumn id index = .ok d) :
    Effect c e supply left d := by
  obtain ⟨source, -, h⟩ := Except.bind_eq_ok.mp h
  obtain ⟨target, htarget, h⟩ := Except.bind_eq_ok.mp h
  cases h
  exact .columns ((moveItem_perm (placeOf_le htarget)).map Column.key).subperm

/-! ## Joins -/

theorem tableFor_isSome_iff {reference : String} :
    (c.tableFor reference).isSome = true ↔ ∃ t ∈ c.tables, reference ∈ t.references := by
  simp [tableFor, SelectQuery.tableFor, Table.answersTo_iff, Table.inSchema, blank]

theorem namesTable_of_checkReference {reference path : String}
    (h : c.checkReference reference path = .ok ()) (hreference : reference ≠ "") :
    ∃ t ∈ c.tables, reference ∈ t.references := by
  simp only [checkReference, isPresent_string, bne_iff_ne, hreference, ne_eq, not_false_eq_true,
    if_true, lookupFault?_string] at h
  split at h
  · next hfound => exact tableFor_isSome_iff.mp hfound
  · simp at h

theorem namesTables_of_checkJoin {j : Join String} {path : String}
    (h : c.checkJoin j path = .ok ()) : c.NamesTables j := by
  obtain ⟨_, hleft, hright⟩ := Except.bind_eq_ok.mp h
  intro reference hreference
  rcases List.mem_pair.mp hreference with rfl | rfl
  · exact namesTable_of_checkReference hleft
  · exact namesTable_of_checkReference hright

/-- A join that was checked takes its place behind the others or in place of one. -/
theorem joins_effect {joins : List (Join String)} {j : Join String} (hj : c.NamesTables j)
    (hjoins : ∀ i ∈ joins, i ∈ c.joins ∨ i = j) : Effect c e supply left { c with joins } := by
  refine .joins fun i hi => ?_
  rcases hjoins i hi with hold | rfl
  · exact .inl ⟨i, hold, rfl⟩
  · exact .inr hj

theorem withJoin_effect {j : Join String} (h : c.withJoin j = .ok d) :
    Effect c e supply left d := by
  obtain ⟨_, hcheck, h⟩ := Except.bind_eq_ok.mp h
  cases h
  exact joins_effect (namesTables_of_checkJoin hcheck) fun i hi => by simpa using hi

theorem addJoin_effect {join : Option (Join String)}
    (h : (c.addJoin join).outcome supply = (.ok d, left)) :
    Effect c e supply left d ∧ supply.taken ≤ left.taken := by
  unfold addJoin at h
  split at h
  · obtain ⟨hjoin, rfl⟩ := Build.outcome_ofExcept_eq_ok.mp h
    exact ⟨withJoin_effect hjoin, Nat.le_refl _⟩
  · obtain ⟨id, between, hid, h⟩ := Build.outcome_bind_eq_ok.mp h
    obtain ⟨-, rfl⟩ := Build.outcome_freshId_eq_ok.mp hid
    obtain ⟨hjoin, rfl⟩ := Build.outcome_ofExcept_eq_ok.mp h
    exact ⟨withJoin_effect hjoin, Nat.le_succ _⟩
  · obtain ⟨rfl, rfl⟩ := Build.outcome_pure_eq_ok.mp h
    exact ⟨.unchanged, Nat.le_refl _⟩

theorem mem_of_joinIndex {id : String} {i : ℕ} {j : Join String}
    (h : c.joinIndex id = .ok (i, j)) : j ∈ c.joins := by
  rw [joinIndex] at h
  split at h
  · next found =>
      cases h
      have hmem := List.mem_of_find?_eq_some found
      exact (List.mem_zipIdx' hmem).2 ▸ List.getElem_mem _
  · simp at h

/-- A join that is changed in its conditions only keeps its references. -/
theorem setJoin_effect {id : String} {i : ℕ} {j k : Join String}
    (h : c.joinIndex id = .ok (i, j)) (hsides : k.sides = j.sides) :
    Effect c e supply left (c.setJoin i k) := by
  refine .joins fun m hm => ?_
  rcases List.mem_or_eq_of_mem_set hm with hold | rfl
  · exact .inl ⟨m, hold, rfl⟩
  · exact .inl ⟨j, mem_of_joinIndex h, hsides⟩

theorem updateJoin_effect {id : String} {changes : List (JoinChange String)}
    (h : c.updateJoin id changes = .ok d) : Effect c e supply left d := by
  obtain ⟨⟨i, j⟩, -, h⟩ := Except.bind_eq_ok.mp h
  obtain ⟨_, -, h⟩ := Except.bind_eq_ok.mp h
  obtain ⟨_, -, h⟩ := Except.bind_eq_ok.mp h
  obtain ⟨_, hcheck, h⟩ := Except.bind_eq_ok.mp h
  cases h
  exact joins_effect (namesTables_of_checkJoin hcheck) fun k hk => List.mem_or_eq_of_mem_set hk

theorem removeJoin_effect (id : String) : Effect c e supply left (c.removeJoin id) :=
  .joins fun j hj => .inl ⟨j, (List.mem_filter.mp hj).1, rfl⟩

theorem addJoinCondition_effect {id l r : String}
    (h : (c.addJoinCondition id l r).outcome supply = (.ok d, left)) :
    Effect c e supply left d ∧ supply.taken ≤ left.taken := by
  obtain ⟨⟨i, j⟩, between, hindex, h⟩ := Build.outcome_bind_eq_ok.mp h
  obtain ⟨hjoin, rfl⟩ := Build.outcome_ofExcept_eq_ok.mp hindex
  obtain ⟨_, between, hid, h⟩ := Build.outcome_bind_eq_ok.mp h
  obtain ⟨-, rfl⟩ := Build.outcome_freshId_eq_ok.mp hid
  obtain ⟨rfl, rfl⟩ := Build.outcome_pure_eq_ok.mp h
  exact ⟨setJoin_effect hjoin rfl, Nat.le_succ _⟩

theorem updateJoinCondition_effect {id condition : String} {l r : Option String}
    (h : c.updateJoinCondition id condition l r = .ok d) : Effect c e supply left d := by
  obtain ⟨⟨i, j⟩, hindex, h⟩ := Except.bind_eq_ok.mp h
  simp only at h
  split at h
  · cases h
    exact setJoin_effect hindex rfl
  · simp at h

theorem removeJoinCondition_effect {id condition : String}
    (h : c.removeJoinCondition id condition = .ok d) : Effect c e supply left d := by
  obtain ⟨⟨i, j⟩, hindex, h⟩ := Except.bind_eq_ok.mp h
  cases h
  exact setJoin_effect hindex rfl

/-! ## Conditions -/

/-- A condition that is added stands behind the others, with a fresh identifier. -/
theorem addCondition_eq_ok {new : NewCondition String}
    (h : (c.addCondition new).outcome supply = (.ok d, left)) :
    ∃ operator connector, left = ⟨supply.taken + 1⟩ ∧
      Term.ofEntry ConditionOperator new.operator
        (itemPath "conditions" c.conditions.length ++ ".operator") = .ok operator ∧
      connectorOf (new.connector <|> c.defaultConnector)
        (itemPath "conditions" c.conditions.length) = .ok connector ∧
      d = { c with
        conditions := c.conditions ++
          [⟨new.column, .term operator, new.value, connector.map .term,
            IdKind.condition.id (supply.taken + 1)⟩] } := by
  obtain ⟨operator, between, hfirst, h⟩ := Build.outcome_bind_eq_ok.mp h
  obtain ⟨hoperator, rfl⟩ := Build.outcome_ofExcept_eq_ok.mp hfirst
  obtain ⟨connector, between, hsecond, h⟩ := Build.outcome_bind_eq_ok.mp h
  obtain ⟨hconnector, rfl⟩ := Build.outcome_ofExcept_eq_ok.mp hsecond
  obtain ⟨id, between, hid, h⟩ := Build.outcome_bind_eq_ok.mp h
  obtain ⟨rfl, rfl⟩ := Build.outcome_freshId_eq_ok.mp hid
  obtain ⟨rfl, rfl⟩ := Build.outcome_pure_eq_ok.mp h
  exact ⟨operator, connector, rfl, hoperator, hconnector, rfl⟩

theorem addCondition_effect {new : NewCondition String}
    (h : (c.addCondition new).outcome supply = (.ok d, left)) :
    Effect c e supply left d ∧ supply.taken ≤ left.taken := by
  obtain ⟨operator, connector, rfl, -, -, rfl⟩ := addCondition_eq_ok h
  exact ⟨.condition rfl (Nat.lt_succ_self _) (Nat.le_refl _), Nat.le_succ _⟩

theorem id_foldl_apply (changes : List (ConditionChange String)) (x : Condition String) :
    (changes.foldl ConditionChange.apply x).id = x.id := by
  induction changes generalizing x with
  | nil => rfl
  | cons change changes ih =>
      rw [List.foldl_cons, ih]
      cases change <;> simp only [ConditionChange.apply]

theorem updateCondition_effect {id : String} {changes : List (ConditionChange String)}
    (h : c.updateCondition id changes = .ok d) : Effect c e supply left d := by
  rw [updateCondition] at h
  split at h
  · simp at h
  · next x i found =>
      obtain ⟨_, -, h⟩ := Except.bind_eq_ok.mp h
      obtain ⟨_, -, h⟩ := Except.bind_eq_ok.mp h
      obtain ⟨_, -, h⟩ := Except.bind_eq_ok.mp h
      cases h
      -- the condition that is changed stands where it was found, and keeps its identifier
      obtain ⟨hi, hx⟩ := List.mem_zipIdx' (List.mem_of_find?_eq_some found)
      have hids : (c.conditions.set i (changes.foldl ConditionChange.apply x)).map Condition.id =
          c.conditions.map Condition.id := by
        have hlength : i < (c.conditions.map Condition.id).length := by simpa using hi
        have hid : x.id = (c.conditions.map Condition.id)[i] := by simp [hx]
        rw [List.map_set, id_foldl_apply, hid, List.set_getElem_self]
      exact .conditions (hids ▸ List.Sublist.refl _)

theorem removeCondition_effect (id : String) : Effect c e supply left (c.removeCondition id) :=
  .conditions (List.filter_sublist.map Condition.id)

/-- A subquery is attached by adding a condition with its text. -/
theorem addSubqueryCondition_eq_ok {s : Subquery String} {a : Attachment String}
    (h : (c.addSubqueryCondition s a).outcome supply = (.ok d, left)) :
    ∃ operator value,
      Term.ofEntry ConditionOperator a.operator
        (itemPath "conditions" c.conditions.length ++ ".operator") = .ok operator ∧
      operator.isMembership = true ∧ s.checkAttachable a.select = .ok () ∧
      s.render a.select = .ok value ∧
      (c.addCondition ⟨a.column, operator.word, value, none⟩).outcome supply = (.ok d, left) := by
  obtain ⟨operator, between, hfirst, h⟩ := Build.outcome_bind_eq_ok.mp h
  obtain ⟨hoperator, rfl⟩ := Build.outcome_ofExcept_eq_ok.mp hfirst
  split at h
  · obtain ⟨_, between, hrefused, -⟩ := Build.outcome_bind_eq_ok.mp h
    cases hrefused
  · next hmember =>
      obtain ⟨_, between, hchecked, h⟩ := Build.outcome_bind_eq_ok.mp h
      obtain ⟨hattach, rfl⟩ := Build.outcome_ofExcept_eq_ok.mp hchecked
      obtain ⟨value, between, hwritten, h⟩ := Build.outcome_bind_eq_ok.mp h
      obtain ⟨hvalue, rfl⟩ := Build.outcome_ofExcept_eq_ok.mp hwritten
      exact ⟨operator, value, hoperator, by simpa using hmember, hattach, hvalue, h⟩

theorem addSubqueryCondition_effect {s : Subquery String} {a : Attachment String}
    (h : (c.addSubqueryCondition s a).outcome supply = (.ok d, left)) :
    Effect c e supply left d ∧ supply.taken ≤ left.taken := by
  obtain ⟨operator, value, -, -, -, -, hadd⟩ := addSubqueryCondition_eq_ok h
  exact addCondition_effect hadd

/-! ## Grouping, ordering, limit -/

theorem addGroupBy_effect (path : String) : Effect c e supply left (c.addGroupBy path) := by
  rw [addGroupBy]
  split
  · exact .unchanged
  · next hnew => exact .path (by simpa using hnew)

theorem removeGroupBy_effect (path : String) : Effect c e supply left (c.removeGroupBy path) :=
  .groupBy List.filter_sublist

theorem withOrdering_effect (o : Ordering String) : Effect c e supply left (c.withOrdering o) := by
  rw [withOrdering]
  split
  · have hcolumns : (c.orderBy.map fun x => if same x.column o.column then o else x).map
        Ordering.column = c.orderBy.map Ordering.column := by
      rw [List.map_map]
      refine List.map_congr_left fun x _ => ?_
      rw [Function.comp_apply]
      split
      · next hsame => exact (by simpa using hsame : x.column = o.column).symm
      · rfl
    exact .orderBy (hcolumns ▸ List.Sublist.refl _)
  · next hnew => exact .ordering (by simpa using hnew)

theorem addOrderBy_effect {column direction : String}
    (h : c.addOrderBy column direction = .ok d) : Effect c e supply left d := by
  obtain ⟨_, -, h⟩ := Except.bind_eq_ok.mp h
  cases h
  exact withOrdering_effect _

theorem removeOrderBy_effect (column : String) : Effect c e supply left (c.removeOrderBy column) :=
  .orderBy (List.filter_sublist.map Ordering.column)

theorem setLimit_effect {limit : Value} (h : c.setLimit limit = .ok d) :
    Effect c e supply left d := by
  unfold setLimit at h
  split at h
  · cases h
    exact .limit (by simp)
  · next n =>
      split at h
      · next hpos =>
          cases h
          exact .limit (by simpa using hpos)
      · simp at h
  · simp at h

/-! ## All edits -/

/-- An edit that succeeds has an effect, and takes identifiers from the supply at most. -/
theorem edit_effect (h : (c.edit e).outcome supply = (.ok d, left)) :
    Effect c e supply left d ∧ supply.taken ≤ left.taken := by
  -- most edits take no identifier: either they cannot be refused, or they can
  have hpure {d' : Configuration String} (heffect : Effect c e supply supply d')
      (h : (pure d' : Build _).outcome supply = (.ok d, left)) :
      Effect c e supply left d ∧ supply.taken ≤ left.taken := by
    obtain ⟨rfl, rfl⟩ := Build.outcome_pure_eq_ok.mp h
    exact ⟨heffect, Nat.le_refl _⟩
  have hchecked {r : Except Error (Configuration String)}
      (heffect : r = .ok d → Effect c e supply supply d)
      (h : (Build.ofExcept r).outcome supply = (.ok d, left)) :
      Effect c e supply left d ∧ supply.taken ≤ left.taken := by
    obtain ⟨hr, rfl⟩ := Build.outcome_ofExcept_eq_ok.mp h
    exact ⟨heffect hr, Nat.le_refl _⟩
  cases e with
  | addTable t => exact hpure (addTable_effect t) h
  | updateTable schema name aliasName => exact hchecked (updateTable_effect rfl) h
  | removeTable schema name => exact hchecked removeTable_effect h
  | addColumn col => exact hchecked addColumn_effect h
  | updateColumn id changes => exact hchecked updateColumn_effect h
  | removeColumn id => exact hchecked removeColumn_effect h
  | moveColumn id index => exact hchecked moveColumn_effect h
  | addJoin j => exact addJoin_effect h
  | updateJoin id changes => exact hchecked updateJoin_effect h
  | removeJoin id => exact hpure (removeJoin_effect id) h
  | addJoinCondition id l r => exact addJoinCondition_effect h
  | updateJoinCondition id condition l r => exact hchecked updateJoinCondition_effect h
  | removeJoinCondition id condition => exact hchecked removeJoinCondition_effect h
  | addCondition new => exact addCondition_effect h
  | updateCondition id changes => exact hchecked updateCondition_effect h
  | removeCondition id => exact hpure (removeCondition_effect id) h
  | addSubqueryCondition s a => exact addSubqueryCondition_effect h
  | addGroupBy path => exact hpure (addGroupBy_effect path) h
  | removeGroupBy path => exact hpure (removeGroupBy_effect path) h
  | addOrderBy column direction => exact hchecked addOrderBy_effect h
  | removeOrderBy column => exact hpure (removeOrderBy_effect column) h
  | setLimit limit => exact hchecked setLimit_effect h
  | setDistinct distinct => exact hpure .distinct h

end Configuration
end SelectQuery
