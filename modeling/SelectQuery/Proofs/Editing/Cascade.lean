import Mathlib.Data.List.Nodup
import SelectQuery.Proofs.ColumnPath
import SelectQuery.Proofs.Editing.Effect

/-!
# What goes with a table

A query takes a reference for the first selected table that answers to it. Removing a table
asks of the table alone whether it answers, so that an entry goes with it also where an
earlier table has the same name or alias (`removeTable_sharedName`). With the tables in
front of it set aside, the two agree on columns, on joins and on paths without a schema, and
they agree on a path with a schema unless a name with a point in it is spelled out by the
path, or the schema stands in front of an alias (`removeTable_cascade`).

The reason is one for all kinds of entry: a table that answers is the first one to do so
among itself and the tables behind it (`resolves_cons`).
-/

namespace SelectQuery

deriving instance DecidableEq for Table

/-! ## What an entry is taken for -/

/-- A reference means a table among some tables: the first one that answers to it. -/
def Table.resolves (t : Table String) (tables : List (Table String)) (reference schema : String) :
    Bool :=
  tableFor tables reference schema == some t

/-- A path means a table among some tables. Expressions and plain columns mean none. -/
def Table.resolvesPath (t : Table String) (tables : List (Table String)) (path : String) : Bool :=
  ((ColumnPath.parse? path).bind fun p =>
    p.table.map fun r => t.resolves tables r (p.schema.getD "")).getD false

/-- A configuration without a table and without the columns, the joins by either side, and
the conditions, groupings and orderings by path that go with it. -/
def Configuration.cascade (c : Configuration String) (t : Table String)
    (column : Column String → Bool) (side path : String → Bool) : Configuration String :=
  { c with
    tables := c.tables.filter (· != t)
    columns := c.columns.filter (!column ·)
    joins := c.joins.filter fun j => !(side j.leftTable || side j.rightTable)
    conditions := c.conditions.filter (!path ·.column)
    groupBy := c.groupBy.filter (!path ·)
    orderBy := c.orderBy.filter (!path ·.column) }

/-- The configuration without a table and all that is taken for it among some tables. -/
def Configuration.withoutResolved (c : Configuration String) (t : Table String)
    (tables : List (Table String)) : Configuration String :=
  c.cascade t (fun col => t.resolves tables col.table col.schema)
    (fun reference => t.resolves tables reference "") (t.resolvesPath tables)

/-- A path gives the schema of a table in front of its alias. -/
def Table.hasAliasPath (t : Table String) (path : String) : Prop :=
  ∃ p, ColumnPath.parse? path = some p ∧ p.schema = some t.schema ∧ p.table.isSome = true ∧
    p.table = t.aliasName ∧ p.table ≠ some t.name

/-- The schema and table of a path spell out, with the point between them, the name of a
table or its alias. -/
def Table.isSpelledOut (t : Table String) (path : String) : Prop :=
  ∃ p schema table, ColumnPath.parse? path = some p ∧ p.schema = some schema ∧
    p.table = some table ∧
    (schema ++ "." ++ table = t.name ∨ some (schema ++ "." ++ table) = t.aliasName)

namespace Table

variable {t : Table String} {after : List (Table String)}

theorem resolves_iff {tables : List (Table String)} {reference schema : String} :
    t.resolves tables reference schema = true ↔ tableFor tables reference schema = some t := by
  rw [resolves, beq_iff_eq]

/-- A table that stands in front of the others is meant as soon as it answers. -/
theorem resolves_cons (ht : t ∉ after) (reference schema : String) :
    t.resolves (t :: after) reference schema =
      (t.answersTo reference && t.inSchema schema) := by
  rw [Bool.eq_iff_iff, resolves_iff, tableFor, List.find?_cons]
  split
  · next hanswers => simp [hanswers]
  · next hanswers =>
      simp only [hanswers, Bool.false_eq_true, iff_false]
      exact fun hfound => ht (List.mem_of_find?_eq_some hfound)

/-- In front of the others a table is meant by all that no table before it answers to. -/
theorem resolves_append {before : List (Table String)} (ht : t ∉ before)
    (reference schema : String) :
    t.resolves (before ++ t :: after) reference schema = true ↔
      tableFor before reference schema = none ∧
        t.resolves (t :: after) reference schema = true := by
  rw [resolves_iff, resolves_iff, tableFor, List.find?_append, ← tableFor, ← tableFor]
  cases hbefore : tableFor before reference schema with
  | none => simp
  | some u =>
      have hne : u ≠ t := by
        rintro rfl
        exact ht (List.mem_of_find?_eq_some hbefore)
      simp [hne]

/-! ## Paths -/

theorem mem_references_iff {reference : String} :
    reference ∈ t.references ↔ reference = t.name ∨
      (t.schema ≠ "" ∧ reference = t.schema ++ "." ++ t.name) ∨
      (reference ≠ "" ∧ t.aliasName = some reference) := by
  have hqualified : reference = t.qualifiedName ∨ reference = t.name ↔
      (t.schema ≠ "" ∧ reference = t.schema ++ "." ++ t.name) ∨ reference = t.name := by
    by_cases hschema : t.schema = "" <;> simp [qualifiedName, hschema]
  simp only [references, Entry.present?, List.mem_append, List.mem_cons, List.not_mem_nil,
    or_false, Option.mem_toList, Option.filter_eq_some_iff, Entry.isPresent_string, bne_iff_ne]
  tauto

/-- A schema and a table without points are told from a text with a point between them. -/
theorem qualified_inj {schema table schema' table' : String}
    (hschema : '.' ∉ schema.toList) (htable : '.' ∉ table.toList) :
    schema ++ "." ++ table = schema' ++ "." ++ table' ↔ schema = schema' ∧ table = table' := by
  have hlist (a b : String) : (a ++ "." ++ b).toList = a.toList ++ '.' :: b.toList := by simp
  rw [← String.toList_inj, hlist, hlist, List.append_cons_inj_of_notMem hschema htable,
    String.toList_inj, String.toList_inj]
  simp

/-- A table answers to a schema and a table with a point between them. -/
theorem answersTo_qualified_iff {schema table : String}
    (hschema : ColumnPath.isIdentifier schema.toList = true)
    (htable : ColumnPath.isIdentifier table.toList = true) :
    t.answersTo (schema ++ "." ++ table) = true ↔ (schema = t.schema ∧ table = t.name) ∨
      schema ++ "." ++ table = t.name ∨ some (schema ++ "." ++ table) = t.aliasName := by
  have hne : schema ≠ "" := by
    rintro rfl
    exact ColumnPath.ne_nil_of_isIdentifier hschema rfl
  have hne' : schema ++ "." ++ table ≠ "" := by simp [hne]
  rw [answersTo_iff, mem_references_iff,
    qualified_inj (ColumnPath.point_notMem hschema) (ColumnPath.point_notMem htable),
    eq_comm (a := t.aliasName)]
  constructor
  · rintro (hname | ⟨-, hboth⟩ | ⟨-, halias⟩)
    · exact .inr (.inl hname)
    · exact .inl hboth
    · exact .inr (.inr halias)
  · rintro (⟨rfl, rfl⟩ | hname | halias)
    · exact .inr (.inl ⟨hne, rfl, rfl⟩)
    · exact .inl hname
    · exact .inr (.inr ⟨hne', halias⟩)

/-- A table is looked up by a schema beside the table. -/
theorem answersTo_inSchema_iff {schema table : String}
    (hschema : ColumnPath.isIdentifier schema.toList = true)
    (htable : ColumnPath.isIdentifier table.toList = true) :
    (t.answersTo table && t.inSchema schema) = true ↔
      schema = t.schema ∧ (table = t.name ∨ some table = t.aliasName) := by
  have hne : schema ≠ "" := by
    rintro rfl
    exact ColumnPath.ne_nil_of_isIdentifier hschema rfl
  have hne' : table ≠ "" := by
    rintro rfl
    exact ColumnPath.ne_nil_of_isIdentifier htable rfl
  have hpoint : table ≠ t.schema ++ "." ++ t.name := by
    rintro rfl
    exact ColumnPath.point_notMem htable (by simp)
  have hinSchema : t.inSchema schema = true ↔ schema = t.schema := by simp [inSchema, hne]
  rw [Bool.and_eq_true, hinSchema, answersTo_iff, mem_references_iff, eq_comm (a := t.aliasName)]
  constructor
  · rintro ⟨hname | ⟨-, hqualified⟩ | ⟨-, halias⟩, rfl⟩
    · exact ⟨rfl, .inl hname⟩
    · exact absurd hqualified hpoint
    · exact ⟨rfl, .inr halias⟩
  · rintro ⟨rfl, hname | halias⟩
    · exact ⟨.inl hname, rfl⟩
    · exact ⟨.inr (.inr ⟨hne', halias⟩), rfl⟩

/-- A table takes a path along if it would be meant by it in front of all others. -/
theorem pathBelongsTo_iff {path : String} (halias : ¬t.hasAliasPath path) (ht : t ∉ after) :
    pathBelongsTo path t = true ↔
      t.resolvesPath (t :: after) path = true ∨ t.isSpelledOut path := by
  cases hpath : ColumnPath.parse? path with
  | none => simp [pathBelongsTo, resolvesPath, isSpelledOut, hpath]
  | some p =>
      obtain ⟨-, htables, hschemas⟩ := ColumnPath.isIdentifier_of_parse? hpath
      cases htable : p.table with
      | none =>
          simp [pathBelongsTo, resolvesPath, isSpelledOut, hpath, htable, ColumnPath.reference?]
      | some r =>
          cases hschema : p.schema with
          | none =>
              simp [pathBelongsTo, resolvesPath, isSpelledOut, hpath, htable, hschema,
                ColumnPath.reference?, resolves_cons ht, inSchema]
          | some s =>
              have hr := htables r htable
              have hs := (hschemas s hschema).1
              have hbelongs : pathBelongsTo path t = t.answersTo (s ++ "." ++ r) := by
                simp [pathBelongsTo, hpath, htable, hschema, ColumnPath.reference?]
              have hresolves : t.resolvesPath (t :: after) path =
                  (t.answersTo r && t.inSchema s) := by
                simp [resolvesPath, hpath, htable, hschema, resolves_cons ht]
              have hspelled : t.isSpelledOut path ↔
                  s ++ "." ++ r = t.name ∨ some (s ++ "." ++ r) = t.aliasName := by
                simp [isSpelledOut, hpath, htable, hschema]
              -- an alias behind the schema is the only way to be meant and not to answer
              have hname : s = t.schema → some r = t.aliasName → r = t.name := by
                rintro rfl hr
                by_contra hne
                exact halias ⟨p, hpath, hschema, by simp [htable], htable.trans hr,
                  by simpa [htable] using hne⟩
              rw [hbelongs, hresolves, hspelled, answersTo_qualified_iff hs hr,
                answersTo_inSchema_iff hs hr]
              constructor
              · rintro (⟨hs, hr⟩ | hspelled)
                · exact .inl ⟨hs, .inl hr⟩
                · exact .inr hspelled
              · rintro (⟨hs, hr | hr⟩ | hspelled)
                · exact .inl ⟨hs, hr⟩
                · exact .inl ⟨hs, hname hs hr⟩
                · exact .inr hspelled

end Table

/-! ## Removing a table -/

namespace Configuration

variable {c : Configuration String} {t : Table String} {before after : List (Table String)}

/-- A selected table is found by its schema and name, and goes alone. -/
theorem removeTable_eq (hkeys : (c.tables.map Table.key).Nodup) (ht : t ∈ c.tables) :
    c.removeTable t.schema t.name = .ok (c.withoutTable t) := by
  rw [removeTable]
  split
  · next hnone =>
      exact absurd (Table.isNamed_iff.mpr rfl) (List.find?_eq_none.mp hnone t ht)
  · next found hfound =>
      have hkey : found.key = t.key := by
        have hnamed := List.find?_some hfound
        exact Table.isNamed_iff.mp hnamed
      obtain rfl : found = t :=
        List.inj_on_of_nodup_map hkeys (List.mem_of_find?_eq_some hfound) ht hkey
      simp

theorem filter_sameKey (hkeys : (c.tables.map Table.key).Nodup) (ht : t ∈ c.tables) :
    c.tables.filter (!·.sameKey t) = c.tables.filter (· != t) := by
  refine List.filter_congr fun u hu => ?_
  have hsame : u.sameKey t = true ↔ u = t :=
    Table.sameKey_iff.trans ⟨List.inj_on_of_nodup_map hkeys hu ht, fun h => h ▸ rfl⟩
  rw [bne, Bool.not_inj_iff, Bool.eq_iff_iff, hsame, beq_iff_eq]

/-- Removing a table succeeds and takes along what means the table once the tables before it
are set aside, and the paths that spell out its name. Paths with its schema in front of its
alias are left open. Without the tables before it the table is meant by what meant it among
all tables, and by no more than what one of them answers to as well. -/
theorem removeTable_cascade (htables : c.tables = before ++ t :: after)
    (hkeys : (c.tables.map Table.key).Nodup) :
    (∃ path : String → Bool, c.removeTable t.schema t.name = .ok (c.cascade t
        (fun col => t.resolves (t :: after) col.table col.schema)
        (fun reference => t.resolves (t :: after) reference "") path) ∧
      ∀ p, ¬t.hasAliasPath p →
        (path p = true ↔ t.resolvesPath (t :: after) p = true ∨ t.isSpelledOut p)) ∧
    ∀ reference schema, t.resolves c.tables reference schema = true ↔
      SelectQuery.tableFor before reference schema = none ∧
        t.resolves (t :: after) reference schema = true := by
  have ht : t ∈ c.tables := by simp [htables]
  have hnodup : (before ++ t :: after).Nodup := htables ▸ List.Nodup.of_map Table.key hkeys
  obtain ⟨-, hbehind, hapart⟩ := List.nodup_append.mp hnodup
  have hafter : t ∉ after := (List.nodup_cons.mp hbehind).1
  have hbefore : t ∉ before := fun h => hapart t h t (List.mem_cons_self ..) rfl
  refine ⟨⟨(pathBelongsTo · t), ?_, fun p hp => Table.pathBelongsTo_iff hp hafter⟩, ?_⟩
  · rw [removeTable_eq hkeys ht, withoutTable, filter_sameKey hkeys ht, cascade]
    simp [Table.resolves_cons hafter, Column.belongsTo, Join.touches, Table.inSchema]
  · rw [htables]
    exact Table.resolves_append hbefore

/-- Two tables of one name, with a condition on each of them. -/
def liveUsers : Table String := ⟨"users", "public", none⟩

def archivedUsers : Table String := ⟨"users", "archive", some "old"⟩

def sharedNames : Configuration String where
  tables := [liveUsers, archivedUsers]
  conditions := [⟨"users.status", .term .eq, "active", none, "condition_1"⟩,
    ⟨"old.status", .term .eq, "active", some (.term .and), "condition_2"⟩]

theorem removeTable_cascade_sharedNames :
    sharedNames.tables = [liveUsers] ++ archivedUsers :: [] ∧
    (sharedNames.tables.map Table.key).Nodup ∧
    (∃ path : String → Bool, sharedNames.removeTable "archive" "users" =
        .ok (sharedNames.cascade archivedUsers
          (fun col => archivedUsers.resolves [archivedUsers] col.table col.schema)
          (fun reference => archivedUsers.resolves [archivedUsers] reference "") path) ∧
      ∀ p, ¬archivedUsers.hasAliasPath p → (path p = true ↔
        archivedUsers.resolvesPath [archivedUsers] p = true ∨ archivedUsers.isSpelledOut p)) ∧
    ∀ reference schema, archivedUsers.resolves sharedNames.tables reference schema = true ↔
      SelectQuery.tableFor [liveUsers] reference schema = none ∧
        archivedUsers.resolves [archivedUsers] reference schema = true := by
  have htables : sharedNames.tables = [liveUsers] ++ archivedUsers :: [] := rfl
  have hkeys : (sharedNames.tables.map Table.key).Nodup := by decide
  exact ⟨htables, hkeys, removeTable_cascade htables hkeys⟩

/-- The condition on `users` is on the live table, and still goes with the archived one. -/
theorem removeTable_sharedName :
    (sharedNames.tables.map Table.key).Nodup ∧ archivedUsers ∈ sharedNames.tables ∧
      sharedNames.removeTable archivedUsers.schema archivedUsers.name ≠
        .ok (sharedNames.withoutResolved archivedUsers sharedNames.tables) := by
  have hkeys : (sharedNames.tables.map Table.key).Nodup := by decide
  have ht : archivedUsers ∈ sharedNames.tables := by simp [sharedNames]
  refine ⟨hkeys, ht, ?_⟩
  rw [removeTable_eq hkeys ht]
  intro h
  have hconditions := congrArg (fun c => c.conditions.length) (Except.ok.inj h)
  exact absurd hconditions (by decide)

end Configuration
end SelectQuery
