import SelectQuery.ColumnPath
import SelectQuery.Configuration.Reference
import SelectQuery.Ids

/-!
# Editing tables

A table is selected once, by schema and name. Removing a table removes everything that
refers to it: columns, joins, and the paths of conditions, grouping and ordering.
-/

namespace SelectQuery

variable {ν : Type} [Entry ν]

open Entry

def Table.isNamed (t : Table ν) (schema name : ν) : Bool :=
  same t.schema schema && same t.name name

/-- A column belongs to a table: it names the table, and no other schema. -/
def Column.belongsTo (c : Column ν) (t : Table ν) : Bool :=
  t.answersTo c.table && t.inSchema c.schema

/-- The reference in front of the column of a path: the table, with the schema if there is
one. -/
def ColumnPath.reference? (p : ColumnPath) : Option String :=
  match p.table, p.schema with
  | some t, some s => some (s ++ "." ++ t)
  | some t, none => some t
  | none, _ => none

/-- A path belongs to a table. Expressions and plain columns belong to none. -/
def pathBelongsTo (path : String) (t : Table ν) : Bool :=
  match (ColumnPath.parse? path).bind ColumnPath.reference? with
  | some r => t.answersTo (ofText r)
  | none => false

def Join.touches (j : Join ν) (t : Table ν) : Bool :=
  t.answersTo j.leftTable || t.answersTo j.rightTable

namespace Configuration

/-- Selects a table. One with the same schema and name stays as it is. -/
def addTable (c : Configuration ν) (t : Table ν) : Configuration ν :=
  if c.tables.any (·.sameKey t) then c else { c with tables := c.tables ++ [t] }

/-- Gives a selected table an alias, or takes it away. -/
def updateTable (c : Configuration ν) (schema name : ν) (aliasName : Option ν) :
    Except Error (Configuration ν) :=
  if c.tables.any (·.isNamed schema name) then
    .ok { c with
      tables := c.tables.map fun t =>
        if t.isNamed schema name then { t with aliasName := present? aliasName } else t }
  else .error (.notFound (.table (text schema ++ "." ++ text name)))

/-- A configuration without a table and all that refers to it. -/
def withoutTable (c : Configuration ν) (t : Table ν) : Configuration ν :=
  { c with
    tables := c.tables.filter (!·.sameKey t)
    columns := c.columns.filter (!·.belongsTo t)
    joins := c.joins.filter (!·.touches t)
    conditions := c.conditions.filter fun x => !pathBelongsTo (text x.column) t
    groupBy := c.groupBy.filter fun path => !pathBelongsTo (text path) t
    orderBy := c.orderBy.filter fun o => !pathBelongsTo (text o.column) t }

/-- A column or a join names something that cannot be looked up. -/
def referencesFail (c : Configuration ν) (t : Table ν) : Bool :=
  !t.isSearchable || c.columns.any (!isAtomic ·.table) ||
    c.joins.any fun j =>
      !isAtomic j.leftTable || (!t.answersTo j.leftTable && !isAtomic j.rightTable)

/-- A path is not text. -/
def pathsFail (c : Configuration ν) : Bool :=
  c.conditions.any (!isText ·.column) || c.groupBy.any (!isText ·) ||
    c.orderBy.any (!isText ·.column)

/-- Removes a table with everything that refers to it. A table that is not selected is
passed over. -/
def removeTable (c : Configuration ν) (schema name : ν) : Except Error (Configuration ν) :=
  match c.tables.find? (·.isNamed schema name) with
  | none => .ok c
  | some t =>
    if c.referencesFail t then .error (.misuse .notAtomic)
    else if c.pathsFail then .error (.misuse .notText)
    else .ok (c.withoutTable t)

@[simp] theorem referencesFail_string (c : Configuration String) (t : Table String) :
    c.referencesFail t = false := by
  simp [referencesFail]

@[simp] theorem pathsFail_string (c : Configuration String) : c.pathsFail = false := by
  simp [pathsFail]

end Configuration
end SelectQuery
