import SelectQuery.Configuration.Basic
import SelectQuery.Error
import SelectQuery.Value.Order

/-!
# The catalog

The catalog tells which tables a database has, and for each table its columns, its primary
key and the tables it refers to. `TableInfo` and `ColumnInfo` are what is shown of it.
-/

namespace SelectQuery

/-- A column in the catalog. A column of which nothing is said may be null. -/
structure CatalogColumn (ν : Type) where
  name : ν
  type : Value
  nullable : Option Value := none

/-- Columns that refer to another table. -/
structure ForeignKey (ν : Type) where
  columns : List ν
  table : ν

/-- A table in the catalog. -/
structure CatalogTable (ν : Type) where
  name : ν
  schema : Option ν := none
  columns : List (CatalogColumn ν) := []
  primaryKey : List ν := []
  foreignKeys : List (ForeignKey ν) := []

/-- The tables of a database, in the order in which it lists them. -/
abbrev Catalog (ν : Type) := List (CatalogTable ν)

/-- What is shown of a table. -/
structure TableInfo (ν : Type) where
  name : ν
  schema : ν

/-- What is shown of a column. -/
structure ColumnInfo (ν : Type) where
  name : ν
  type : ν
  nullable : Switch
  primaryKey : Switch := .known false
  foreignKey : Option ν := none

variable {ν : Type} [Entry ν]

open Entry

/-- What is shown of a table, as a value. Rows are not counted. -/
def TableInfo.toValue (t : TableInfo ν) : Value :=
  .object [("schema", Entry.toValue t.schema), ("name", Entry.toValue t.name),
    ("rowCount", .null)]

/-- What is shown of a column, as a value. -/
def ColumnInfo.toValue (c : ColumnInfo ν) : Value :=
  .object [("name", Entry.toValue c.name), ("type", Entry.toValue c.type),
    ("nullable", c.nullable.toValue), ("primaryKey", c.primaryKey.toValue),
    ("foreignKey", (c.foreignKey.map Entry.toValue).getD .null)]

namespace ColumnInfo

def fieldNames : List String := ["name", "type", "nullable", "primary_key", "foreign_key"]

/-- The description of a column by fields. The name, the type and whether it may be null
are required. -/
def ofFields (fields : List (String × Value)) : Except Error (ColumnInfo Value) :=
  let field (name : String) := Value.field? name fields
  if !(fields.all fun f => fieldNames.contains f.1) then .error (.misuse .wrongFields)
  else
    match field "name", field "type", field "nullable" with
    | some name, some type, some nullable =>
      .ok ⟨name, type, .ofValue nullable,
        .ofValue ((field "primary_key").getD (.bool false)), field "foreign_key"⟩
    | _, _, _ => .error (.misuse .wrongFields)

end ColumnInfo

namespace CatalogTable

/-- The table that a column refers to; the last foreign key with the column decides. -/
def referred? (t : CatalogTable ν) (column : ν) : Option ν :=
  (t.foreignKeys.reverse.find? fun k => k.columns.any (same column)).map ForeignKey.table

/-- What is shown of a column of the table. -/
def info (t : CatalogTable ν) (c : CatalogColumn ν) : ColumnInfo ν where
  name := c.name
  type := ofText (Text.upper c.type.display)
  nullable := .known ((c.nullable.map Value.isPresent).getD true)
  primaryKey := .known (t.primaryKey.any (same c.name))
  foreignKey := t.referred? c.name

/-- What is shown of the columns of the table, in their order. -/
def infos (t : CatalogTable ν) : List (ColumnInfo ν) := t.columns.map t.info

def isAtomic (t : CatalogTable ν) : Bool :=
  t.primaryKey.all Entry.isAtomic && (t.foreignKeys.all fun k => k.columns.all Entry.isAtomic) &&
    t.columns.all fun c => Entry.isAtomic c.name

/-- The table belongs to a schema; none is the schema without a name. -/
def isIn (t : CatalogTable ν) (schema : Option ν) : Bool :=
  match present? t.schema, present? schema with
  | none, none => true
  | some a, some b => same a b
  | _, _ => false

@[simp] theorem isAtomic_string (t : CatalogTable String) : t.isAtomic = true := by
  simp [isAtomic]

end CatalogTable

namespace Catalog

def find? (catalog : Catalog ν) (name : ν) (schema : Option ν) : Option (CatalogTable ν) :=
  List.find? (fun t => t.isIn schema && same name t.name) catalog

/-- The names of the tables in a schema, in order. -/
def names (catalog : Catalog ν) (schema : Option ν) : Except Error (List ν) :=
  let found := (catalog.filter (·.isIn schema)).map CatalogTable.name
  match Sorting.sort? (fun a b => (Entry.toValue a).less? (Entry.toValue b)) found with
  | some names => .ok names
  | none => .error (.misuse .notOrdered)

/-- What is shown of the columns of a table. -/
def columns (catalog : Catalog ν) (name : ν) (schema : Option ν) :
    Except Error (List (ColumnInfo ν)) :=
  match catalog.find? name schema with
  | some t => if t.isAtomic then .ok t.infos else .error (.misuse .notAtomic)
  | none => .error (.notFound (.catalogTable (Entry.toValue name)))

end Catalog
end SelectQuery
