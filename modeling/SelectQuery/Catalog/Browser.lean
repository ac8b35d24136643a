import SelectQuery.Catalog.Basic
import SelectQuery.Catalog.Cache
import SelectQuery.Database

/-!
# Browsing the catalog

The tables of a schema are read from the database whenever they are asked for. The columns
of a table are read once and then kept, until a refresh drops them; also a table without
columns is kept. What fails is not kept.
-/

namespace SelectQuery

/-- A view of the catalog: the schema that is meant where none is given, the columns read
so far, and the number of times the database was asked. -/
structure Browser (ν : Type) where
  schema : Option ν := none
  cache : Cache ν (List (ColumnInfo ν)) := {}
  reads : Nat := 0

namespace Browser

variable {ν : Type} [Entry ν]

open Entry

def effective (b : Browser ν) (schema : Option ν) : Option ν :=
  (present? schema).or (present? b.schema)

def key (b : Browser ν) (table : ν) (schema : Option ν) : TableKey ν :=
  ⟨(b.effective schema).getD blank, table⟩

def asked (b : Browser ν) : Browser ν := { b with reads := b.reads + 1 }

/-- The tables of a schema, in the order of their names. -/
def tables (b : Browser ν) (catalog : Catalog ν) (outage : Option Outage)
    (schema : Option ν) : Browser ν × Except Error (List (TableInfo ν)) :=
  let schema := b.effective schema
  (b.asked,
    match outage with
    | some o => .error (o.toError .listTables none)
    | none => do
      return (← catalog.names schema).map fun name => ⟨name, schema.getD blank⟩)

/-- The columns of a table, read from the database. -/
def read (b : Browser ν) (catalog : Catalog ν) (outage : Option Outage) (table : ν)
    (schema : Option ν) : Except Error (List (ColumnInfo ν)) :=
  match outage with
  | some o => .error (o.toError (.readColumns (text table)) none)
  | none => catalog.columns table (b.effective schema)

def columns (b : Browser ν) (catalog : Catalog ν) (outage : Option Outage) (table : ν)
    (schema : Option ν) : Browser ν × Except Error (List (ColumnInfo ν)) :=
  let key := b.key table schema
  if key.isAtomic then
    match b.cache.get? key with
    | some columns => (b, .ok columns)
    | none =>
      match b.read catalog outage table schema with
      | .ok columns => ({ b.asked with cache := b.cache.put key columns }, .ok columns)
      | .error e => (b.asked, .error e)
  else (b, .error (.misuse .notAtomic))

/-- Drops what was read about a table, or about all tables of a schema. -/
def refresh (b : Browser ν) (table : Option ν) (schema : Option ν) :
    Except Error (Browser ν) :=
  match table with
  | some table =>
    let key := b.key table schema
    if key.isAtomic then .ok { b with cache := b.cache.erase key }
    else .error (.misuse .notAtomic)
  | none => .ok { b with cache := b.cache.eraseSchema ((b.effective schema).getD blank) }

end Browser
end SelectQuery
