import SelectQuery.Entry
import SelectQuery.Value.Order

/-!
# The column cache

What was read about a table is kept under its schema and name until it is dropped. A key
occurs at most once. Keys that are lists or objects cannot be looked up.
-/

namespace SelectQuery

/-- A schema and the name of a table in it. -/
structure TableKey (ν : Type) where
  schema : ν
  table : ν

/-- What is kept about tables, the latest first. -/
structure Cache (ν α : Type) where
  entries : List (TableKey ν × α) := []

variable {ν α : Type} [Entry ν]

namespace TableKey

open Entry

def agrees (k l : TableKey ν) : Bool :=
  Entry.same k.schema l.schema && Entry.same k.table l.table

def isAtomic (k : TableKey ν) : Bool := Entry.isAtomic k.schema && Entry.isAtomic k.table

/-- A key as a pair of values. -/
def toPair (k : TableKey ν) : Value × Value :=
  (Entry.toValue k.schema, Entry.toValue k.table)

@[simp] theorem agrees_string (k l : TableKey String) :
    k.agrees l = (k.schema == l.schema && k.table == l.table) := by
  simp [TableKey.agrees]

@[simp] theorem isAtomic_string (k : TableKey String) : k.isAtomic = true := by
  simp [isAtomic]

end TableKey

namespace Cache

def get? (c : Cache ν α) (k : TableKey ν) : Option α :=
  (c.entries.find? fun e => k.agrees e.1).map Prod.snd

def has (c : Cache ν α) (k : TableKey ν) : Bool := c.entries.any fun e => k.agrees e.1

def erase (c : Cache ν α) (k : TableKey ν) : Cache ν α :=
  ⟨c.entries.filter fun e => !k.agrees e.1⟩

/-- Keeps something under a key, in place of what was there. -/
def put (c : Cache ν α) (k : TableKey ν) (a : α) : Cache ν α := ⟨(k, a) :: (c.erase k).entries⟩

/-- Drops everything about the tables of a schema. -/
def eraseSchema (c : Cache ν α) (schema : ν) : Cache ν α :=
  ⟨c.entries.filter fun e => !Entry.same schema e.1.schema⟩

def clear (_ : Cache ν α) : Cache ν α := {}

/-- The keys in order; nothing if two of them cannot be compared. -/
def keys? (c : Cache ν α) : Option (List (Value × Value)) :=
  Value.sortPairs? (c.entries.map fun e => e.1.toPair)

end Cache
end SelectQuery
