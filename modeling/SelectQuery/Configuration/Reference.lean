import SelectQuery.Configuration.Basic
import SelectQuery.Error

/-!
# References to tables

Joins and columns name a table by its name, by schema and name, or by its alias. A
reference means the first selected table that answers to it. Where a schema is given with
it, a table of another schema does not answer.
-/

namespace SelectQuery

variable {ν : Type} [Entry ν]

open Entry

namespace Table

/-- Schema and name, or the bare name of a table without a schema. -/
def qualifiedName (t : Table ν) : ν :=
  if isPresent t.schema then ofText (text t.schema ++ "." ++ text t.name) else t.name

/-- All that a table answers to. -/
def references (t : Table ν) : List ν :=
  [t.name, t.qualifiedName] ++ (present? t.aliasName).toList

/-- A table answers to a reference. -/
def answersTo (t : Table ν) (reference : ν) : Bool := t.references.any (same reference)

/-- A table lies in a schema. Without a schema every table does. -/
def inSchema (t : Table ν) (schema : ν) : Bool := !isPresent schema || same schema t.schema

def sameKey (t u : Table ν) : Bool := same t.schema u.schema && same t.name u.name

/-- The table that columns are qualified with in place of a reference: its alias, or the
reference itself. -/
def qualifier (t : Table ν) (reference : ν) : ν := (present? t.aliasName).getD reference

/-- The references of a table can be put into a set. -/
def isSearchable (t : Table ν) : Bool := t.references.all isAtomic

end Table

/-- The first of some tables that answers to a reference. -/
def tableFor (tables : List (Table ν)) (reference schema : ν) : Option (Table ν) :=
  tables.find? fun t => t.answersTo reference && t.inSchema schema

/-- Looking a reference up comes upon something that cannot be in a set. -/
def lookupFails (reference schema : ν) : List (Table ν) → Bool
  | [] => false
  | t :: rest =>
    !t.isSearchable || !isAtomic reference ||
      (!(t.answersTo reference && t.inSchema schema) && lookupFails reference schema rest)

namespace Configuration

def tableFor (c : Configuration ν) (reference : ν) (schema : ν := blank) : Option (Table ν) :=
  SelectQuery.tableFor c.tables reference schema

/-- What columns of a table are qualified with: its alias if it has one, and otherwise
the reference as it was written. -/
def qualifier (c : Configuration ν) (reference : ν) (schema : ν := blank) : ν :=
  match c.tableFor reference schema with
  | some t => t.qualifier reference
  | none => reference

def lookupFault? (c : Configuration ν) (reference : ν) (schema : ν := blank) : Option Misuse :=
  if lookupFails reference schema c.tables then some .notAtomic else none

/-- A reference is kept, or gives way to the alias of a table. -/
theorem qualifier_eq_or (c : Configuration ν) (reference schema : ν) :
    c.qualifier reference schema = reference ∨
      ∃ t ∈ c.tables, present? t.aliasName = some (c.qualifier reference schema) := by
  rw [qualifier]
  split
  · next t ht =>
      rw [Table.qualifier]
      cases halias : present? t.aliasName with
      | none => exact .inl rfl
      | some a => exact .inr ⟨t, List.mem_of_find?_eq_some ht, halias⟩
  · exact .inl rfl

end Configuration

namespace Table

@[simp] theorem isSearchable_string (t : Table String) : t.isSearchable = true := by
  simp [isSearchable]

end Table

@[simp] theorem lookupFails_string (reference schema : String) (tables : List (Table String)) :
    lookupFails reference schema tables = false := by
  induction tables with
  | nil => rfl
  | cons t rest ih => simp [lookupFails, ih]

@[simp] theorem Configuration.lookupFault?_string (c : Configuration String)
    (reference schema : String) : c.lookupFault? reference schema = none := by
  simp [lookupFault?]

end SelectQuery
