import SelectQuery.Configuration.Loader
import SelectQuery.Configuration.Wire
import SelectQuery.Editing.Tables

/-!
# Editing columns

A column is selected once, by schema, table and name, and its table is selected with it.
After that a column is named by its identifier. Moving a column is clamped to the places
there are.
-/

namespace SelectQuery

variable {ν : Type} [Entry ν]

open Entry

def Term.ofEntry (τ : Type) [Term τ] (v : ν) (path : String) : Except Error τ :=
  Term.ofValue τ (toValue v) path

/-- A change of a selected column. -/
inductive ColumnChange (ν : Type)
  | aliasName (v : Option ν)
  | function (v : Option ν)
  | params (vs : List ν)
  /-- Something that holds no parameters. -/
  | notParams
  /-- A field that cannot be changed. -/
  | other (name : String)

namespace ColumnChange

def other? : ColumnChange ν → Option String
  | .other name => some name
  | _ => none

def checkFunction : ColumnChange ν → Except Error Unit
  | .function (some v) =>
    if isPresent v then do
      let _ ← Term.ofEntry AggregateFunction v "selectedColumns.aggregateFunction"
    else .ok ()
  | _ => .ok ()

def checkParams : ColumnChange ν → Except Error Unit
  | .notParams => .error (.misuse .notIterable)
  | _ => .ok ()

def apply (c : Column ν) : ColumnChange ν → Column ν
  | .aliasName v => { c with aliasName := present? v }
  | .function v => { c with function := (present? v).bind fun f => Term.ofText? (text f) }
  | .params vs => { c with params := vs }
  | _ => c

end ColumnChange

/-- Names in the order of their code points. -/
def sortedNames (names : List String) : List String :=
  names.mergeSort fun a b => !Text.less b a

/-- Refuses a change of fields that stay as they are. -/
def refuseFixed (subject : String) (names : List String) (path : String) : Except Error Unit :=
  if names.isEmpty then .ok ()
  else .error (.configuration (.fixedFields subject (sortedNames names)) path)

def Column.isNamed (c : Column ν) (id : ν) : Bool := same (ofText c.id) id

/-- Looking for an identifier comes upon a column that has none. -/
def idLookupFails (id : ν) : List (Column ν) → Bool
  | [] => false
  | c :: rest => !c.hasId || (!c.isNamed id && idLookupFails id rest)

namespace Configuration

/-- Looking up the table of a column comes upon something that cannot be in a set. -/
def belongingFails (c : Column ν) : List (Table ν) → Bool
  | [] => false
  | t :: rest =>
    !t.isSearchable || !isAtomic c.table || (!c.belongsTo t && belongingFails c rest)

/-- Selects a column, with its table if it belongs to none that is selected. A column with
the same schema, table and name stays as it is. -/
def withColumn (c : Configuration ν) (col : Column ν) : Configuration ν :=
  if c.columns.any (·.sameKey col) then c
  else
    let withTable :=
      if c.tables.any col.belongsTo then c
      else c.addTable { name := col.table, schema := col.schema }
    { withTable with columns := c.columns ++ [col] }

def addColumn (c : Configuration ν) (col : Column ν) : Except Error (Configuration ν) :=
  if c.columns.any (·.sameKey col) then
    if col.hasId then .ok c else .error (.misuse .notJoinable)
  else if belongingFails col c.tables then .error (.misuse .notAtomic)
  else .ok (c.withColumn col)

def requireIds (c : Configuration ν) : Except Error Unit :=
  if c.columns.all Column.hasId then .ok () else .error (.misuse .notJoinable)

/-- The first column with an identifier. -/
def columnIndex (c : Configuration ν) (id : ν) : Except Error Nat :=
  if idLookupFails id c.columns then .error (.misuse .notJoinable)
  else
    match c.columns.findIdx? (·.isNamed id) with
    | some i => .ok i
    | none => .error (.notFound (.column (Entry.toValue id)))

def updateColumn (c : Configuration ν) (id : ν) (changes : List (ColumnChange ν)) :
    Except Error (Configuration ν) := do
  let _ ← c.columnIndex id
  refuseFixed "Column" (changes.filterMap ColumnChange.other?) "selectedColumns"
  changes.forM ColumnChange.checkFunction
  changes.forM ColumnChange.checkParams
  c.requireIds
  return { c with
    columns := c.columns.map fun col =>
      if col.isNamed id then changes.foldl ColumnChange.apply col else col }

def removeColumn (c : Configuration ν) (id : ν) : Except Error (Configuration ν) := do
  c.requireIds
  return { c with columns := c.columns.filter (!·.isNamed id) }

/-- A list with the item at one place moved to another. -/
def moveItem {α : Type} (items : List α) (source target : Nat) : List α :=
  match items[source]? with
  | some x => (items.eraseIdx source).insertIdx target x
  | none => items

/-- A number clamped to the places `0` to `last`. -/
def clamp (last : Nat) (index : Int) : Nat := min index.toNat last

/-- A value as a place: a whole number, or any number that is clamped to one. -/
def placeOf (last : Nat) (index : Value) : Except Error Nat :=
  match index.number? with
  | none => .error (.misuse .notOrdered)
  | some (.integer n) => .ok (clamp last n)
  | some (.binary x) =>
    if (Value.Number.integer last).less (.binary x) then .ok last
    else if (Value.Number.integer 0).less (.binary x) then .error (.misuse .notNumber)
    else .ok 0

/-- Moves the first column with an identifier to a place. -/
def moveColumn (c : Configuration ν) (id : ν) (index : Value) :
    Except Error (Configuration ν) := do
  let source ← c.columnIndex id
  let target ← placeOf (c.columns.length - 1) index
  return { c with columns := moveItem c.columns source target }

@[simp] theorem belongingFails_string (c : Column String) (tables : List (Table String)) :
    belongingFails c tables = false := by
  induction tables with
  | nil => rfl
  | cons t rest ih => simp [belongingFails, ih]

@[simp] theorem idLookupFails_string (id : String) (columns : List (Column String)) :
    idLookupFails id columns = false := by
  induction columns with
  | nil => rfl
  | cons c rest ih => simp [idLookupFails, ih]

@[simp] theorem requireIds_string (c : Configuration String) : c.requireIds = .ok () := by
  simp [requireIds]

end Configuration
end SelectQuery
