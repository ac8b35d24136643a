import SelectQuery.Configuration.Loader

/-!
# Configurations as entered

A configuration can be put together from values just as they are, before anything has been
read or refused. A word that is not in its list then stands in the query as it was
written, except that an unknown kind of join is an inner join and an unknown function is
none. Missing fields take their defaults, and a field without a default must be there.
-/

namespace SelectQuery

open Value

def enteredField (data : Value) (key : String) : Except Error (Option Value) :=
  match data with
  | .object fields => .ok (field? key fields)
  | _ => .error (.misuse .wrongFields)

/-- A field that must be there. -/
def requiredField (data : Value) (key : String) : Except Error Value := do
  match ← enteredField data key with
  | some v => return v
  | none => throw (.misuse .wrongFields)

/-- A field with nothing entered where it is missing. -/
def fieldOrBlank (data : Value) (key : String) : Except Error Value := do
  return (← enteredField data key).getD (.text "")

/-- An optional field, for which null stands as well. -/
def fieldOrNone (data : Value) (key : String) : Except Error (Option Value) := do
  match ← enteredField data key with
  | some .null | none => return none
  | some v => return some v

def enteredItems (data : Value) (key : String) : Except Error (List Value) := do
  itemsOf (← enteredField data key)

/-- A word of a list, or what was written in its place. -/
def Entered.ofValue (τ : Type) [Term τ] (v : Value) : Entered τ :=
  match (Term.ofText? v.display : Option τ) with
  | some t => .term t
  | none => .verbatim v.display

def Table.entered (data : Value) : Except Error (Table Value) := do
  return ⟨← requiredField data "name", ← fieldOrBlank data "schema", ← fieldOrNone data "alias"⟩

/-- A function as entered. Blanks around its name are not passed over. -/
def AggregateFunction.entered? (v : Value) : Option AggregateFunction :=
  Term.named? (Text.upper v.display)

def Column.entered (data : Value) : Except Error (Column Value) := do
  let table ← requiredField data "tableName"
  let name ← requiredField data "columnName"
  let schema ← fieldOrBlank data "schema"
  let aliasName ← fieldOrNone data "alias"
  let function ← fieldOrNone data "aggregateFunction"
  return ⟨table, name, schema, aliasName, function.bind AggregateFunction.entered?, []⟩

def Join.entered (data : Value) : Build (Join Value) := do
  let leftTable ← Build.ofExcept (fieldOrBlank data "leftTable")
  let leftColumn ← Build.ofExcept (fieldOrBlank data "leftColumn")
  let rightTable ← Build.ofExcept (fieldOrBlank data "rightTable")
  let rightColumn ← Build.ofExcept (fieldOrBlank data "rightColumn")
  let type ← Build.ofExcept (enteredField data "joinType")
  let type := (type.bind fun v => Term.ofText? v.display).getD JoinType.inner
  return ⟨leftTable, leftColumn, rightTable, rightColumn, type, [],
    .text (← Build.freshId .join)⟩

def Condition.entered (data : Value) : Build (Condition Value) := do
  let column ← Build.ofExcept (fieldOrBlank data "column")
  let operator ← Build.ofExcept (enteredField data "operator")
  let value ← Build.ofExcept (fieldOrBlank data "value")
  let connector ← Build.ofExcept (enteredField data "logicalOperator")
  return ⟨column, (operator.map (Entered.ofValue ConditionOperator)).getD (.term .eq), value,
    (connector.filter isPresent).map fun v => .verbatim v.display,
    .text (← Build.freshId .condition)⟩

def Ordering.entered (data : Value) : Except Error (Ordering Value) := do
  let column ← requiredField data "column"
  let direction ← enteredField data "direction"
  return ⟨column, (direction.map fun v => .verbatim v.display).getD (.term .asc)⟩

/-- The row limit as entered: anything but a whole number is none. -/
def enteredLimit : Option Value → Option Int
  | some (.int n) => some n
  | _ => none

def Configuration.entered (data : Value) : Build (Configuration Value) := do
  let tables ← (← Build.ofExcept (enteredItems data "selectedTables")).mapM fun x =>
    Build.ofExcept (Table.entered x)
  let columns ← (← Build.ofExcept (enteredItems data "selectedColumns")).mapM fun x =>
    Build.ofExcept (Column.entered x)
  let joins ← (← Build.ofExcept (enteredItems data "joins")).mapM Join.entered
  let conditions ← (← Build.ofExcept (enteredItems data "conditions")).mapM Condition.entered
  let groupBy ← Build.ofExcept (enteredItems data "groupBy")
  let orderBy ← (← Build.ofExcept (enteredItems data "orderBy")).mapM fun x =>
    Build.ofExcept (Ordering.entered x)
  let limit ← Build.ofExcept (enteredField data "limit")
  let distinct ← Build.ofExcept (enteredField data "distinct")
  return ⟨tables, columns, joins, conditions, groupBy, orderBy, enteredLimit limit,
    .ofValue (distinct.getD (.bool false))⟩

end SelectQuery
