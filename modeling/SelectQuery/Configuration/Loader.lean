import SelectQuery.Configuration.Basic
import SelectQuery.Ids
import SelectQuery.Number.Integer
import SelectQuery.Text.Scan

/-!
# Loading configurations

A configuration is read leniently. A field may have the one or the other of two
spellings, a null counts as missing, and what is missing takes its default. Names, paths
and values are kept as they are. Only the words from closed lists and the row limit are
converted, and a word that is not in its list is refused with the path of its field. A
join or condition without an identifier takes a fresh one, after its other fields have
been read.
-/

namespace SelectQuery

namespace Value

/-- The first of some fields that is there and not null. A list or a text can be searched
as well, but nothing can be taken from it. -/
def pick (data : Value) : List String → Except Error (Option Value)
  | [] => .ok none
  | key :: rest =>
    match data with
    | .object fields =>
      match field? key fields with
      | none | some .null => pick data rest
      | some v => .ok (some v)
    | .list items =>
      if items.any (same (.text key)) then .error (.misuse .notSearchable) else pick data rest
    | .text s =>
      if Text.occursIn key.toList s.toList then .error (.misuse .notSearchable)
      else pick data rest
    | _ => .error (.misuse .notSearchable)

/-- A field, or nothing entered. -/
def pickText (data : Value) (keys : List String) : Except Error Value := do
  return (← data.pick keys).getD (.text "")

/-- A field that counts. -/
def pickPresent (data : Value) (keys : List String) : Except Error (Option Value) := do
  return (← data.pick keys).filter isPresent

/-- The items of a field; none if it is missing. -/
def itemsOf : Option Value → Except Error (List Value)
  | none => .ok []
  | some v =>
    match v.items? with
    | some items => .ok items
    | none => .error (.misuse .notIterable)

/-- A field of an object, null or not. -/
def get (data : Value) (key : String) : Except Error (Option Value) :=
  match data with
  | .object fields => .ok (field? key fields)
  | _ => .error (.misuse .notObject)

/-- A value as a whole number: a text is read, a floating point number truncated. -/
def toInteger : Value → Except Error Int
  | .int n => .ok n
  | .bool b => .ok (if b then 1 else 0)
  | .text s =>
    match Integer.read? s with
    | .ok n => .ok n
    | .error e => .error (e.toError s)
  | .float x =>
    match x with
    | .nan => .error (.badValue .nanAsInteger)
    | .infinity _ => .error .infinite
    | x => .ok (x.truncate?.getD 0)
  | _ => .error (.misuse .notNumber)

end Value

def Term.ofValue (τ : Type) [Term τ] (v : Value) (path : String) : Except Error τ :=
  match Term.ofText? v.display with
  | some t => .ok t
  | none => .error (.configuration (.unknownTerm (kind τ) v.display (words τ)) path)

/-- The term that a value names, if one was entered. -/
def Term.ofPresent (τ : Type) [Term τ] (v : Option Value) (path : String) :
    Except Error (Option τ) :=
  match v with
  | some v => if v.isPresent then some <$> Term.ofValue τ v path else .ok none
  | none => .ok none

open Value

/-- A table: an object, or its name with the schema in front of the last point. -/
def Table.load (data : Value) : Except Error (Table Value) :=
  match data with
  | .text s =>
    let (schema, name) := Text.cutLast '.' s.toList
    .ok ⟨.text (String.ofList name), .text (String.ofList schema), none⟩
  | _ => do
    let name ← data.pickText ["name", "tableName", "table_name"]
    let schema ← data.pickText ["schema"]
    let aliasName ← data.pickPresent ["alias"]
    return ⟨name, schema, aliasName⟩

def Column.load (data : Value) (path : String) : Except Error (Column Value) := do
  let function ← data.pick ["aggregateFunction", "aggregate_function", "function"]
  let table ← data.pickText ["tableName", "table_name"]
  let name ← data.pickText ["columnName", "column_name"]
  let schema ← data.pickText ["schema"]
  let aliasName ← data.pickPresent ["alias"]
  let function ← Term.ofPresent AggregateFunction function (path ++ ".aggregateFunction")
  let params ← itemsOf (← data.pick ["functionParams", "function_params"])
  return ⟨table, name, schema, aliasName, function, params⟩

/-- The identifier of an object, or a fresh one. -/
def loadId (data : Value) (kind : IdKind) : Build Value := do
  match ← Build.ofExcept (data.pickPresent ["id"]) with
  | some id => return id
  | none => return .text (← Build.freshId kind)

def JoinCondition.load (data : Value) : Build (JoinCondition Value) := do
  let left ← Build.ofExcept (data.pickText ["leftColumn", "left_column"])
  let right ← Build.ofExcept (data.pickText ["rightColumn", "right_column"])
  return ⟨left, right, ← loadId data .joinCondition⟩

def Join.load (data : Value) (path : String) : Build (Join Value) := do
  let type ← Build.ofExcept (data.pick ["joinType", "join_type", "type"])
  let conditions ←
    Build.ofExcept (data.pick ["additionalConditions", "additional_conditions"])
  let leftTable ← Build.ofExcept (data.pickText ["leftTable", "left_table"])
  let leftColumn ← Build.ofExcept (data.pickText ["leftColumn", "left_column"])
  let rightTable ← Build.ofExcept (data.pickText ["rightTable", "right_table"])
  let rightColumn ← Build.ofExcept (data.pickText ["rightColumn", "right_column"])
  let type ← Build.ofExcept
    (Term.ofValue JoinType (type.getD (.text JoinType.inner.word)) (path ++ ".joinType"))
  let conditions ← (← Build.ofExcept (itemsOf conditions)).mapM JoinCondition.load
  return ⟨leftTable, leftColumn, rightTable, rightColumn, type, conditions,
    ← loadId data .join⟩

/-- A condition. Its value is kept as text. -/
def Condition.load (data : Value) (path : String) : Build (Condition Value) := do
  let connector ← Build.ofExcept (data.pick ["logicalOperator", "logical_operator"])
  let value ← Build.ofExcept (data.pickText ["value"])
  let column ← Build.ofExcept (data.pickText ["column"])
  let operator ← Build.ofExcept (data.pick ["operator"])
  let operator ← Build.ofExcept
    (Term.ofValue ConditionOperator (operator.getD (.text "=")) (path ++ ".operator"))
  let connector ← Build.ofExcept
    (Term.ofPresent LogicalOperator connector (path ++ ".logicalOperator"))
  return ⟨column, .term operator, .text value.display, connector.map .term,
    ← loadId data .condition⟩

def Ordering.load (data : Value) (path : String) : Except Error (Ordering Value) := do
  let column ← data.pickText ["column"]
  let direction ← data.pick ["direction"]
  let direction ← Term.ofValue OrderDirection (direction.getD (.text "ASC"))
    (path ++ ".direction")
  return ⟨column, .term direction⟩

def itemPath (name : String) (index : Nat) : String :=
  name ++ "[" ++ toString index ++ "]"

/-- The row limit. An empty text is none. -/
def loadLimit : Option Value → Except Error (Option Int)
  | none => .ok none
  | some (.text s) => if s == "" then .ok none else some <$> (Value.text s).toInteger
  | some v => some <$> v.toInteger

/-- A configuration. The first field that cannot be read decides on the error. -/
def Configuration.load (data : Value) : Build (Configuration Value) := do
  let limit ← Build.ofExcept (data.pick ["limit"])
  let tables ← Build.ofExcept (data.pick ["selectedTables", "selected_tables"])
  let tables ← (← Build.ofExcept (itemsOf tables)).mapM fun x => Build.ofExcept (Table.load x)
  let columns ← Build.ofExcept (data.pick ["selectedColumns", "selected_columns"])
  let columns ← (← Build.ofExcept (itemsOf columns)).zipIdx.mapM fun (x, i) =>
    Build.ofExcept (Column.load x (itemPath "selectedColumns" i))
  let joins ← Build.ofExcept (data.get "joins")
  let joins ← (← Build.ofExcept (itemsOf (joins.filter isPresent))).zipIdx.mapM fun (x, i) =>
    Join.load x (itemPath "joins" i)
  let conditions ← Build.ofExcept (data.get "conditions")
  let conditions ←
    (← Build.ofExcept (itemsOf (conditions.filter isPresent))).zipIdx.mapM fun (x, i) =>
      Condition.load x (itemPath "conditions" i)
  let groupBy ← Build.ofExcept (data.pick ["groupBy", "group_by"])
  let groupBy ← Build.ofExcept (itemsOf groupBy)
  let orderBy ← Build.ofExcept (data.pick ["orderBy", "order_by"])
  let orderBy ← (← Build.ofExcept (itemsOf orderBy)).zipIdx.mapM fun (x, i) =>
    Build.ofExcept (Ordering.load x (itemPath "orderBy" i))
  let limit ← Build.ofExcept (loadLimit limit)
  let distinct ← Build.ofExcept (data.get "distinct")
  return ⟨tables, columns, joins, conditions, groupBy, orderBy, limit,
    .known ((distinct.map isPresent).getD false)⟩

def Configuration.ofJson (s : String) : Build (Configuration Value) :=
  match Json.read s with
  | .ok data => Configuration.load data
  | .error e => throw e.toError

def Subquery.load (data : Value) : Build (Subquery Value) := do
  let name ← Build.ofExcept (data.pickText ["name"])
  let aliasName ← Build.ofExcept (data.pickText ["alias"])
  let config ← Build.ofExcept (data.pick ["config"])
  let config ← Configuration.load (config.getD (.object []))
  return ⟨name, aliasName, config, ← loadId data .subquery⟩

end SelectQuery
