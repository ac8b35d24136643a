import SelectQuery.Configuration.Reference
import SelectQuery.Value.Writer

/-!
# Configurations as values

The value of a configuration is what is stored and exchanged. A table always has an alias
field, which is empty for a table without one. The other optional fields are left out
where there is nothing to say. A configuration whose columns cannot be named by an
identifier has no value (`Configuration.wireFault?`).
-/

namespace SelectQuery

variable {ν : Type} [Entry ν]

open Entry

/-- A field that is there only if there is something to say. -/
def optionalField (key : String) : Option Value → List (String × Value)
  | some v => [(key, v)]
  | none => []

def Table.toValue (t : Table ν) : Value :=
  .object [("schema", Entry.toValue t.schema), ("name", Entry.toValue t.name),
    ("alias", ((present? t.aliasName).map Entry.toValue).getD (.text ""))]

namespace Column

/-- Schema, table and name of a column, as far as they were entered. -/
def parts (c : Column ν) : List ν := [c.schema, c.table, c.name].filter isPresent

def id (c : Column ν) : String := ".".intercalate (c.parts.map text)

def hasId (c : Column ν) : Bool := c.parts.all isText

/-- Two columns have the same schema, table and name. -/
def sameKey (c d : Column ν) : Bool :=
  same c.schema d.schema && same c.table d.table && same c.name d.name

def toValue (c : Column ν) : Value :=
  .object ([("id", .text c.id), ("schema", Entry.toValue c.schema),
      ("tableName", Entry.toValue c.table), ("columnName", Entry.toValue c.name)] ++
    optionalField "alias" ((present? c.aliasName).map Entry.toValue) ++
    optionalField "aggregateFunction" (c.function.map fun f => .text f.word) ++
    optionalField "functionParams"
      (if c.params.isEmpty then none else some (.list (c.params.map Entry.toValue))))

@[simp] theorem hasId_string (c : Column String) : c.hasId = true := by
  simp [hasId]

end Column

def JoinCondition.toValue (c : JoinCondition ν) : Value :=
  .object [("id", Entry.toValue c.id), ("leftColumn", Entry.toValue c.left),
    ("rightColumn", Entry.toValue c.right)]

def Join.toValue (j : Join ν) : Value :=
  .object [("id", Entry.toValue j.id), ("joinType", .text j.type.word),
    ("leftTable", Entry.toValue j.leftTable), ("leftColumn", Entry.toValue j.leftColumn),
    ("rightTable", Entry.toValue j.rightTable), ("rightColumn", Entry.toValue j.rightColumn),
    ("additionalConditions", .list (j.conditions.map JoinCondition.toValue))]

def Condition.toValue (c : Condition ν) : Value :=
  .object ([("id", Entry.toValue c.id), ("column", Entry.toValue c.column),
      ("operator", .text c.operator.text), ("value", Entry.toValue c.value)] ++
    optionalField "logicalOperator" (c.connector.map fun k => .text k.text))

def Ordering.toValue (o : Ordering ν) : Value :=
  .object [("column", Entry.toValue o.column), ("direction", .text o.direction.text)]

namespace Configuration

def toValue (c : Configuration ν) : Value :=
  .object ([("selectedTables", .list (c.tables.map Table.toValue)),
      ("selectedColumns", .list (c.columns.map Column.toValue)),
      ("joins", .list (c.joins.map Join.toValue)),
      ("conditions", .list (c.conditions.map Condition.toValue)),
      ("groupBy", .list (c.groupBy.map Entry.toValue)),
      ("orderBy", .list (c.orderBy.map Ordering.toValue)),
      ("distinct", c.distinct.toValue)] ++
    optionalField "limit" (c.limit.map .int))

/-- Why a configuration has no value. -/
def wireFault? (c : Configuration ν) : Option Misuse :=
  if c.columns.all Column.hasId then none else some .notJoinable

/-- The value of a configuration, if it has one. -/
def wire (c : Configuration ν) : Except Error Value :=
  match c.wireFault? with
  | some cause => .error (.misuse cause)
  | none => .ok c.toValue

def toJson (c : Configuration ν) : String := Json.write c.toValue

/-- The document of a configuration, if it can be written. -/
def document (c : Configuration ν) : Except Error String := do
  let v ← c.wire
  if Json.isWritable v then return Json.write v else throw (.badValue .integerTooLong)

@[simp] theorem wireFault?_string (c : Configuration String) : c.wireFault? = none := by
  simp [wireFault?]

end Configuration

namespace Subquery

def toValue (s : Subquery ν) : Value :=
  .object [("id", Entry.toValue s.id), ("name", Entry.toValue s.name),
    ("alias", Entry.toValue s.aliasName), ("config", s.config.toValue)]

/-- The value of a subquery, if it has one. -/
def wire (s : Subquery ν) : Except Error Value :=
  match s.config.wireFault? with
  | some cause => .error (.misuse cause)
  | none => .ok s.toValue

end Subquery
end SelectQuery
