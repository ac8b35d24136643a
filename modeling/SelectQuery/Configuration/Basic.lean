import SelectQuery.Entry
import SelectQuery.Term

/-!
# Configurations

A configuration describes a query under construction: the tables it reads, the columns it
selects, joins, conditions, grouping, ordering, a row limit and whether duplicates are
dropped. The first table is the anchor, the one behind `FROM`. A configuration may be
incomplete at any time.

All types here are parameterised by the type `ν` of entries (see `Entry`).
-/

namespace SelectQuery

/-- A table that the query reads. -/
structure Table (ν : Type) where
  name : ν
  schema : ν
  aliasName : Option ν := none

/-- A column of the result. -/
structure Column (ν : Type) where
  table : ν
  name : ν
  schema : ν
  aliasName : Option ν := none
  function : Option AggregateFunction := none
  params : List ν := []

/-- A further pair of columns that must be equal in a join. -/
structure JoinCondition (ν : Type) where
  left : ν
  right : ν
  id : ν

/-- A join of two tables on equal columns. -/
structure Join (ν : Type) where
  leftTable : ν
  leftColumn : ν
  rightTable : ν
  rightColumn : ν
  type : JoinType := .inner
  conditions : List (JoinCondition ν) := []
  id : ν

/-- A condition on rows. The connector joins it to the condition before it. -/
structure Condition (ν : Type) where
  column : ν
  operator : Entered ConditionOperator := .term .eq
  value : ν
  connector : Option (Entered LogicalOperator) := none
  id : ν

/-- A column that rows are ordered by. -/
structure Ordering (ν : Type) where
  column : ν
  direction : Entered OrderDirection := .term .asc

/-- A switch. Anything may be entered for one, and it is on if that counts as present. -/
inductive Switch
  | known (on : Bool)
  | entered (v : Value)

namespace Switch

def isOn : Switch → Bool
  | .known on => on
  | .entered v => v.isPresent

def toValue : Switch → Value
  | .known on => .bool on
  | .entered v => v

def ofValue : Value → Switch
  | .bool on => .known on
  | v => .entered v

end Switch

/-- A query under construction. -/
structure Configuration (ν : Type) where
  tables : List (Table ν) := []
  columns : List (Column ν) := []
  joins : List (Join ν) := []
  conditions : List (Condition ν) := []
  groupBy : List ν := []
  orderBy : List (Ordering ν) := []
  limit : Option Int := none
  distinct : Switch := .known false

/-- A nested query that is built beside the main one. -/
structure Subquery (ν : Type) where
  name : ν
  aliasName : ν
  config : Configuration ν := {}
  id : ν

namespace Configuration

variable {ν : Type}

def empty : Configuration ν := {}

/-- The table behind `FROM`. -/
def anchor? (c : Configuration ν) : Option (Table ν) := c.tables.head?

end Configuration
end SelectQuery
