import SelectQuery.Editing.Conditions
import SelectQuery.Editing.Joins
import SelectQuery.Editing.Results

/-!
# Edits

An edit is one step on the way from one configuration to the next. It either gives a new
configuration or is refused, and a refused edit leaves the configuration as it was. What
it took from the supply of identifiers stays taken.
-/

namespace SelectQuery

/-- One change of a configuration. -/
inductive Edit (ν : Type) [Entry ν]
  | addTable (t : Table ν)
  | updateTable (schema name : ν) (aliasName : Option ν)
  | removeTable (schema name : ν)
  | addColumn (c : Column ν)
  | updateColumn (id : ν) (changes : List (ColumnChange ν))
  | removeColumn (id : ν)
  | moveColumn (id : ν) (index : Value)
  | addJoin (j : Option (Join ν))
  | updateJoin (id : ν) (changes : List (JoinChange ν))
  | removeJoin (id : ν)
  | addJoinCondition (id left right : ν)
  | updateJoinCondition (id condition : ν) (left right : Option ν)
  | removeJoinCondition (id condition : ν)
  | addCondition (new : NewCondition ν)
  | updateCondition (id : ν) (changes : List (ConditionChange ν))
  | removeCondition (id : ν)
  | addSubqueryCondition (s : Subquery ν) (a : Attachment ν)
  | addGroupBy (path : ν)
  | removeGroupBy (path : ν)
  | addOrderBy (column direction : ν)
  | removeOrderBy (column : ν)
  | setLimit (limit : Value)
  | setDistinct (distinct : Value)

variable {ν : Type} [Entry ν]

def Configuration.edit (c : Configuration ν) : Edit ν → Build (Configuration ν)
  | .addTable t => return c.addTable t
  | .updateTable schema name aliasName => Build.ofExcept (c.updateTable schema name aliasName)
  | .removeTable schema name => Build.ofExcept (c.removeTable schema name)
  | .addColumn col => Build.ofExcept (c.addColumn col)
  | .updateColumn id changes => Build.ofExcept (c.updateColumn id changes)
  | .removeColumn id => Build.ofExcept (c.removeColumn id)
  | .moveColumn id index => Build.ofExcept (c.moveColumn id index)
  | .addJoin j => c.addJoin j
  | .updateJoin id changes => Build.ofExcept (c.updateJoin id changes)
  | .removeJoin id => return c.removeJoin id
  | .addJoinCondition id left right => c.addJoinCondition id left right
  | .updateJoinCondition id condition left right =>
    Build.ofExcept (c.updateJoinCondition id condition left right)
  | .removeJoinCondition id condition => Build.ofExcept (c.removeJoinCondition id condition)
  | .addCondition new => c.addCondition new
  | .updateCondition id changes => Build.ofExcept (c.updateCondition id changes)
  | .removeCondition id => return c.removeCondition id
  | .addSubqueryCondition s a => c.addSubqueryCondition s a
  | .addGroupBy path => return c.addGroupBy path
  | .removeGroupBy path => return c.removeGroupBy path
  | .addOrderBy column direction => Build.ofExcept (c.addOrderBy column direction)
  | .removeOrderBy column => return c.removeOrderBy column
  | .setLimit limit => Build.ofExcept (c.setLimit limit)
  | .setDistinct distinct => return c.setDistinct distinct

end SelectQuery
