import SelectQuery.Editing.Columns

/-!
# Editing the shape of the result

Grouping and ordering hold a path once. The row limit is positive.
-/

namespace SelectQuery

variable {ν : Type} [Entry ν]

open Entry

namespace Configuration

/-- Adds a path to the grouping, unless it is there. -/
def addGroupBy (c : Configuration ν) (path : ν) : Configuration ν :=
  if c.groupBy.any (same path) then c else { c with groupBy := c.groupBy ++ [path] }

def removeGroupBy (c : Configuration ν) (path : ν) : Configuration ν :=
  { c with groupBy := c.groupBy.filter (!same · path) }

/-- Orders by a column. One that is there already changes its direction. -/
def withOrdering (c : Configuration ν) (o : Ordering ν) : Configuration ν :=
  if c.orderBy.any (same ·.column o.column) then
    { c with orderBy := c.orderBy.map fun x => if same x.column o.column then o else x }
  else { c with orderBy := c.orderBy ++ [o] }

/-- Orders by a column in a direction that is given by its word. -/
def addOrderBy (c : Configuration ν) (column direction : ν) :
    Except Error (Configuration ν) := do
  let direction ← Term.ofEntry OrderDirection direction "orderBy.direction"
  return c.withOrdering ⟨column, .term direction⟩

def removeOrderBy (c : Configuration ν) (column : ν) : Configuration ν :=
  { c with orderBy := c.orderBy.filter (!same ·.column column) }

/-- Sets the row limit, or clears it with null. -/
def setLimit (c : Configuration ν) (limit : Value) : Except Error (Configuration ν) :=
  match limit with
  | .null => .ok { c with limit := none }
  | .int n =>
    if 0 < n then .ok { c with limit := some n }
    else .error (.configuration (.limitNotPositive limit.shown) "limit")
  | _ => .error (.configuration (.limitNotPositive limit.shown) "limit")

/-- Keeps or drops duplicates. -/
def setDistinct (c : Configuration ν) (distinct : Value) : Configuration ν :=
  { c with distinct := .ofValue distinct }

end Configuration
end SelectQuery
