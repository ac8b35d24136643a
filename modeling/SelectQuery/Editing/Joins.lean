import SelectQuery.Editing.Columns

/-!
# Editing joins

A join names two tables by references, and each must be empty or answered to by a
selected table when the join is added or changed. The further conditions of a join are
edited one by one.
-/

namespace SelectQuery

variable {ν : Type} [Entry ν]

open Entry

/-- A change of a join. -/
inductive JoinChange (ν : Type)
  | type (v : ν)
  | leftTable (v : ν)
  | leftColumn (v : ν)
  | rightTable (v : ν)
  | rightColumn (v : ν)
  /-- A field that cannot be changed. -/
  | other (name : String)

namespace JoinChange

def other? : JoinChange ν → Option String
  | .other name => some name
  | _ => none

def check (path : String) : JoinChange ν → Except Error Unit
  | .type v => do
    let _ ← Term.ofEntry JoinType v (path ++ ".joinType")
  | _ => .ok ()

def apply (j : Join ν) : JoinChange ν → Join ν
  | .type v => { j with type := (Term.ofText? (text v)).getD j.type }
  | .leftTable v => { j with leftTable := v }
  | .leftColumn v => { j with leftColumn := v }
  | .rightTable v => { j with rightTable := v }
  | .rightColumn v => { j with rightColumn := v }
  | .other _ => j

end JoinChange

/-- A further condition with one or both sides changed. -/
def JoinCondition.change (x : JoinCondition ν) (left right : Option ν) : JoinCondition ν :=
  { x with left := left.getD x.left, right := right.getD x.right }

namespace Configuration

/-- Refuses a reference to a table that is not selected. -/
def checkReference (c : Configuration ν) (reference : ν) (path : String) : Except Error Unit :=
  if isPresent reference then
    match c.lookupFault? reference with
    | some cause => .error (.misuse cause)
    | none =>
      if (c.tableFor reference).isSome then .ok ()
      else .error (.configuration (.tableNotSelected (text reference)) path)
  else .ok ()

/-- Refuses a join of tables that are not selected. -/
def checkJoin (c : Configuration ν) (j : Join ν) (path : String) : Except Error Unit := do
  c.checkReference j.leftTable (path ++ ".leftTable")
  c.checkReference j.rightTable (path ++ ".rightTable")

def withJoin (c : Configuration ν) (j : Join ν) : Except Error (Configuration ν) := do
  c.checkJoin j (itemPath "joins" c.joins.length)
  return { c with joins := c.joins ++ [j] }

/-- The join that is added where none is given: between the first two tables, still
without columns. -/
def defaultJoin (t u : Table ν) (id : String) : Join ν where
  leftTable := t.qualifiedName
  leftColumn := blank
  rightTable := u.qualifiedName
  rightColumn := blank
  id := ofText id

/-- Adds a join, or the default join if there are two tables. -/
def addJoin (c : Configuration ν) (join : Option (Join ν)) : Build (Configuration ν) :=
  match join, c.tables with
  | some j, _ => Build.ofExcept (c.withJoin j)
  | none, t :: u :: _ => do
    let id ← Build.freshId .join
    Build.ofExcept (c.withJoin (defaultJoin t u id))
  | none, _ => return c

/-- The first join with an identifier. -/
def joinIndex (c : Configuration ν) (id : ν) : Except Error (Nat × Join ν) :=
  match c.joins.zipIdx.find? fun (j, _) => same j.id id with
  | some (j, i) => .ok (i, j)
  | none => .error (.notFound (.join (Entry.toValue id)))

def setJoin (c : Configuration ν) (index : Nat) (j : Join ν) : Configuration ν :=
  { c with joins := c.joins.set index j }

def updateJoin (c : Configuration ν) (id : ν) (changes : List (JoinChange ν)) :
    Except Error (Configuration ν) := do
  let (i, j) ← c.joinIndex id
  let path := itemPath "joins" i
  refuseFixed "Join" (changes.filterMap JoinChange.other?) path
  changes.forM (JoinChange.check path)
  let changed := changes.foldl JoinChange.apply j
  c.checkJoin changed path
  return c.setJoin i changed

def removeJoin (c : Configuration ν) (id : ν) : Configuration ν :=
  { c with joins := c.joins.filter (!same ·.id id) }

def addJoinCondition (c : Configuration ν) (id left right : ν) : Build (Configuration ν) := do
  let (i, j) ← Build.ofExcept (c.joinIndex id)
  let condition := ⟨left, right, ofText (← Build.freshId .joinCondition)⟩
  return c.setJoin i { j with conditions := j.conditions ++ [condition] }

def updateJoinCondition (c : Configuration ν) (id condition : ν) (left right : Option ν) :
    Except Error (Configuration ν) := do
  let (i, j) ← c.joinIndex id
  if j.conditions.any (same ·.id condition) then
    return c.setJoin i { j with
      conditions := j.conditions.map fun x =>
        if same x.id condition then x.change left right else x }
  else .error (.notFound (.joinCondition (Entry.toValue condition)))

def removeJoinCondition (c : Configuration ν) (id condition : ν) :
    Except Error (Configuration ν) := do
  let (i, j) ← c.joinIndex id
  return c.setJoin i { j with conditions := j.conditions.filter (!same ·.id condition) }

end Configuration
end SelectQuery
