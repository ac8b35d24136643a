import SelectQuery.Editing.Columns
import SelectQuery.Statement.Fault

/-!
# Editing conditions

A condition takes its place behind the others and is joined to them by `AND` unless
another connector is given. A subquery is attached as the value of a membership test. It is
written out when it is attached, so that later changes of the subquery do not show.
-/

namespace SelectQuery

variable {ν : Type} [Entry ν]

open Entry

/-- What a new condition is made of. -/
structure NewCondition (ν : Type) [Entry ν] where
  column : ν := blank
  operator : ν := ofText ConditionOperator.eq.word
  value : ν := blank
  connector : Option ν := none

/-- A change of a condition. -/
inductive ConditionChange (ν : Type)
  | column (v : ν)
  | operator (v : ν)
  | value (v : ν)
  | connector (v : Option ν)
  /-- A field that cannot be changed. -/
  | other (name : String)

/-- The connector that an entry names, if there is one. -/
def connectorOf (v : Option ν) (path : String) : Except Error (Option LogicalOperator) :=
  match present? v with
  | some v => some <$> Term.ofEntry LogicalOperator v (path ++ ".logicalOperator")
  | none => .ok none

namespace ConditionChange

def other? : ConditionChange ν → Option String
  | .other name => some name
  | _ => none

def checkOperator (path : String) : ConditionChange ν → Except Error Unit
  | .operator v => do
    let _ ← Term.ofEntry ConditionOperator v (path ++ ".operator")
  | _ => .ok ()

def checkConnector (path : String) : ConditionChange ν → Except Error Unit
  | .connector v => do
    let _ ← connectorOf v path
  | _ => .ok ()

def apply (x : Condition ν) : ConditionChange ν → Condition ν
  | .column v => { x with column := v }
  | .operator v => { x with operator := ((Term.ofText? (text v)).map .term).getD x.operator }
  | .value v => { x with value := v }
  | .connector v =>
    { x with connector := (present? v).bind fun k => (Term.ofText? (text k)).map .term }
  | .other _ => x

end ConditionChange

namespace Configuration

/-- The connector of a condition that is added with none. -/
def defaultConnector (c : Configuration ν) : Option ν :=
  if c.conditions.isEmpty then none else some (ofText LogicalOperator.and.word)

def addCondition (c : Configuration ν) (new : NewCondition ν) : Build (Configuration ν) := do
  let path := itemPath "conditions" c.conditions.length
  let operator ← Build.ofExcept
    (Term.ofEntry ConditionOperator new.operator (path ++ ".operator"))
  let connector ← Build.ofExcept (connectorOf (new.connector <|> c.defaultConnector) path)
  let id ← Build.freshId .condition
  return { c with
    conditions := c.conditions ++
      [⟨new.column, .term operator, new.value, connector.map .term, ofText id⟩] }

/-- Changes the first condition with an identifier. -/
def updateCondition (c : Configuration ν) (id : ν) (changes : List (ConditionChange ν)) :
    Except Error (Configuration ν) :=
  match c.conditions.zipIdx.find? fun (x, _) => same x.id id with
  | none => .error (.notFound (.condition (Entry.toValue id)))
  | some (x, i) => do
    let path := itemPath "conditions" i
    refuseFixed "Condition" (changes.filterMap ConditionChange.other?) path
    changes.forM (ConditionChange.checkOperator path)
    changes.forM (ConditionChange.checkConnector path)
    return { c with conditions := c.conditions.set i (changes.foldl ConditionChange.apply x) }

def removeCondition (c : Configuration ν) (id : ν) : Configuration ν :=
  { c with conditions := c.conditions.filter (!same ·.id id) }

end Configuration

/-- The subquery with a number, still empty. -/
def Subquery.new (number : ν) : Build (Subquery ν) := do
  let id ← Build.freshId .subquery
  let shown := Entry.text number
  return ⟨ofText ("Subquery " ++ shown), ofText ("sub" ++ shown), {}, ofText id⟩

/-- Refuses an entry that is no identifier. -/
def checkIdentifier (v : ν) (cause : String → Refusal) (path : String) : Except Error Unit :=
  if !isText v then .error (.misuse .notText)
  else if ColumnPath.isPlainColumn (text v) then .ok ()
  else .error (.configuration (cause (Entry.toValue v).shown) path)

namespace Subquery

/-- Refuses to attach a subquery that reads no table or is not named by identifiers. -/
def checkAttachable (s : Subquery ν) (select : ν) : Except Error Unit := do
  if s.config.tables.isEmpty then
    throw (.configuration (.emptySubquery (Entry.text s.name)) "subquery.config.selectedTables")
  checkIdentifier s.aliasName .aliasNotIdentifier "subquery.alias"
  checkIdentifier select .selectNotIdentifier "subquery.selectColumn"

end Subquery

/-- Where a subquery is attached: the column that is tested, the column that the subquery
selects, and the operator. -/
structure Attachment (ν : Type) [Entry ν] where
  column : ν := ofText "id"
  select : ν := ofText "id"
  operator : ν := ofText ConditionOperator.isIn.word

namespace Configuration

/-- Attaches a subquery as a condition. -/
def addSubqueryCondition (c : Configuration ν) (s : Subquery ν) (a : Attachment ν) :
    Build (Configuration ν) := do
  let path := itemPath "conditions" c.conditions.length ++ ".operator"
  let operator ← Build.ofExcept (Term.ofEntry ConditionOperator a.operator path)
  if !operator.isMembership then
    throw (.configuration (.notMembership operator.word) path)
  Build.ofExcept (s.checkAttachable a.select)
  let value ← Build.ofExcept (s.render a.select)
  c.addCondition
    { column := a.column, operator := ofText operator.word, value := ofText value }

end Configuration
end SelectQuery
