import SelectQuery.Configuration.Basic

/-!
# Equality of configurations

Two configurations are equal if they agree field by field, with equal entries (`Entry.same`)
in the same order.
-/

namespace SelectQuery

variable {ν : Type} [Entry ν]

def pairwiseAgree {α : Type} (agree : α → α → Bool) : List α → List α → Bool
  | [], [] => true
  | a :: as, b :: bs => agree a b && pairwiseAgree agree as bs
  | _, _ => false

def optionAgree {α : Type} (agree : α → α → Bool) : Option α → Option α → Bool
  | none, none => true
  | some a, some b => agree a b
  | _, _ => false

def Entered.agrees {τ : Type} [Term τ] (a b : Entered τ) : Bool := a.text == b.text

def Table.agrees (t u : Table ν) : Bool :=
  Entry.same t.name u.name && Entry.same t.schema u.schema &&
    optionAgree Entry.same t.aliasName u.aliasName

def Column.agrees (c d : Column ν) : Bool :=
  Entry.same c.table d.table && Entry.same c.name d.name && Entry.same c.schema d.schema &&
    optionAgree Entry.same c.aliasName d.aliasName && c.function == d.function &&
    pairwiseAgree Entry.same c.params d.params

def JoinCondition.agrees (c d : JoinCondition ν) : Bool :=
  Entry.same c.left d.left && Entry.same c.right d.right && Entry.same c.id d.id

def Join.agrees (i j : Join ν) : Bool :=
  Entry.same i.leftTable j.leftTable && Entry.same i.leftColumn j.leftColumn &&
    Entry.same i.rightTable j.rightTable && Entry.same i.rightColumn j.rightColumn &&
    i.type == j.type && pairwiseAgree JoinCondition.agrees i.conditions j.conditions &&
    Entry.same i.id j.id

def Condition.agrees (c d : Condition ν) : Bool :=
  Entry.same c.column d.column && c.operator.agrees d.operator && Entry.same c.value d.value &&
    optionAgree Entered.agrees c.connector d.connector && Entry.same c.id d.id

def Ordering.agrees (o p : Ordering ν) : Bool :=
  Entry.same o.column p.column && o.direction.agrees p.direction

def Configuration.agrees (c d : Configuration ν) : Bool :=
  pairwiseAgree Table.agrees c.tables d.tables && pairwiseAgree Column.agrees c.columns d.columns &&
    pairwiseAgree Join.agrees c.joins d.joins &&
    pairwiseAgree Condition.agrees c.conditions d.conditions &&
    pairwiseAgree Entry.same c.groupBy d.groupBy &&
    pairwiseAgree Ordering.agrees c.orderBy d.orderBy && c.limit == d.limit &&
    c.distinct.toValue.same d.distinct.toValue

end SelectQuery
