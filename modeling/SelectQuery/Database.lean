import SelectQuery.Result

/-!
# The database

The database itself is outside. What is known of it is how it answers: with a result, with
a failure that has a reason, or not at all (`Outage`). `Call` is what it is asked.
-/

namespace SelectQuery

/-- The database does not answer. -/
inductive Outage
  | failed (reason : String)
  | crashed
  deriving DecidableEq, Repr

/-- What a caller is told if the database does not answer. -/
def Outage.toError (action : DatabaseAction) (sql : Option String) : Outage → Error
  | .failed reason => .execution action reason sql
  | .crashed => .crash

abbrev Reply := Except Outage Result

/-- A query that reaches the database, with its parameters. -/
structure Call where
  sql : String
  params : List (String × Value) := []

/-- The calls that were made for a request, and its outcome. -/
structure Exchange (α : Type) where
  calls : List Call
  outcome : Except Error α

namespace Exchange

variable {α β : Type}

/-- An outcome without calls. -/
def silent (outcome : Except Error α) : Exchange α := ⟨[], outcome⟩

/-- Goes on with what was answered. -/
def andThen (e : Exchange α) (f : α → Except Error β) : Exchange β :=
  ⟨e.calls, e.outcome.bind f⟩

@[simp] theorem calls_silent (outcome : Except Error α) : (silent outcome).calls = [] := rfl
@[simp] theorem calls_andThen (e : Exchange α) (f : α → Except Error β) :
    (e.andThen f).calls = e.calls := rfl

end Exchange
end SelectQuery
