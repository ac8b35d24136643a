import SelectQuery.Error

/-!
# Identifiers

Joins, conditions and subqueries carry identifiers, so that a later change can name them.
Fresh ones are numbered from a supply. `Build` is the setting of everything that may take
identifiers or be refused; what was taken stays taken, also after a refusal.
-/

namespace SelectQuery

/-- The things that carry an identifier. -/
inductive IdKind
  | join
  | joinCondition
  | condition
  | subquery
  deriving DecidableEq, Repr

def IdKind.label : IdKind → String
  | .join => "join"
  | .joinCondition => "join_condition"
  | .condition => "condition"
  | .subquery => "subquery"

/-- The identifiers that are still free: all that are numbered past the last one taken. -/
structure IdSupply where
  taken : Nat := 0
  deriving DecidableEq, Repr

def idWidth : Nat := 12

def IdKind.id (kind : IdKind) (n : Nat) : String :=
  kind.label ++ "_" ++ String.ofList (Text.hexDigits idWidth n)

abbrev Build := ExceptT Error (StateM IdSupply)

namespace Build

def freshId (kind : IdKind) : Build String :=
  modifyGet fun supply => (kind.id (supply.taken + 1), ⟨supply.taken + 1⟩)

/-- Carries on unless there is an error. -/
def ofExcept {α : Type} (r : Except Error α) : Build α := liftExcept r
where
  liftExcept : Except Error α → Build α
    | .ok a => pure a
    | .error e => throw e

/-- The outcome of building, and the supply that is left. -/
def outcome {α : Type} (b : Build α) (supply : IdSupply) : Except Error α × IdSupply :=
  b.run.run supply

end Build
end SelectQuery
