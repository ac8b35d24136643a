import SelectQuery.Text.Blank
import SelectQuery.Text.Case

/-!
# Terms

The closed lists of words that a query is built from: functions, comparison operators,
connectors, joins and directions. A word is recognised in any letter case and with blanks
around it (`Term.ofText?`).
-/

namespace SelectQuery

/-- A closed list of words. -/
class Term (τ : Type) where
  /-- What the list is called in messages. -/
  kind : String
  /-- The terms in the order they are offered. -/
  members : List τ
  /-- The word of a term. -/
  word : τ → String

namespace Term

variable {τ : Type} [Term τ]

/-- The term with exactly this word. -/
def named? (s : String) : Option τ := (members : List τ).find? fun t => word t == s

/-- The term that a text names, whatever its case and the blanks around it. -/
def ofText? (s : String) : Option τ := named? (Text.upper (Text.trimmed s))

/-- The words of a list, as they are offered in messages. -/
def words (τ : Type) [Term τ] : List String := (members : List τ).map word

end Term

/-- The functions that a selected column can be passed through. -/
inductive AggregateFunction
  | count | sum | avg | min | max | dateTrunc | extract | upper | lower | length
  deriving DecidableEq, Repr

namespace AggregateFunction

def word : AggregateFunction → String
  | .count => "COUNT"
  | .sum => "SUM"
  | .avg => "AVG"
  | .min => "MIN"
  | .max => "MAX"
  | .dateTrunc => "DATE_TRUNC"
  | .extract => "EXTRACT"
  | .upper => "UPPER"
  | .lower => "LOWER"
  | .length => "LENGTH"

instance : Term AggregateFunction where
  kind := "AggregateFunction"
  members := [.count, .sum, .avg, .min, .max, .dateTrunc, .extract, .upper, .lower, .length]
  word := word

end AggregateFunction

/-- The operators of a condition. -/
inductive ConditionOperator
  | eq | ne | unequal | lt | gt | le | ge
  | like | ilike | notLike | notIlike
  | isIn | notIn | isNull | isNotNull | between | notBetween
  deriving DecidableEq, Repr

namespace ConditionOperator

def word : ConditionOperator → String
  | .eq => "="
  | .ne => "!="
  | .unequal => "<>"
  | .lt => "<"
  | .gt => ">"
  | .le => "<="
  | .ge => ">="
  | .like => "LIKE"
  | .ilike => "ILIKE"
  | .notLike => "NOT LIKE"
  | .notIlike => "NOT ILIKE"
  | .isIn => "IN"
  | .notIn => "NOT IN"
  | .isNull => "IS NULL"
  | .isNotNull => "IS NOT NULL"
  | .between => "BETWEEN"
  | .notBetween => "NOT BETWEEN"

instance : Term ConditionOperator where
  kind := "ConditionOperator"
  members :=
    [.eq, .ne, .unequal, .lt, .gt, .le, .ge, .like, .ilike, .notLike, .notIlike, .isIn, .notIn,
      .isNull, .isNotNull, .between, .notBetween]
  word := word

def isMembership : ConditionOperator → Bool
  | .isIn | .notIn => true
  | _ => false

def isPattern : ConditionOperator → Bool
  | .like | .ilike | .notLike | .notIlike => true
  | _ => false

/-- Tests for a missing value, and so takes no value itself. -/
def isNullability : ConditionOperator → Bool
  | .isNull | .isNotNull => true
  | _ => false

def isRange : ConditionOperator → Bool
  | .between | .notBetween => true
  | _ => false

end ConditionOperator

/-- The connectors between conditions. -/
inductive LogicalOperator
  | and | or
  deriving DecidableEq, Repr

namespace LogicalOperator

def word : LogicalOperator → String
  | .and => "AND"
  | .or => "OR"

instance : Term LogicalOperator where
  kind := "LogicalOperator"
  members := [.and, .or]
  word := word

end LogicalOperator

/-- The kinds of join. -/
inductive JoinType
  | inner | left | right | outer | full | cross
  deriving DecidableEq, Repr

namespace JoinType

def word : JoinType → String
  | .inner => "INNER"
  | .left => "LEFT"
  | .right => "RIGHT"
  | .outer => "OUTER"
  | .full => "FULL"
  | .cross => "CROSS"

/-- The keyword in front of `JOIN`. -/
def keyword : JoinType → String
  | .outer | .full => "FULL OUTER"
  | t => t.word

instance : Term JoinType where
  kind := "JoinType"
  members := [.inner, .left, .right, .outer, .full, .cross]
  word := word

end JoinType

/-- The directions of an ordering. -/
inductive OrderDirection
  | asc | desc
  deriving DecidableEq, Repr

namespace OrderDirection

def word : OrderDirection → String
  | .asc => "ASC"
  | .desc => "DESC"

instance : Term OrderDirection where
  kind := "OrderDirection"
  members := [.asc, .desc]
  word := word

end OrderDirection

/-- A term, or whatever was written in its place. -/
inductive Entered (τ : Type)
  | term (t : τ)
  | verbatim (s : String)
  deriving DecidableEq, Repr

namespace Entered

variable {τ : Type} [Term τ]

def text : Entered τ → String
  | .term t => Term.word t
  | .verbatim s => s

def term? : Entered τ → Option τ
  | .term t => some t
  | .verbatim _ => none

end Entered
end SelectQuery
