import SelectQuery.Number.Binary64
import SelectQuery.Text.Surrogate

/-!
# Values

A value is what a JSON document holds. Configurations, database replies and settings
arrive as values, and nothing in them has been checked: where a text is expected there
may be a number or a list. This module says how a value counts in a condition
(`isPresent`), when two values are equal (`same`), and how they are ordered (`less?`).
-/

namespace SelectQuery

/-- A JSON value. The fields of an object keep their order. -/
inductive Value
  | null
  | bool (b : Bool)
  | int (n : Int)
  | float (x : Binary64)
  | text (s : String)
  | list (items : List Value)
  | object (fields : List (String × Value))
  deriving Inhabited

namespace Value

/-- The numbers among the values; a truth value counts as 0 or 1. -/
inductive Number
  | integer (n : Int)
  | binary (x : Binary64)

/-- Equality of numbers, exact across the two kinds. -/
def Number.same : Number → Number → Bool
  | .integer m, .integer n => m == n
  | .integer m, .binary y => y.isInteger m
  | .binary x, .integer n => x.isInteger n
  | .binary x, .binary y => x.same y

/-- Order of numbers, exact across the two kinds. -/
def Number.less : Number → Number → Bool
  | .integer m, .integer n => m < n
  | .integer m, .binary y =>
    match y with
    | .nan => false
    | .infinity negative => !negative
    | y => (y.ratio?.map fun (n, d) => decide (m * d < n)).getD false
  | .binary x, .integer n =>
    match x with
    | .nan => false
    | .infinity negative => negative
    | x => (x.ratio?.map fun (m, d) => decide (m < n * d)).getD false
  | .binary x, .binary y => x.less y

def number? : Value → Option Number
  | .bool b => some (.integer (if b then 1 else 0))
  | .int n => some (.integer n)
  | .float x => some (.binary x)
  | _ => none

/-- Null, false, zero and everything empty count as missing. -/
def isPresent : Value → Bool
  | .null => false
  | .bool b => b
  | .int n => n != 0
  | .float x => !x.isZero
  | .text s => s != ""
  | .list items => !items.isEmpty
  | .object fields => !fields.isEmpty

def isText : Value → Bool
  | .text _ => true
  | _ => false

/-- A value can be looked up in a set: it is neither a list nor an object. -/
def isAtomic : Value → Bool
  | .list _ => false
  | .object _ => false
  | _ => true

def field? (key : String) (fields : List (String × Value)) : Option Value := fields.lookup key

mutual

/-- Equality of values. Numbers are equal across their kinds, and the order of an
object's fields does not matter. -/
def same : Value → Value → Bool
  | .null, .null => true
  | .text s, .text t => s == t
  | .list xs, .list ys => sameItems xs ys
  | .object fs, .object gs => fs.length == gs.length && sameFields fs gs
  | x, y =>
    match x.number?, y.number? with
    | some m, some n => m.same n
    | _, _ => false

/-- Equality of two lists, item by item. -/
def sameItems : List Value → List Value → Bool
  | [], [] => true
  | x :: xs, y :: ys => same x y && sameItems xs ys
  | _, _ => false

/-- Every field of the first object has an equal field in the second. -/
def sameFields : List (String × Value) → List (String × Value) → Bool
  | [], _ => true
  | (key, x) :: rest, gs =>
    (match field? key gs with
      | some y => same x y
      | none => false) && sameFields rest gs

end

/-- Order of values: texts by code point, numbers by size; nothing else is comparable. -/
def less? : Value → Value → Option Bool
  | .text s, .text t => some (Text.less s t)
  | x, y =>
    match x.number?, y.number? with
    | some m, some n => some (m.less n)
    | _, _ => none

/-- What a value yields item by item: a list its items, a text its code points, an object
its keys. -/
def items? : Value → Option (List Value)
  | .list items => some items
  | .text s => some ((Text.points s.toList).map fun p => .text (String.ofList p.kept))
  | .object fields => some (fields.map fun field => .text field.1)
  | _ => none

end Value
end SelectQuery
