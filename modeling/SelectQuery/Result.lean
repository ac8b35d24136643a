import SelectQuery.Csv
import SelectQuery.Error

/-!
# Query results

A result has the names of its columns and its rows, as the database sent them. It can be
cut into pages, which are numbered from 1, and written as comma-separated values.
-/

namespace SelectQuery

/-- What a query yields. -/
structure Result where
  columns : List Value := []
  rows : List Value := []

namespace Result

def rowCount (r : Result) : Nat := r.rows.length

/-- The rows of the page with a number, counted from 1. -/
def slice (r : Result) (page size : Nat) : Result :=
  ⟨r.columns, (r.rows.drop ((page - 1) * size)).take size⟩

/-- The first rows: all for zero, and all but the last ones for a negative number. -/
def limited (r : Result) (count : Int) : Result :=
  if count == 0 then r
  else if count < 0 then ⟨r.columns, r.rows.take (r.rows.length - count.natAbs)⟩
  else ⟨r.columns, r.rows.take count.toNat⟩

def isTooSmall (v : Value) : Except Error Bool :=
  match v.less? (.int 1) with
  | some less => .ok less
  | none => .error (.misuse .notOrdered)

def count (v : Value) : Except Error Nat :=
  match v with
  | .int n => .ok n.toNat
  | .bool b => .ok b.toNat
  | _ => .error (.misuse .notNumber)

/-- A page. The number of the page is looked at before the size. -/
def page (r : Result) (number size : Value) : Except Error Result := do
  if ← isTooSmall number then throw (.badValue .pageNotPositive)
  if ← isTooSmall size then throw (.badValue .pageNotPositive)
  return r.slice (← count number) (← count size)

/-- A cell as text. A missing value is an empty cell. -/
def cell : Value → List Char
  | .null => []
  | v => v.display.toList

def cells (row : Value) : Except Error (List (List Char)) :=
  match row.items? with
  | some items => .ok (items.map cell)
  | none => .error (.misuse .notIterable)

def csv (r : Result) : Except Error String := do
  return String.ofList (Csv.document (r.columns.map cell :: (← r.rows.mapM cells)))

def listed (row : Value) : Except Error Value :=
  match row.items? with
  | some items => .ok (.list items)
  | none => .error (.misuse .notIterable)

def toValue (r : Result) : Value :=
  .object [("columns", .list r.columns), ("rows", .list r.rows)]

theorem page_int (r : Result) {n k : Int} (hn : 1 ≤ n) (hk : 1 ≤ k) :
    r.page (.int n) (.int k) = .ok (r.slice n.toNat k.toNat) := by
  have hn' : ¬ n < 1 := by omega
  have hk' : ¬ k < 1 := by omega
  simp [page, isTooSmall, count, Value.less?, Value.number?, Value.Number.less, hn', hk']
  rfl

end Result
end SelectQuery
