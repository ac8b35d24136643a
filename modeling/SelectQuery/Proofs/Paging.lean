import Mathlib.Algebra.Order.Floor.Div
import SelectQuery.Proofs.Build
import SelectQuery.Result

/-!
# Pages

The pages of a result partition its rows (`pages_partition`): one behind the other they are the
rows in order, every page is full but perhaps the last one, no page is empty, and behind the last
one nothing follows.

It is enough to know where a page begins. The page behind `k` others begins with row `k * size`,
so that one more page carries the rows on from there (`flatMap_slice`), and there is such a row
as long as `k` is less than the number of pages (`lt_pageCount_iff`).
-/

namespace SelectQuery

theorem Except.mapM_eq_ok {ε α β : Type} {f : α → Except ε β} {g : α → β} {items : List α}
    (h : ∀ x ∈ items, f x = .ok (g x)) : items.mapM f = .ok (items.map g) := by
  induction items with
  | nil => rfl
  | cons x items ih =>
      obtain ⟨hx, hitems⟩ := List.forall_mem_cons.mp h
      rw [List.mapM_cons, hx, ih hitems]
      rfl

namespace Result

variable (r : Result) {size : ℕ}

/-- The number of pages that the rows take. The last of them may be short. -/
def pageCount (size : ℕ) : ℕ := r.rows.length ⌈/⌉ size

/-! ## One page -/

theorem rows_slice_succ (k size : ℕ) :
    (r.slice (k + 1) size).rows = (r.rows.drop (k * size)).take size := rfl

theorem length_slice_succ (k size : ℕ) :
    (r.slice (k + 1) size).rows.length = min size (r.rows.length - k * size) := by
  rw [rows_slice_succ, List.length_take, List.length_drop]

variable {r}

/-- There is a page behind others if they leave a row to it. -/
theorem lt_pageCount_iff (hsize : 0 < size) {k : ℕ} :
    k < r.pageCount size ↔ k * size < r.rows.length := by
  have hcovered : r.pageCount size ≤ k ↔ r.rows.length ≤ k * size := by
    rw [pageCount, ceilDiv_le_iff_le_mul hsize, Nat.mul_comm]
  omega

/-- A page is full if another one follows. -/
theorem length_slice_of_lt (hsize : 0 < size) {k : ℕ} (hk : k + 1 < r.pageCount size) :
    (r.slice (k + 1) size).rows.length = size := by
  have hnext : (k + 1) * size < r.rows.length := (lt_pageCount_iff hsize).mp hk
  rw [Nat.succ_mul] at hnext
  rw [length_slice_succ]
  omega

/-- A page that there is has a row, and no more rows than it can have. -/
theorem length_slice_bounds (hsize : 0 < size) {k : ℕ} (hk : k < r.pageCount size) :
    1 ≤ (r.slice (k + 1) size).rows.length ∧ (r.slice (k + 1) size).rows.length ≤ size := by
  have hfirst : k * size < r.rows.length := (lt_pageCount_iff hsize).mp hk
  rw [length_slice_succ]
  omega

theorem rows_slice_eq_nil (hsize : 0 < size) {k : ℕ} (hk : r.pageCount size ≤ k) :
    (r.slice (k + 1) size).rows = [] := by
  have hend : r.rows.length ≤ k * size := by
    rw [← Nat.not_lt, ← lt_pageCount_iff hsize]
    exact Nat.not_lt.mpr hk
  rw [rows_slice_succ, List.drop_of_length_le hend, List.take_nil]

/-! ## All pages -/

variable (r)

/-- The first pages hold the first rows. -/
theorem flatMap_slice (size count : ℕ) :
    ((List.range' 1 count).flatMap fun i => (r.slice i size).rows) =
      r.rows.take (count * size) := by
  induction count with
  | zero => simp
  | succ count ih =>
      calc ((List.range' 1 (count + 1)).flatMap fun i => (r.slice i size).rows)
          = ((List.range' 1 count).flatMap fun i => (r.slice i size).rows) ++
              (r.slice (count + 1) size).rows := by
            rw [List.range'_1_concat, List.flatMap_append, List.flatMap_singleton,
              Nat.add_comm 1 count]
        _ = r.rows.take (count * size) ++ (r.rows.drop (count * size)).take size := by
            rw [ih, rows_slice_succ]
        _ = r.rows.take ((count + 1) * size) := by
            rw [← List.take_add, Nat.succ_mul]

/-- The pages up to the last one are the rows in order. Each but the last one is full, the last one
has at least one row, and all pages behind it are empty. Every page has the columns of the
result. -/
theorem pages_partition (hsize : 1 ≤ size) :
    (∃ pages : List Result, pages.length = r.pageCount size ∧
      ((List.range' 1 (r.pageCount size)).mapM fun (i : ℕ) => r.page (.int i) (.int size)) =
        .ok pages ∧
      pages.flatMap Result.rows = r.rows) ∧
    ∀ i : ℕ, 1 ≤ i → ∃ p, r.page (.int i) (.int size) = .ok p ∧ p.columns = r.columns ∧
      (i < r.pageCount size → p.rows.length = size) ∧
      (i = r.pageCount size → 1 ≤ p.rows.length ∧ p.rows.length ≤ size) ∧
      (r.pageCount size < i → p.rows = []) := by
  have hpage : ∀ i : ℕ, 1 ≤ i → r.page (.int i) (.int size) = .ok (r.slice i size) := by
    intro i hi
    exact r.page_int (by omega) (by omega)
  constructor
  · refine ⟨(List.range' 1 (r.pageCount size)).map (r.slice · size), by simp, ?_, ?_⟩
    · exact Except.mapM_eq_ok fun i hi => hpage i (List.mem_range'_1.mp hi).1
    · have hall : r.rows.length ≤ r.pageCount size * size := by
        rw [← Nat.not_lt, ← lt_pageCount_iff hsize]
        exact lt_irrefl _
      rw [List.flatMap_map, flatMap_slice, List.take_of_length_le hall]
  · intro i hi
    obtain ⟨k, rfl⟩ : ∃ k, i = k + 1 := ⟨i - 1, by omega⟩
    refine ⟨r.slice (k + 1) size, hpage _ hi, rfl, ?_, ?_, ?_⟩
    · exact length_slice_of_lt hsize
    · intro hlast
      exact length_slice_bounds hsize (by omega)
    · intro hbehind
      exact rows_slice_eq_nil hsize (by omega)

/-- Five rows. -/
def fiveRows : Result where
  columns := [.text "id"]
  rows := [1, 2, 3, 4, 5].map fun n => .list [.int n]

/-- Two full pages and one with the last row. -/
theorem pages_partition_fiveRows :
    1 ≤ 2 ∧ fiveRows.pageCount 2 = 3 ∧
    (∃ pages : List Result, pages.length = 3 ∧
      ([1, 2, 3].mapM fun (i : ℕ) => fiveRows.page (.int i) (.int 2)) = .ok pages ∧
      pages.flatMap Result.rows = fiveRows.rows) ∧
    (∃ p, fiveRows.page (.int 2) (.int 2) = .ok p ∧ p.rows.length = 2) ∧
    (∃ p, fiveRows.page (.int 3) (.int 2) = .ok p ∧ 1 ≤ p.rows.length ∧ p.rows.length ≤ 2) ∧
    ∃ p, fiveRows.page (.int 4) (.int 2) = .ok p ∧ p.rows = [] := by
  have hsize : 1 ≤ 2 := by decide
  have hcount : fiveRows.pageCount 2 = 3 := rfl
  obtain ⟨hpages, hpage⟩ := fiveRows.pages_partition hsize
  rw [hcount] at hpages hpage
  obtain ⟨second, hsecond, -, hfull, -⟩ := hpage 2 (by decide)
  obtain ⟨third, hthird, -, -, hlast, -⟩ := hpage 3 (by decide)
  obtain ⟨fourth, hfourth, -, -, -, hempty⟩ := hpage 4 (by decide)
  exact ⟨hsize, hcount, hpages, ⟨second, hsecond, hfull (by decide)⟩,
    ⟨third, hthird, hlast rfl⟩, fourth, hfourth, hempty (by decide)⟩

end Result
end SelectQuery
