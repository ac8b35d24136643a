import SelectQuery.Proofs.Paging
import SelectQuery.Proofs.Screen.Check
import SelectQuery.Service

/-!
# A page of an answer

A service takes a page of what it gets for a query. Number and size of a page are meant to be
positive, and where no size is given the service has one of its own. The size is replaced before
it is looked at, and a size of zero counts as none. So a page of size zero is not refused but has
the size of the service, and with it every page is as it is meant to be exactly if it is asked
for with another size, or its number is not positive (`executePage_iff`).

An accepted query that the database answers with rows has a result (`exists_execute`), and all
that is left to look at are the two numbers (`page_eq`, `pageSizeFor_asked`).
-/

namespace SelectQuery

open Screen

namespace Result

variable {r : Result} {number size : ℤ}

/-- A page as it is meant: there is one for a positive number and a positive size. -/
def positivePage (r : Result) (number size : ℤ) : Except Error Result :=
  if 1 ≤ number ∧ 1 ≤ size then .ok (r.slice number.toNat size.toNat)
  else .error (.badValue .pageNotPositive)

theorem positivePage_of_pos (hnumber : 1 ≤ number) (hsize : 1 ≤ size) :
    r.positivePage number size = .ok (r.slice number.toNat size.toNat) :=
  if_pos ⟨hnumber, hsize⟩

theorem positivePage_eq_error_iff :
    r.positivePage number size = .error (.badValue .pageNotPositive) ↔ number < 1 ∨ size < 1 := by
  rw [positivePage]
  split
  · next hpos => exact iff_of_false (by simp) (by omega)
  · next hpos => exact iff_of_true rfl (by omega)

theorem page_eq (r : Result) (number size : ℤ) :
    r.page (.int number) (.int size) = r.positivePage number size := by
  rw [positivePage]
  split
  · next hpos => exact r.page_int hpos.1 hpos.2
  · next hpos =>
      have hsmall (n : ℤ) : isTooSmall (.int n) = .ok (decide (n < 1)) := rfl
      rw [page, hsmall, hsmall]
      -- the number is looked at first, and the size only behind a number that can be
      by_cases hnumber : number < 1
      · rw [decide_eq_true hnumber]
        rfl
      · have hsize : size < 1 := by omega
        rw [decide_eq_false hnumber, decide_eq_true hsize]
        rfl

theorem mem_of_mem_limited {count : ℤ} {row : Value} (h : row ∈ (r.limited count).rows) :
    row ∈ r.rows := by
  rw [limited] at h
  split at h
  · exact h
  · split at h <;> exact List.mem_of_mem_take h

end Result

namespace Service

variable {μ : Type} (s : Service μ)

/-! ## An answer -/

/-- A query that the database answers with rows has a result. -/
theorem exists_call {data : Result} (hrows : ∀ row ∈ data.rows, row.items?.isSome = true)
    (sql : String) (params : List (String × Value)) :
    ∃ r, (s.call sql params (.ok data)).outcome = .ok r := by
  have hlisted : ∀ row ∈ (data.limited s.maxRows).rows,
      Result.listed row = .ok (.list (row.items?.getD [])) := by
    intro row hrow
    obtain ⟨items, hitems⟩ :=
      Option.isSome_iff_exists.mp (hrows row (Result.mem_of_mem_limited hrow))
    rw [Result.listed, hitems]
    rfl
  exact ⟨_, Except.bind_eq_ok.mpr ⟨_, Except.mapM_eq_ok hlisted, rfl⟩⟩

variable {s} {sql : String}

theorem execute_accepted (hsql : Accepted sql) (reply : Reply) :
    s.execute sql .null reply = s.call sql [] reply := by
  rw [execute, check_eq_ok_iff.mpr hsql]
  rfl

variable (s)

theorem exists_execute (hsql : Accepted sql) {data : Result}
    (hrows : ∀ row ∈ data.rows, row.items?.isSome = true) :
    ∃ r, (s.execute sql .null (.ok data)).outcome = .ok r := by
  rw [execute_accepted hsql]
  exact s.exists_call hrows sql []

/-! ## The size of a page -/

/-- The value that asks for a size, or for none. -/
def asked (size : Option ℤ) : Value := (size.map .int).getD .null

/-- The size that a page has. A size of zero counts as none. -/
def usedSize (size : Option ℤ) : ℤ := (size.filter (· ≠ 0)).getD s.pageSize

theorem usedSize_zero : s.usedSize (some 0) = s.pageSize := rfl

variable {s}

theorem usedSize_of_ne {size : Option ℤ} (h : size ≠ some 0) :
    s.usedSize size = size.getD s.pageSize := by
  cases size with
  | none => rfl
  | some k =>
      have hk : k ≠ 0 := fun hk => h (congrArg some hk)
      rw [usedSize, Option.filter_some_pos (by simpa using hk)]

theorem usedSize_lt_one_iff {size : Option ℤ} : s.usedSize size < 1 ↔ ∃ k ∈ size, k < 0 := by
  have hpos : 0 < s.pageSize := s.pageSize_pos
  cases size with
  | none => simp [usedSize]; omega
  | some k =>
      by_cases hk : k = 0
      · rw [hk, usedSize_zero]
        simp
        omega
      · rw [usedSize_of_ne (by simpa using hk)]
        simp
        omega

variable (s)

theorem pageSizeFor_asked (size : Option ℤ) :
    s.pageSizeFor (asked size) = .int (s.usedSize size) := by
  cases size with
  | none => rfl
  | some k =>
      by_cases hk : k = 0
      · rw [hk]
        rfl
      · have hpresent : (asked (some k)).isPresent = true := by
          simpa [asked, Value.isPresent] using hk
        rw [pageSizeFor, if_pos hpresent, usedSize_of_ne (by simpa using hk)]
        rfl

theorem executePage_outcome {reply : Reply} {r : Result}
    (hr : (s.execute sql .null reply).outcome = .ok r) (number : ℤ) (size : Option ℤ) :
    (s.executePage sql (.int number) (asked size) reply).outcome =
      r.positivePage number (s.usedSize size) := by
  have hpage : (s.executePage sql (.int number) (asked size) reply).outcome =
      (s.execute sql .null reply).outcome.bind fun r =>
        r.page (.int number) (s.pageSizeFor (asked size)) := rfl
  rw [hpage, hr, pageSizeFor_asked, ← Result.page_eq]
  rfl

/-- An accepted query that is answered with rows has a result. A page of it is refused exactly if
its number or its size is less than it can be, where a size of zero is none; any other page is
the part of the result with that number, of the size that is asked for or, without one, of the
size of the service. So a page is as it is meant to be, unless it is asked for with a positive
number and a size of zero. -/
theorem executePage_iff (hsql : Accepted sql) {data : Result}
    (hrows : ∀ row ∈ data.rows, row.items?.isSome = true) (number : ℤ) (size : Option ℤ) :
    ∃ r, (s.execute sql .null (.ok data)).outcome = .ok r ∧
      ((s.executePage sql (.int number) (asked size) (.ok data)).outcome =
          .error (.badValue .pageNotPositive) ↔ number < 1 ∨ ∃ k ∈ size, k < 0) ∧
      (1 ≤ number → (∀ k ∈ size, 0 ≤ k) →
        (s.executePage sql (.int number) (asked size) (.ok data)).outcome =
          .ok (r.slice number.toNat (s.usedSize size).toNat)) ∧
      ((s.executePage sql (.int number) (asked size) (.ok data)).outcome =
          r.positivePage number (size.getD s.pageSize) ↔ number < 1 ∨ size ≠ some 0) := by
  obtain ⟨r, hr⟩ := s.exists_execute hsql hrows
  refine ⟨r, hr, ?_⟩
  rw [s.executePage_outcome hr]
  refine ⟨?_, ?_, ?_⟩
  · rw [Result.positivePage_eq_error_iff, usedSize_lt_one_iff]
  · intro hnumber hsize
    refine Result.positivePage_of_pos hnumber ?_
    rw [← Int.not_lt, usedSize_lt_one_iff]
    rintro ⟨k, hk, hneg⟩
    exact absurd (hsize k hk) (by omega)
  · constructor
    · intro hmeant
      by_contra! hzero
      obtain ⟨hnumber, rfl⟩ := hzero
      -- a size of zero is meant to be refused, but the size of the service is positive
      have hrefused : r.positivePage number (Option.getD (some 0) s.pageSize) =
          .error (.badValue .pageNotPositive) :=
        Result.positivePage_eq_error_iff.mpr (.inr Int.zero_lt_one)
      rw [hrefused, Result.positivePage_eq_error_iff, usedSize_lt_one_iff] at hmeant
      obtain hsmall | ⟨k, hk, hneg⟩ := hmeant
      · omega
      · obtain rfl : 0 = k := Option.some.inj hk
        exact absurd hneg (by decide)
    · rintro (hnumber | hsize)
      · rw [Result.positivePage_eq_error_iff.mpr (.inl hnumber),
          Result.positivePage_eq_error_iff.mpr (.inl hnumber)]
      · rw [usedSize_of_ne hsize]

/-- A query for the rows of a table. -/
def usersQuery : String := "SELECT id FROM users"

/-- Pages of three rows of a service that has pages of two. -/
theorem executePage_fiveRows :
    Accepted usersQuery ∧ (∀ row ∈ Result.fiveRows.rows, row.items?.isSome = true) ∧
    ∃ r, (({ pageSize := 2 } : Service Value).execute usersQuery .null
        (.ok Result.fiveRows)).outcome = .ok r ∧
      (({ pageSize := 2 } : Service Value).executePage usersQuery (.int 2) (asked (some 3))
        (.ok Result.fiveRows)).outcome = .ok (r.slice 2 3) := by
  have hsql : Accepted usersQuery := ⟨by decide +kernel, by decide +kernel⟩
  have hrows : ∀ row ∈ Result.fiveRows.rows, row.items?.isSome = true := by
    simp [Result.fiveRows, Value.items?]
  obtain ⟨r, hr, -, hpage, -⟩ :=
    executePage_iff ({ pageSize := 2 } : Service Value) hsql hrows 2 (some 3)
  have hsize : ∀ k ∈ some (3 : ℤ), 0 ≤ k := by simp
  exact ⟨hsql, hrows, r, hr, hpage (by decide) hsize⟩

/-- A page of size zero is the first page of the size of the service, where none is meant. -/
theorem executePage_sizeZero :
    Accepted usersQuery ∧
    (({} : Service Value).execute usersQuery .null (.ok Result.fiveRows)).outcome =
      .ok Result.fiveRows ∧
    (({} : Service Value).executePage usersQuery (.int 1) (.int 0) (.ok Result.fiveRows)).outcome =
      .ok Result.fiveRows ∧
    Result.fiveRows.positivePage 1 0 = .error (.badValue .pageNotPositive) := by
  have hsql : Accepted usersQuery := ⟨by decide +kernel, by decide +kernel⟩
  have hresult : (({} : Service Value).execute usersQuery .null (.ok Result.fiveRows)).outcome =
      .ok Result.fiveRows := by
    rw [execute_accepted hsql]
    rfl
  refine ⟨hsql, hresult, ?_, rfl⟩
  exact (({} : Service Value).executePage_outcome hresult 1 (some 0)).trans rfl

end Service
end SelectQuery
