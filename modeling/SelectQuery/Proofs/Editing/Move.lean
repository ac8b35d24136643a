import SelectQuery.Proofs.Editing.Identifier

/-!
# Moving columns

Moving takes the first column with an identifier out and puts it back in at a place, clamped to
the places there are (`moveColumn_int`). The columns that are left between the two steps are the
others in their order, and all that is said of a move is said through them: they are the same
before and after it (`Moves.others`), and a further move of the same column takes out that column
again, as long as no other one has its identifier, so that it starts from the same ones
(`moveColumn_moved`).
-/

namespace SelectQuery

/-- An item that is put into a list stands between the items in front of its place and the rest. -/
theorem List.insertIdx_eq_take_append {α : Type} {items : List α} {place : ℕ}
    (h : place ≤ items.length) (x : α) :
    items.insertIdx place x = items.take place ++ x :: items.drop place := by
  induction items generalizing place with
  | nil =>
      obtain rfl : place = 0 := Nat.le_zero.mp h
      rfl
  | cons y items ih =>
      cases place with
      | zero => rfl
      | succ place =>
          rw [List.insertIdx_succ_cons, ih (Nat.le_of_succ_le_succ h)]
          rfl

namespace Configuration

/-- What a move to a place makes of a configuration. -/
structure Moves (c : Configuration String) (id : String) (place : ℕ) (d : Configuration String) :
    Prop where
  /-- The columns are the ones there were. -/
  perm : d.columns.Perm c.columns
  /-- The first column with the identifier stands at the place. -/
  placed : ∃ x, c.columns.find? (·.id == id) = some x ∧ d.columns[place]? = some x
  /-- The other columns are in the order that they were in. -/
  others : d.columns.eraseIdx place = c.columns.eraseP (·.id == id)
  /-- All but the columns is as it was. -/
  rest : { d with columns := c.columns } = c

variable {c : Configuration String} {front back : List (Column String)} {x : Column String}

theorem clamp_eq (last : ℕ) (index : ℤ) : (clamp last index : ℤ) = min (max index 0) last := by
  rw [clamp]
  omega

theorem clamp_le (last : ℕ) (index : ℤ) : clamp last index ≤ last := Nat.min_le_right ..

/-- The first column with an identifier, between the columns around it. -/
theorem exists_first {id : String} (h : id ∈ c.columns.map Column.id) :
    ∃ front x back, c.columns = front ++ x :: back ∧ x.id = id ∧ ∀ y ∈ front, y.id ≠ id := by
  obtain ⟨z, hz, hid⟩ := List.mem_map.mp h
  obtain ⟨x, front, back, hfront, hx, hc, -⟩ :=
    List.exists_of_eraseP (p := (·.id == id)) hz (by simpa using hid)
  exact ⟨front, x, back, hc, by simpa using hx, by simpa using hfront⟩

theorem moveColumn_int (hc : c.columns = front ++ x :: back) (hfront : ∀ y ∈ front, y.id ≠ x.id)
    (index : ℤ) :
    c.moveColumn x.id (.int index) = .ok { c with
      columns := (front ++ back).insertIdx (clamp (front ++ back).length index) x } := by
  have hpieces : ∀ y ∈ front, y.pieces ≠ x.pieces := fun y hy =>
    mt Column.id_eq_iff.mpr (hfront y hy)
  rw [List.length_append]
  exact moveColumn_eq hc hpieces rfl

theorem moves_insertIdx (hc : c.columns = front ++ x :: back) (hfront : ∀ y ∈ front, y.id ≠ x.id)
    {place : ℕ} (hplace : place ≤ (front ++ back).length) :
    c.Moves x.id place { c with columns := (front ++ back).insertIdx place x } where
  perm := by
    rw [hc]
    exact (List.perm_insertIdx x _ hplace).trans List.perm_middle.symm
  placed := by
    refine ⟨x, ?_, ?_⟩
    · rw [hc, List.find?_append, List.find?_eq_none.mpr (by simpa using hfront)]
      simp
    · rw [List.getElem?_insertIdx_self, if_pos hplace]
  others := by
    rw [List.eraseIdx_insertIdx_self, hc, List.eraseP_append_right _ (by simpa using hfront)]
    simp
  rest := rfl

/-- A column that no other one shares its identifier with is moved on as if it had not been moved
before. -/
theorem moveColumn_moved (hc : c.columns = front ++ x :: back)
    (halone : ∀ y ∈ front ++ back, y.id ≠ x.id) {place : ℕ}
    (hplace : place ≤ (front ++ back).length) (index : ℤ) :
    ({ c with columns := (front ++ back).insertIdx place x } : Configuration String).moveColumn
        x.id (.int index) = c.moveColumn x.id (.int index) := by
  have hbefore : ∀ y ∈ (front ++ back).take place, y.id ≠ x.id := fun y hy =>
    halone y (List.mem_of_mem_take hy)
  rw [moveColumn_int hc fun y hy => halone y (List.mem_append_left _ hy),
    moveColumn_int (List.insertIdx_eq_take_append hplace x) hbefore, List.take_append_drop]

/-- A column stays where it is if it is moved to its own place. -/
theorem moveColumn_self (hc : c.columns = front ++ x :: back)
    (hfront : ∀ y ∈ front, y.id ≠ x.id) :
    c.moveColumn x.id (.int front.length) = .ok c := by
  have hplace : front.length ≤ (front ++ back).length := by simp
  have hclamp : clamp (front ++ back).length front.length = front.length := by
    rw [clamp]
    omega
  have hcolumns : (front ++ back).insertIdx front.length x = c.columns := by
    rw [List.insertIdx_eq_take_append hplace, List.take_left, List.drop_left, hc]
  rw [moveColumn_int hc hfront, hclamp, hcolumns]

/-- The column of an identifier can be moved to every index. The first column with it then stands
at the index, clamped to the places there are, and nothing else is changed but for that. If the
identifiers are distinct, a column that is moved on comes to where it would have come at once, and
a column that is moved back to its place leaves the configuration as it was. -/
theorem moveColumn_moves (c : Configuration String) {id : String}
    (hid : id ∈ c.columns.map Column.id) :
    (∀ index : ℤ, ∃ (place : ℕ) (d : Configuration String),
      (place : ℤ) = min (max index 0) ((c.columns.length : ℤ) - 1) ∧
      c.moveColumn id (.int index) = .ok d ∧ c.Moves id place d) ∧
    ((c.columns.map Column.id).Nodup →
      ∀ i : ℤ, ∃ d, c.moveColumn id (.int i) = .ok d ∧
        (∀ j : ℤ, d.moveColumn id (.int j) = c.moveColumn id (.int j)) ∧
        d.moveColumn id (.int ((c.columns.map Column.id).idxOf id)) = .ok c) := by
  obtain ⟨front, x, back, hc, rfl, hfront⟩ := exists_first hid
  constructor
  · intro index
    refine ⟨clamp (front ++ back).length index, _, ?_, moveColumn_int hc hfront index,
      moves_insertIdx hc hfront (clamp_le ..)⟩
    rw [clamp_eq, hc]
    simp
    omega
  · intro hdistinct i
    have halone : ∀ y ∈ front ++ back, y.id ≠ x.id := by
      rw [hc, (List.perm_middle.map Column.id).nodup_iff, List.map_cons,
        List.nodup_cons] at hdistinct
      intro y hy hsame
      exact hdistinct.1 (hsame ▸ List.mem_map_of_mem hy)
    have hplace : (c.columns.map Column.id).idxOf x.id = front.length := by
      have hnew : x.id ∉ front.map Column.id := by simpa using hfront
      rw [hc, List.map_append, List.idxOf_append_of_notMem hnew, List.map_cons,
        List.idxOf_cons_self, List.length_map, Nat.add_zero]
    refine ⟨_, moveColumn_int hc hfront i, fun j => ?_, ?_⟩
    · exact moveColumn_moved hc halone (clamp_le ..) j
    · rw [hplace, moveColumn_moved hc halone (clamp_le ..), moveColumn_self hc hfront]

/-- Three columns of one table. -/
def threeColumns : Configuration String where
  tables := [⟨"users", "", none⟩]
  columns := ["id", "name", "email"].map fun name => ⟨"users", name, "", none, none, []⟩

/-- The second of three columns is moved to the end by an index that is too large, and to the front
by a negative one, from where it comes back. -/
theorem moveColumn_moves_threeColumns :
    "users.name" ∈ threeColumns.columns.map Column.id ∧
    (threeColumns.columns.map Column.id).Nodup ∧
    (∃ (place : ℕ) (d : Configuration String), (place : ℤ) = 2 ∧
      threeColumns.moveColumn "users.name" (.int 99) = .ok d ∧
      threeColumns.Moves "users.name" place d) ∧
    ∃ d, threeColumns.moveColumn "users.name" (.int (-4)) = .ok d ∧
      d.moveColumn "users.name" (.int 2) = threeColumns.moveColumn "users.name" (.int 2) ∧
      d.moveColumn "users.name" (.int 1) = .ok threeColumns := by
  have hid : "users.name" ∈ threeColumns.columns.map Column.id := by decide
  have hdistinct : (threeColumns.columns.map Column.id).Nodup := by decide
  obtain ⟨hmoves, hon⟩ := threeColumns.moveColumn_moves hid
  obtain ⟨d, hd, hfurther, hback⟩ := hon hdistinct (-4)
  exact ⟨hid, hdistinct, hmoves 99, d, hd, hfurther 2, hback⟩

end Configuration
end SelectQuery
