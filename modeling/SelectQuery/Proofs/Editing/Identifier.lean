import SelectQuery.Proofs.Editing.Reached

/-!
# Identifiers of columns

A column is selected once by its schema, table and name, and is addressed afterwards by an
identifier: the three of them between dots, without those that are empty. Dots inside a part
and gaps between the parts do not show in it, so the identifier tells no more of a column than
its `pieces`, the parts cut at every dot (`Column.id_eq_iff`).

So edits can lead to columns with one identifier, and then every operation that addresses
a column by it means more than that column, or another one. `Reached.columnIds_iff` says
for each of the operations when it does not. Columns without dots in their parts are safe.
-/

namespace SelectQuery

open Entry

/-- Pieces joined by a separator are cut into the pieces of the pieces. -/
theorem Text.splitOn_intercalate_flatMap {separator : Char} {parts : List (List Char)}
    (hne : parts ≠ []) : ([separator].intercalate parts).splitOn separator =
      parts.flatMap (List.splitOn separator) := by
  induction parts with
  | nil => exact absurd rfl hne
  | cons part parts ih =>
      cases parts with
      | nil => simp
      | cons next parts =>
          rw [List.intercalate_cons_cons, List.append_assoc, List.singleton_append,
            List.splitOn_append_cons_self, ih (List.cons_ne_nil next parts)]
          rfl

namespace Column

variable {x y : Column String}

/-- The parts of a column, cut at the dots in them. -/
def pieces (col : Column String) : List (List Char) :=
  col.parts.flatMap fun part => part.toList.splitOn '.'

/-- No part of a column has a dot in it, and only its schema may be empty. -/
structure IsPlain (col : Column String) : Prop where
  schema : '.' ∉ col.schema.toList
  table : '.' ∉ col.table.toList ∧ col.table ≠ ""
  name : '.' ∉ col.name.toList ∧ col.name ≠ ""

theorem toList_id (col : Column String) :
    col.id.toList = ['.'].intercalate (col.parts.map String.toList) := by
  rw [id, String.toList_intercalate, List.map_map]
  rfl

theorem pieces_eq (col : Column String) (hne : col.parts ≠ []) :
    col.pieces = col.id.toList.splitOn '.' := by
  rw [toList_id, Text.splitOn_intercalate_flatMap (by simpa using hne), List.flatMap_map]
  rfl

/-- A column has no pieces only if it has an empty identifier. -/
theorem parts_eq_nil_iff (col : Column String) : col.parts = [] ↔ col.id = "" := by
  constructor
  · intro hparts
    rw [id, hparts]
    rfl
  · intro hid
    cases hparts : col.parts with
    | nil => rfl
    | cons part parts =>
        exfalso
        have hmem : part ∈ col.parts := hparts ▸ List.mem_cons_self
        have hpresent : part ≠ "" := by simpa using (List.mem_filter.mp hmem).2
        have hjoined := toList_id col
        rw [hid, hparts, List.map_cons] at hjoined
        have hprefix : part.toList <+: ['.'].intercalate
            (part.toList :: parts.map String.toList) := by
          cases parts with
          | nil => simp
          | cons next parts =>
              rw [List.map_cons, List.intercalate_cons_cons, List.append_assoc]
              exact List.prefix_append _ _
        rw [← hjoined] at hprefix
        exact hpresent (String.toList_eq_nil_iff.mp (List.prefix_nil.mp hprefix))

theorem intercalate_pieces (col : Column String) :
    ['.'].intercalate col.pieces = col.id.toList := by
  by_cases hparts : col.parts = []
  · rw [pieces, hparts, (parts_eq_nil_iff col).mp hparts]
    rfl
  · rw [pieces_eq col hparts, List.intercalate_splitOn]

/-- The identifier of a column tells its pieces, and no more. -/
theorem id_eq_iff : x.id = y.id ↔ x.pieces = y.pieces := by
  constructor
  · intro hid
    by_cases hx : x.parts = []
    · have hy : y.parts = [] := by rwa [parts_eq_nil_iff, ← hid, ← parts_eq_nil_iff]
      rw [pieces, pieces, hx, hy]
    · have hy : y.parts ≠ [] := by rwa [Ne, parts_eq_nil_iff, ← hid, ← parts_eq_nil_iff]
      rw [pieces_eq x hx, pieces_eq y hy, hid]
  · intro hpieces
    rw [← String.toList_inj, ← intercalate_pieces, ← intercalate_pieces, hpieces]

/-- The pieces of a column without dots are its parts. -/
theorem IsPlain.pieces_eq (hx : x.IsPlain) : x.pieces = x.parts.map String.toList := by
  rw [pieces, ← List.flatMap_pure_eq_map]
  refine List.flatMap_congr fun part hpart => ?_
  have hmem : part = x.schema ∨ part = x.table ∨ part = x.name := by
    simpa [parts] using (List.mem_filter.mp hpart).1
  refine List.splitOn_eq_singleton ?_
  rcases hmem with rfl | rfl | rfl
  · exact hx.schema
  · exact hx.table.1
  · exact hx.name.1

theorem IsPlain.parts_eq (hx : x.IsPlain) :
    x.parts = (if x.schema = "" then [] else [x.schema]) ++ [x.table, x.name] := by
  by_cases hschema : x.schema = "" <;> simp [parts, hschema, hx.table.2, hx.name.2]

/-- Columns without dots are told apart by their pieces. -/
theorem IsPlain.key_eq (hx : x.IsPlain) (hy : y.IsPlain) (h : x.pieces = y.pieces) :
    x.key = y.key := by
  have hparts : x.parts = y.parts := by
    rw [hx.pieces_eq, hy.pieces_eq] at h
    exact List.map_injective_iff.mpr (fun _ _ => String.toList_injective) h
  rw [hx.parts_eq, hy.parts_eq] at hparts
  obtain ⟨hschema, hrest⟩ := List.append_inj' hparts rfl
  obtain ⟨htable, hname⟩ : x.table = y.table ∧ x.name = y.name := by simpa using hrest
  have hschema' : x.schema = y.schema := by
    by_cases hx : x.schema = "" <;> by_cases hy : y.schema = "" <;> simp_all
  rw [key, key, hschema', htable, hname]

end Column

/-! ## Operations that address a column by its identifier -/

/-- A change that is accepted for any column: of a field that can be changed, to something that
can stand there. -/
def ColumnChange.Accepted (change : ColumnChange String) : Prop :=
  change.other? = none ∧ change.checkFunction = .ok () ∧ change.checkParams = .ok ()

theorem Except.forM_eq_ok {ε α : Type} {f : α → Except ε Unit} {xs : List α}
    (h : ∀ x ∈ xs, f x = .ok ()) : xs.forM f = .ok () := by
  induction xs with
  | nil => rfl
  | cons x xs ih =>
      obtain ⟨hx, hxs⟩ := List.forall_mem_cons.mp h
      exact Except.bind_eq_ok.mpr ⟨(), hx, ih hxs⟩

namespace Configuration

variable {c : Configuration String} {front back : List (Column String)} {x y : Column String}

theorem isNamed_id_iff : y.isNamed x.id = true ↔ y.pieces = x.pieces := by
  rw [← Column.id_eq_iff]
  simp [Column.isNamed]

theorem columnIndex_eq (hc : c.columns = front ++ x :: back)
    (hfront : ∀ y ∈ front, y.pieces ≠ x.pieces) : c.columnIndex x.id = .ok front.length := by
  have hskipped : front.findIdx? (·.isNamed x.id) = none := by
    simpa [List.findIdx?_eq_none_iff, ← isNamed_id_iff] using hfront
  have hfound : (x :: back).findIdx? (·.isNamed x.id) = some 0 := by
    simp [List.findIdx?_cons, isNamed_id_iff]
  rw [columnIndex, idLookupFails_string, hc, List.findIdx?_append, hskipped, hfound]
  simp

/-- A column that shares its identifier with another one is removed with it. -/
theorem removeColumn_eq_iff (hc : c.columns = front ++ x :: back) :
    c.removeColumn x.id = .ok { c with columns := front ++ back } ↔
      ∀ y ∈ front ++ back, y.pieces ≠ x.pieces := by
  have hremoved : c.removeColumn x.id =
      .ok { c with columns := (front ++ back).filter (!·.isNamed x.id) } := by
    have hx : x.isNamed x.id = true := isNamed_id_iff.mpr rfl
    rw [removeColumn, requireIds_string, hc, List.filter_append, List.filter_append,
      List.filter_cons_of_neg (by simp [hx])]
    rfl
  rw [hremoved, Except.ok.injEq, Configuration.mk.injEq]
  simp only [true_and, and_true]
  rw [List.filter_eq_self]
  simp [← isNamed_id_iff]

theorem updateColumn_eq {changes : List (ColumnChange String)} (hx : x ∈ c.columns)
    (hchanges : ∀ change ∈ changes, change.Accepted) :
    c.updateColumn x.id changes = .ok { c with
      columns := c.columns.map fun y =>
        if y.isNamed x.id then changes.foldl ColumnChange.apply y else y } := by
  obtain ⟨i, hindex⟩ : ∃ i, c.columnIndex x.id = .ok i := by
    have hsome : (c.columns.findIdx? (·.isNamed x.id)).isSome = true := by
      rw [List.findIdx?_isSome]
      exact List.any_eq_true.mpr ⟨x, hx, isNamed_id_iff.mpr rfl⟩
    obtain ⟨i, hi⟩ := Option.isSome_iff_exists.mp hsome
    exact ⟨i, by rw [columnIndex, idLookupFails_string, hi]; rfl⟩
  have hfields : changes.filterMap ColumnChange.other? = [] :=
    List.filterMap_eq_nil_iff.mpr fun change hmem => (hchanges change hmem).1
  have hfunctions : changes.forM ColumnChange.checkFunction = .ok () :=
    Except.forM_eq_ok fun change hmem => (hchanges change hmem).2.1
  have hparams : changes.forM ColumnChange.checkParams = .ok () :=
    Except.forM_eq_ok fun change hmem => (hchanges change hmem).2.2
  rw [updateColumn, hindex, hfields, hfunctions, hparams, requireIds_string]
  rfl

/-- There is an accepted change that leaves no column of the same name as it is. -/
theorem exists_change (y : Column String) :
    ∃ change : ColumnChange String, change.Accepted ∧ change.apply y ≠ y := by
  have hnew : y.aliasName.getD "" ++ "_" ≠ "" := by simp
  refine ⟨.aliasName (some (y.aliasName.getD "" ++ "_")), ⟨rfl, rfl, rfl⟩, fun h => ?_⟩
  have halias : some (y.aliasName.getD "" ++ "_") = y.aliasName := by
    have happlied := congrArg Column.aliasName h
    simpa [ColumnChange.apply, present?, Option.filter, hnew] using happlied
  cases hold : y.aliasName with
  | none => simp [hold] at halias
  | some a =>
      rw [hold, Option.getD_some, Option.some.injEq] at halias
      simpa using congrArg String.length halias

/-- A column that shares its identifier with another one is changed with it. -/
theorem updateColumn_eq_iff (hc : c.columns = front ++ x :: back) :
    (∀ changes : List (ColumnChange String), (∀ change ∈ changes, change.Accepted) →
      c.updateColumn x.id changes =
        .ok { c with columns := front ++ changes.foldl ColumnChange.apply x :: back }) ↔
      ∀ y ∈ front ++ back, y.pieces ≠ x.pieces := by
  have hx : x ∈ c.columns := by simp [hc]
  constructor
  · intro halone y hy hpieces
    obtain ⟨change, haccepted, hchanged⟩ := exists_change y
    have hupdated := halone [change] (List.forall_mem_singleton.mpr haccepted)
    rw [updateColumn_eq hx (List.forall_mem_singleton.mpr haccepted), Except.ok.injEq,
      Configuration.mk.injEq] at hupdated
    have hcolumns := hupdated.2.1
    rw [hc, List.map_append, List.map_cons] at hcolumns
    obtain ⟨hfront, hback⟩ := List.append_inj hcolumns (List.length_map _)
    have hkept : (front ++ back).map (fun y => if y.isNamed x.id then [change].foldl
        ColumnChange.apply y else y) = (front ++ back).map id := by
      rw [List.map_append, hfront, (List.cons.inj hback).2, List.map_id]
    have hy' := List.map_inj_left.mp hkept y hy
    rw [if_pos (isNamed_id_iff.mpr hpieces)] at hy'
    exact hchanged hy'
  · intro halone changes hchanges
    have hkept : ∀ y ∈ front ++ back,
        (if y.isNamed x.id then changes.foldl ColumnChange.apply y else y) = y := fun y hy =>
      if_neg (mt isNamed_id_iff.mp (halone y hy))
    obtain ⟨hfront, hback⟩ := List.forall_mem_append.mp hkept
    rw [updateColumn_eq hx hchanges, hc, List.map_append, List.map_cons, List.map_congr_left hfront,
      List.map_congr_left hback, if_pos (isNamed_id_iff.mpr rfl), List.map_id', List.map_id']

/-- Of columns that share an identifier the first is moved. -/
theorem moveColumn_eq (hc : c.columns = front ++ x :: back)
    (hfront : ∀ y ∈ front, y.pieces ≠ x.pieces) {index : Value} {place : ℕ}
    (hplace : placeOf (front.length + back.length) index = .ok place) :
    c.moveColumn x.id index = .ok { c with columns := (front ++ back).insertIdx place x } := by
  have hlast : c.columns.length - 1 = front.length + back.length := by simp [hc]
  have hmoved : moveItem c.columns front.length place = (front ++ back).insertIdx place x := by
    simp [moveItem, hc, List.eraseIdx_append_of_length_le]
  rw [moveColumn, columnIndex_eq hc hfront, hlast, hplace]
  exact congrArg (fun columns => Except.ok { c with columns }) hmoved

theorem moveColumn_eq_iff (hkeys : (c.columns.map Column.key).Nodup)
    (hc : c.columns = front ++ x :: back) :
    (∀ (index : Value) (place : ℕ), placeOf (front.length + back.length) index = .ok place →
      c.moveColumn x.id index = .ok { c with columns := (front ++ back).insertIdx place x }) ↔
      ∀ y ∈ front, y.pieces ≠ x.pieces := by
  constructor
  · intro halone
    by_contra hshared
    -- the first of the columns that share the identifier is moved to the front instead
    have hfound : (front.find? (·.isNamed x.id)).isSome = true := by
      rw [List.find?_isSome]
      simpa [isNamed_id_iff] using hshared
    obtain ⟨y, hy⟩ := Option.isSome_iff_exists.mp hfound
    obtain ⟨hnamed, before, between, rfl, hbefore⟩ := List.find?_eq_some_iff_append.mp hy
    have hpieces := isNamed_id_iff.mp hnamed
    have hc' : c.columns = before ++ y :: (between ++ x :: back) := by rw [hc]; simp
    have hfirst : ∀ z ∈ before, z.pieces ≠ y.pieces := by
      intro z hz hsame
      have hz' := hbefore z hz
      rw [isNamed_id_iff.mpr (hsame.trans hpieces)] at hz'
      exact absurd hz' (by decide)
    have hplace : placeOf (before.length + (between ++ x :: back).length) (.int 0) = .ok 0 := rfl
    have hmoved := moveColumn_eq hc' hfirst hplace
    rw [Column.id_eq_iff.mpr hpieces, halone (.int 0) 0 rfl, Except.ok.injEq,
      Configuration.mk.injEq, List.insertIdx_zero, List.insertIdx_zero] at hmoved
    obtain rfl := (List.cons.inj hmoved.2.1).1
    rw [hc', List.map_append, List.map_cons] at hkeys
    exact (List.nodup_cons.mp (List.nodup_append.mp hkeys).2.1).1 (by simp)
  · intro hfront index place hplace
    exact moveColumn_eq hc hfront hplace

end Configuration

variable {c : Configuration String} {start supply : IdSupply}

/-- In a configuration that edits lead to, the identifiers of columns are distinct exactly if
the pieces of columns are, and so they are if no part of a column has a dot in it. Removing or
changing a column by its identifier means this column only exactly if no other column has its
pieces, and moving it means this column exactly if no column before it has them. -/
theorem Reached.columnIds_iff (h : Reached (fun _ => True) start c supply) :
    ((c.columns.map Column.id).Nodup ↔ c.columns.Pairwise fun x y => x.pieces ≠ y.pieces) ∧
    ((∀ x ∈ c.columns, x.IsPlain) → (c.columns.map Column.id).Nodup) ∧
    ∀ front x back, c.columns = front ++ x :: back →
      (c.removeColumn x.id = .ok { c with columns := front ++ back } ↔
        ∀ y ∈ front ++ back, y.pieces ≠ x.pieces) ∧
      ((∀ changes : List (ColumnChange String), (∀ change ∈ changes, change.Accepted) →
          c.updateColumn x.id changes =
            .ok { c with columns := front ++ changes.foldl ColumnChange.apply x :: back }) ↔
        ∀ y ∈ front ++ back, y.pieces ≠ x.pieces) ∧
      ((∀ (index : Value) (place : ℕ),
          Configuration.placeOf (front.length + back.length) index = .ok place →
          c.moveColumn x.id index =
            .ok { c with columns := (front ++ back).insertIdx place x }) ↔
        ∀ y ∈ front, y.pieces ≠ x.pieces) := by
  have hkeys : (c.columns.map Column.key).Nodup := h.keyed_numbered.1.columns
  have hids : (c.columns.map Column.id).Nodup ↔
      c.columns.Pairwise fun x y => x.pieces ≠ y.pieces := by
    rw [List.Nodup, List.pairwise_map]
    simp only [ne_eq, Column.id_eq_iff]
  refine ⟨hids, fun hplain => ?_, fun front x back hc => ?_⟩
  · rw [hids]
    refine (List.pairwise_map.mp hkeys).imp_of_mem fun hx hy hne hpieces => ?_
    exact hne ((hplain _ hx).key_eq (hplain _ hy) hpieces)
  · exact ⟨Configuration.removeColumn_eq_iff hc, Configuration.updateColumn_eq_iff hc,
      Configuration.moveColumn_eq_iff hkeys hc⟩

theorem Reached.columnIds_joinedOrders :
    Reached (fun _ => True) {} joinedOrders ⟨3⟩ ∧
    (∀ x ∈ joinedOrders.columns, x.IsPlain) ∧ (joinedOrders.columns.map Column.id).Nodup ∧
    joinedOrders.removeColumn "orders.total" =
      .ok { joinedOrders with columns := [⟨"users", "name", "public", none, none, []⟩] } := by
  have hreached := reached_joinedOrders.mono fun _ _ => trivial
  obtain ⟨-, hdistinct, halone⟩ := hreached.columnIds_iff
  have hplain : ∀ x ∈ joinedOrders.columns, x.IsPlain := by
    refine List.forall_mem_cons.mpr ⟨?_, List.forall_mem_singleton.mpr ?_⟩ <;>
      exact ⟨by decide, by decide, by decide⟩
  have hremoved := (halone [⟨"users", "name", "public", none, none, []⟩]
    ⟨"orders", "total", "", none, none, []⟩ [] rfl).1.mpr
    (List.forall_mem_singleton.mpr (by decide))
  exact ⟨hreached, hplain, hdistinct hplain, hremoved⟩

/-- The same column of a table, by its name and its schema and by the two in one. -/
def spelledTwice : Configuration String where
  tables := [⟨"users", "public", none⟩]
  columns := [⟨"users", "name", "public", none, none, []⟩,
    ⟨"public.users", "name", "", none, none, []⟩]

/-- Two columns can be selected that have one identifier, and are removed by it together. -/
theorem Reached.columnIds_spelledTwice :
    Reached (fun _ => True) {} spelledTwice {} ∧
    spelledTwice.columns.map Column.id = ["public.users.name", "public.users.name"] ∧
    spelledTwice.removeColumn "public.users.name" = .ok { spelledTwice with columns := [] } := by
  refine ⟨?_, by decide, ?_⟩
  · have hallowed : ∀ e ∈ spelledTwice.columns.map Edit.addColumn, True := by simp
    exact Reached.empty.edits hallowed (by cbv)
  · rfl

end SelectQuery
