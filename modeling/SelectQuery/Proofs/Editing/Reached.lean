import Mathlib
import SelectQuery.Proofs.Editing.Effect

/-!
# What holds of every configuration that edits lead to

`Reached` are the configurations that come out of the empty one by edits that succeed. Other
takers of identifiers may come in between. Two things hold of all of them:

* every key stands once, and a limit is positive (`Reached.distinct`). Conditions have keys
  that are taken from the supply, so for them the invariant is that they are numbered upwards
  within what was taken;
* every column and every join refers to selected tables, as long as no alias is changed
  (`Reached.referential`). Removing a table is the only edit that could break this, and it
  removes all that refers to the table it was asked for. So the invariant needs the keys of
  tables too: another table with the same key would go along, and what refers to it would
  stay.
-/

namespace SelectQuery

/-- The configurations that allowed edits lead to from the empty one and a supply, with the
supply that is left. -/
inductive Reached (allowed : Edit String → Prop) (start : IdSupply) :
    Configuration String → IdSupply → Prop
  | empty : Reached allowed start .empty start
  /-- Identifiers are taken by someone else. -/
  | taken {c : Configuration String} {supply left : IdSupply} :
      Reached allowed start c supply → supply.taken ≤ left.taken → Reached allowed start c left
  | edit {c d : Configuration String} {e : Edit String} {supply left : IdSupply} :
      Reached allowed start c supply → allowed e → (c.edit e).outcome supply = (.ok d, left) →
        Reached allowed start d left

/-- A series of edits that succeed leads on. -/
theorem Reached.edits {allowed : Edit String → Prop} {start supply left : IdSupply}
    {c d : Configuration String} {es : List (Edit String)} (h : Reached allowed start c supply)
    (hes : ∀ e ∈ es, allowed e)
    (hrun : (es.foldlM Configuration.edit c).outcome supply = (.ok d, left)) :
    Reached allowed start d left := by
  induction es generalizing c supply with
  | nil =>
      obtain ⟨rfl, rfl⟩ := Build.outcome_pure_eq_ok.mp hrun
      exact h
  | cons e es ih =>
      rw [List.foldlM_cons] at hrun
      obtain ⟨next, between, hedit, hrest⟩ := Build.outcome_bind_eq_ok.mp hrun
      obtain ⟨he, hes⟩ := List.forall_mem_cons.mp hes
      exact ih (h.edit he hedit) hes hrest

theorem Reached.mono {allowed allowed' : Edit String → Prop} {start supply : IdSupply}
    {c : Configuration String} (h : Reached allowed start c supply)
    (hallowed : ∀ e, allowed e → allowed' e) : Reached allowed' start c supply := by
  induction h with
  | empty => exact .empty
  | taken _ hle ih => exact .taken ih hle
  | edit _ he hedit ih => exact .edit ih (hallowed _ he) hedit

/-- An edit that leaves the aliases of tables alone. -/
def Edit.keepsAliases : Edit String → Prop
  | .updateTable .. => False
  | _ => True

/-! ## Identifiers -/

theorem Text.hexDigit_inj {m n : ℕ} (h : Text.hexDigit m = Text.hexDigit n) : m % 16 = n % 16 := by
  have hdigits : ∀ a < 16, ∀ b < 16, Text.hexDigit a = Text.hexDigit b → a = b := by decide
  have hmod (k : ℕ) : Text.hexDigit k = Text.hexDigit (k % 16) := by simp [Text.hexDigit]
  rw [hmod m, hmod n] at h
  exact hdigits _ (Nat.mod_lt _ (by decide)) _ (Nat.mod_lt _ (by decide)) h

theorem Text.hexDigits_injOn (width : ℕ) :
    Set.InjOn (Text.hexDigits width) (Set.Iio (16 ^ width)) := by
  induction width with
  | zero =>
      intro m hm n hn _
      simp only [Nat.pow_zero, Set.mem_Iio, Nat.lt_one_iff] at hm hn
      rw [hm, hn]
  | succ width ih =>
      intro m hm n hn h
      rw [Text.hexDigits, Text.hexDigits] at h
      obtain ⟨hfront, hlast⟩ := List.append_inj' h rfl
      rw [Set.mem_Iio, Nat.pow_succ] at hm hn
      have hdiv : m / 16 = n / 16 :=
        ih (Nat.div_lt_of_lt_mul (by omega)) (Nat.div_lt_of_lt_mul (by omega)) hfront
      have hmod := Text.hexDigit_inj (List.singleton_inj.mp hlast)
      omega

/-- The supply gives no identifier twice as long as it has digits to number them with. -/
theorem IdKind.id_injOn (kind : IdKind) : Set.InjOn kind.id (Set.Iio (16 ^ idWidth)) := by
  intro m hm n hn h
  have hdigits : String.ofList (Text.hexDigits idWidth m) =
      String.ofList (Text.hexDigits idWidth n) := by simpa [IdKind.id] using h
  exact Text.hexDigits_injOn idWidth hm hn (String.ofList_injective hdigits)

/-! ## Keys -/

/-- Every table, column and path stands once, and a limit is positive. -/
structure Configuration.Keyed (c : Configuration String) : Prop where
  tables : (c.tables.map Table.key).Nodup
  columns : (c.columns.map Column.key).Nodup
  groupBy : c.groupBy.Nodup
  orderBy : (c.orderBy.map Ordering.column).Nodup
  limit : ∀ n, c.limit = some n → 0 < n

/-- The conditions are numbered upwards, with numbers that were taken past a start. -/
def Configuration.Numbered (start supply : IdSupply) (c : Configuration String) : Prop :=
  ∃ numbers : List ℕ, c.conditions.map Condition.id = numbers.map (IdKind.id .condition) ∧
    numbers.Pairwise (· < ·) ∧ ∀ n ∈ numbers, n ∈ Set.Ioc start.taken supply.taken

theorem nodup_map_concat {α β : Type} {f : α → β} {xs : List α} {x : α} (h : (xs.map f).Nodup)
    (hx : f x ∉ xs.map f) : ((xs ++ [x]).map f).Nodup := by
  rw [List.map_append, List.map_singleton, ← List.concat_eq_append]
  exact h.concat hx

variable {c d : Configuration String} {e : Edit String} {start supply left : IdSupply}
  {allowed : Edit String → Prop}

theorem Effect.keyed (h : Effect c e supply left d) (hc : c.Keyed) : d.Keyed := by
  cases h with
  | unchanged => exact hc
  | table hnew => exact { hc with tables := nodup_map_concat hc.tables hnew }
  | renamed he hkeys => exact { hc with tables := hkeys ▸ hc.tables }
  | withoutTable ht =>
      exact {
        tables := hc.tables.sublist (List.filter_sublist.map _)
        columns := hc.columns.sublist (List.filter_sublist.map _)
        groupBy := hc.groupBy.sublist List.filter_sublist
        orderBy := hc.orderBy.sublist (List.filter_sublist.map _)
        limit := hc.limit }
  | column hnew htables hown =>
      have hcolumns := nodup_map_concat hc.columns hnew
      rcases htables with rfl | ⟨t, ht, rfl⟩
      · exact { hc with columns := hcolumns }
      · exact { hc with tables := nodup_map_concat hc.tables ht, columns := hcolumns }
  | columns hkeys =>
      obtain ⟨kept, hperm, hkept⟩ := hkeys
      exact { hc with columns := hperm.nodup_iff.mp (hc.columns.sublist hkept) }
  | joins hnamed => exact { hc with }
  | condition hid hfree htaken => exact { hc with }
  | conditions hids => exact { hc with }
  | path hnew => exact { hc with groupBy := List.concat_eq_append ▸ hc.groupBy.concat hnew }
  | groupBy hkept => exact { hc with groupBy := hc.groupBy.sublist hkept }
  | ordering hnew => exact { hc with orderBy := nodup_map_concat hc.orderBy hnew }
  | orderBy hkept => exact { hc with orderBy := hc.orderBy.sublist hkept }
  | limit hlimit => exact { hc with limit := hlimit }
  | distinct => exact { hc with }

theorem Configuration.Numbered.mono (h : c.Numbered start supply)
    (hle : supply.taken ≤ left.taken) : c.Numbered start left := by
  obtain ⟨numbers, hids, hup, hin⟩ := h
  exact ⟨numbers, hids, hup, fun n hn => ⟨(hin n hn).1, (hin n hn).2.trans hle⟩⟩

theorem Configuration.Numbered.sublist (h : c.Numbered start supply)
    (hids : (d.conditions.map Condition.id).Sublist (c.conditions.map Condition.id)) :
    d.Numbered start supply := by
  obtain ⟨numbers, hnumbers, hup, hin⟩ := h
  rw [hnumbers] at hids
  obtain ⟨fewer, hfewer, hd⟩ := List.sublist_map_iff.mp hids
  exact ⟨fewer, hd, hup.sublist hfewer, fun n hn => hin n (hfewer.subset hn)⟩

theorem Effect.numbered (h : Effect c e supply left d) (hle : supply.taken ≤ left.taken)
    (hstart : start.taken ≤ supply.taken) (hc : c.Numbered start supply) :
    d.Numbered start left := by
  have hsame : c.Numbered start left := hc.mono hle
  cases h with
  | @condition x n hid hfree htaken =>
      obtain ⟨numbers, hids, hup, hin⟩ := hc
      -- the number is past all that were taken, so the list goes on upwards
      refine ⟨numbers ++ [n], ?_, ?_, ?_⟩
      · rw [List.map_append, hids, List.map_append, List.map_singleton, List.map_singleton, hid]
      · refine List.pairwise_append.mpr ⟨hup, List.pairwise_singleton .., ?_⟩
        intro m hm k hk
        rw [List.mem_singleton.mp hk]
        exact (hin m hm).2.trans_lt hfree
      · refine List.forall_mem_append.mpr ⟨fun m hm => ?_, ?_⟩
        · exact ⟨(hin m hm).1, (hin m hm).2.trans hle⟩
        · exact List.forall_mem_singleton.mpr ⟨hstart.trans_lt hfree, htaken⟩
  | conditions hids => exact hsame.sublist hids
  | withoutTable ht => exact hsame.sublist (List.filter_sublist.map _)
  | unchanged | table | renamed | column | columns | joins | path | groupBy | ordering | orderBy
    | limit | distinct => exact hsame

/-- What is kept along the way: keys, numbers, and that the supply only shrinks. -/
theorem Reached.keyed_numbered (h : Reached allowed start c supply) :
    c.Keyed ∧ c.Numbered start supply ∧ start.taken ≤ supply.taken := by
  induction h with
  | empty =>
      refine ⟨?_, ⟨[], rfl, .nil, by simp⟩, le_rfl⟩
      constructor <;> simp [Configuration.empty]
  | taken _ hle ih => exact ⟨ih.1, ih.2.1.mono hle, ih.2.2.trans hle⟩
  | edit _ _ h ih =>
      obtain ⟨heffect, hle⟩ := Configuration.edit_effect h
      exact ⟨heffect.keyed ih.1, heffect.numbered hle ih.2.2 ih.2.1, ih.2.2.trans hle⟩

/-- Two joined tables with a column and a condition on each. -/
def joinedOrders : Configuration String where
  tables := [⟨"users", "public", none⟩, ⟨"orders", "public", none⟩]
  columns := [⟨"users", "name", "public", none, none, []⟩, ⟨"orders", "total", "", none, none, []⟩]
  joins := [⟨"public.users", "", "public.orders", "", .inner, [], "join_000000000001"⟩]
  conditions := [⟨"users.status", .term .eq, "active", none, "condition_000000000002"⟩,
    ⟨"orders.total", .term .gt, "10", some (.term .and), "condition_000000000003"⟩]
  limit := some 20

/-- A third table comes and goes, with a column that names it by its alias. -/
def joiningOrders : List (Edit String) :=
  [.addColumn ⟨"users", "name", "public", none, none, []⟩, .addTable ⟨"orders", "public", none⟩,
    .addTable ⟨"items", "", some "i"⟩, .addColumn ⟨"i", "price", "", none, none, []⟩,
    .addColumn ⟨"orders", "total", "", none, none, []⟩, .addJoin none,
    .addCondition { column := "users.status", value := "active" }, .removeTable "" "items",
    .addCondition { column := "orders.total", operator := ">", value := "10" },
    .setLimit (.int 20)]

/-- Midway the third table is there, and the join is made. -/
def joinedOrdersWithItems : Configuration String where
  tables := joinedOrders.tables ++ [⟨"items", "", some "i"⟩]
  columns := [⟨"users", "name", "public", none, none, []⟩, ⟨"i", "price", "", none, none, []⟩,
    ⟨"orders", "total", "", none, none, []⟩]
  joins := joinedOrders.joins

theorem reached_joinedOrders : Reached Edit.keepsAliases {} joinedOrders ⟨3⟩ := by
  have hallowed : ∀ e ∈ joiningOrders, e.keepsAliases := by
    simp [joiningOrders, Edit.keepsAliases]
  have hfirst : ((joiningOrders.take 6).foldlM Configuration.edit .empty).outcome {} =
      (.ok joinedOrdersWithItems, ⟨1⟩) := rfl
  have hrest : ((joiningOrders.drop 6).foldlM Configuration.edit joinedOrdersWithItems).outcome
      ⟨1⟩ = (.ok joinedOrders, ⟨3⟩) := by cbv
  have hmidway := Reached.empty.edits (fun e he => hallowed e (List.mem_of_mem_take he)) hfirst
  exact hmidway.edits (fun e he => hallowed e (List.mem_of_mem_drop he)) hrest

/-- Nothing stands twice in a configuration that edits lead to, as long as the supply gives
no identifier of a condition twice. -/
theorem Reached.distinct (h : Reached (fun _ => True) start c supply)
    (hids : Set.InjOn (IdKind.id .condition) (Set.Ioc start.taken supply.taken)) :
    (c.tables.map fun t => (t.schema, t.name)).Nodup ∧
      (c.columns.map fun col => (col.schema, col.table, col.name)).Nodup ∧
      c.groupBy.Nodup ∧ (c.orderBy.map Ordering.column).Nodup ∧
      (c.conditions.map Condition.id).Nodup ∧ ∀ n, c.limit = some n → 0 < n := by
  obtain ⟨hkeyed, ⟨numbers, hnumbers, hup, hin⟩, -⟩ := h.keyed_numbered
  refine ⟨hkeyed.tables, hkeyed.columns, hkeyed.groupBy, hkeyed.orderBy, ?_, hkeyed.limit⟩
  have hnodup : numbers.Nodup := hup.imp ne_of_lt
  rw [hnumbers]
  exact hnodup.map_on fun m hm n hn => hids (hin m hm) (hin n hn)

theorem Reached.distinct_joinedOrders :
    Reached (fun _ => True) {} joinedOrders ⟨3⟩ ∧
      Set.InjOn (IdKind.id .condition) (Set.Ioc 0 3) ∧
      (joinedOrders.tables.map fun t => (t.schema, t.name)).Nodup ∧
      (joinedOrders.columns.map fun col => (col.schema, col.table, col.name)).Nodup ∧
      joinedOrders.groupBy.Nodup ∧ (joinedOrders.orderBy.map Ordering.column).Nodup ∧
      (joinedOrders.conditions.map Condition.id).Nodup ∧
      ∀ n, joinedOrders.limit = some n → 0 < n := by
  have hreached := reached_joinedOrders.mono fun _ _ => trivial
  have hids : Set.InjOn (IdKind.id .condition) (Set.Ioc 0 3) :=
    (IdKind.id_injOn .condition).mono fun n hn => hn.2.trans_lt (by decide)
  exact ⟨hreached, hids, hreached.distinct hids⟩

/-! ## References -/

/-- Every column has a selected table, and every join names selected tables. -/
structure Configuration.Referential (c : Configuration String) : Prop where
  columns : ∀ col ∈ c.columns, ∃ t ∈ c.tables, col.belongsTo t = true
  joins : ∀ j ∈ c.joins, c.NamesTables j

/-- With more tables there is no less to refer to. -/
theorem Configuration.NamesTables.mono {j : Join String} (h : c.NamesTables j)
    (hsub : c.tables ⊆ d.tables) : d.NamesTables j := by
  intro reference hside hreference
  obtain ⟨t, ht, hanswers⟩ := h reference hside hreference
  exact ⟨t, hsub ht, hanswers⟩

/-- Whether a column belongs to a table is told by its key. -/
theorem Column.belongsTo_congr {col col' : Column String} (h : col.key = col'.key)
    (t : Table String) : col.belongsTo t = col'.belongsTo t := by
  obtain ⟨hschema, htable, -⟩ : col.schema = col'.schema ∧ col.table = col'.table ∧
      col.name = col'.name := by simpa [Column.key] using h
  rw [Column.belongsTo, Column.belongsTo, hschema, htable]

/-- A table other than the removed one stays, and what refers to it too. -/
theorem Configuration.Referential.withoutTable {t : Table String} (hc : c.Referential)
    (hkeys : (c.tables.map Table.key).Nodup) (ht : t ∈ c.tables) :
    (c.withoutTable t).Referential := by
  have hstays : ∀ u ∈ c.tables, u ≠ t → u ∈ (c.withoutTable t).tables := by
    intro u hu hne
    refine List.mem_filter.mpr ⟨hu, ?_⟩
    rw [Bool.not_eq_true', Bool.eq_false_iff]
    exact fun hkey => hne (List.inj_on_of_nodup_map hkeys hu ht (Table.sameKey_iff.mp hkey))
  constructor
  · intro col hcol
    obtain ⟨hold, hkept⟩ := List.mem_filter.mp hcol
    obtain ⟨u, hu, hbelongs⟩ := hc.columns col hold
    refine ⟨u, hstays u hu ?_, hbelongs⟩
    rintro rfl
    simp [hbelongs] at hkept
  · intro j hj reference hside hreference
    obtain ⟨hold, hkept⟩ := List.mem_filter.mp hj
    obtain ⟨u, hu, hanswers⟩ := hc.joins j hold reference hside hreference
    refine ⟨u, hstays u hu ?_, hanswers⟩
    rintro rfl
    have htouches : j.touches u = true := by
      rw [Join.touches, Bool.or_eq_true, Table.answersTo_iff, Table.answersTo_iff]
      rcases List.mem_pair.mp hside with rfl | rfl
      · exact .inl hanswers
      · exact .inr hanswers
    simp [htouches] at hkept

theorem Effect.keepsReferential (h : Effect c e supply left d) (he : e.keepsAliases)
    (hkeys : (c.tables.map Table.key).Nodup) (hc : c.Referential) : d.Referential := by
  cases h with
  | renamed hrenamed hkeys =>
      rw [hrenamed] at he
      exact he.elim
  | withoutTable ht => exact hc.withoutTable hkeys ht
  | @table t hnew =>
      have hsub : c.tables ⊆ c.tables ++ [t] := List.subset_append_left ..
      refine ⟨fun col hcol => ?_, fun j hj => (hc.joins j hj).mono hsub⟩
      obtain ⟨u, hu, hbelongs⟩ := hc.columns col hcol
      exact ⟨u, hsub hu, hbelongs⟩
  | @column col tables hnew htables hown =>
      have hsub : c.tables ⊆ tables := by
        rcases htables with rfl | ⟨t, -, rfl⟩
        · exact List.Subset.refl _
        · exact List.subset_append_left ..
      refine ⟨List.forall_mem_append.mpr ⟨fun old hold => ?_, ?_⟩,
        fun j hj => (hc.joins j hj).mono hsub⟩
      · obtain ⟨u, hu, hbelongs⟩ := hc.columns old hold
        exact ⟨u, hsub hu, hbelongs⟩
      · exact List.forall_mem_singleton.mpr hown
  | columns hcolumns =>
      refine ⟨fun col hcol => ?_, hc.joins⟩
      -- a column with the same key was there before
      obtain ⟨old, hold, hkey⟩ := List.mem_map.mp (hcolumns.subset (List.mem_map_of_mem hcol))
      obtain ⟨u, hu, hbelongs⟩ := hc.columns old hold
      exact ⟨u, hu, (Column.belongsTo_congr hkey u).symm.trans hbelongs⟩
  | joins hnamed =>
      refine ⟨hc.columns, fun j hj => ?_⟩
      rcases hnamed j hj with ⟨i, hi, hsides⟩ | hchecked
      · intro reference hside
        exact hc.joins i hi reference (hsides ▸ hside)
      · exact hchecked
  | unchanged | condition | conditions | path | groupBy | ordering | orderBy | limit | distinct =>
      exact ⟨hc.columns, hc.joins⟩

/-- Nothing in a configuration that edits lead to is left without its table, as long as they
change no alias. -/
theorem Reached.referential (h : Reached Edit.keepsAliases start c supply) :
    (∀ col ∈ c.columns, ∃ t ∈ c.tables,
      col.table ∈ t.references ∧ (col.schema = "" ∨ col.schema = t.schema)) ∧
    (∀ j ∈ c.joins, ∀ reference ∈ [j.leftTable, j.rightTable], reference ≠ "" →
      ∃ t ∈ c.tables, reference ∈ t.references) := by
  have hreferential : c.Referential := by
    induction h with
    | empty => constructor <;> simp [Configuration.empty]
    | taken _ _ ih => exact ih
    | edit h he hedit ih =>
        exact (Configuration.edit_effect hedit).1.keepsReferential he h.keyed_numbered.1.tables ih
  refine ⟨fun col hcol => ?_, hreferential.joins⟩
  obtain ⟨t, ht, hbelongs⟩ := hreferential.columns col hcol
  exact ⟨t, ht, Column.belongsTo_iff.mp hbelongs⟩

theorem Reached.referential_joinedOrders :
    Reached Edit.keepsAliases {} joinedOrders ⟨3⟩ ∧
      (∀ col ∈ joinedOrders.columns, ∃ t ∈ joinedOrders.tables,
        col.table ∈ t.references ∧ (col.schema = "" ∨ col.schema = t.schema)) ∧
      (∀ j ∈ joinedOrders.joins, ∀ reference ∈ [j.leftTable, j.rightTable], reference ≠ "" →
        ∃ t ∈ joinedOrders.tables, reference ∈ t.references) :=
  ⟨reached_joinedOrders, reached_joinedOrders.referential⟩

end SelectQuery
