import SelectQuery.Proofs.Editing.Cascade
import SelectQuery.Proofs.Editing.Reached

/-!
# Changing an alias

Columns and joins may name a table by its alias. A new alias is given to the table alone,
and what was written with the old one stays as it is, so that it can be left without a
table (`updateTable_dangling`). This is the only way: a change of alias keeps every reference
whole exactly if all that goes by the old alias, and by no other name of the table, finds
another table (`updateTable_referential_iff`).
-/

namespace SelectQuery

open Entry

variable {c : Configuration String} {t u : Table String} {aliasName : Option String}

namespace Table

/-- A table under another alias, or under none. -/
def renamed (t : Table String) (aliasName : Option String) : Table String :=
  { t with aliasName := present? aliasName }

/-- A reference is the alias that a table loses, and no other name of it. -/
def GivesUp (t : Table String) (aliasName : Option String) (reference : String) : Prop :=
  reference ≠ "" ∧ t.aliasName = some reference ∧ aliasName ≠ some reference ∧
    reference ≠ t.name ∧ reference ≠ t.qualifiedName

theorem mem_references_renamed_iff {reference : String} :
    reference ∈ (t.renamed aliasName).references ↔ reference = t.name ∨
      reference = t.qualifiedName ∨ (reference ≠ "" ∧ aliasName = some reference) := by
  simp [references, renamed, qualifiedName, present?, Option.filter_eq_some_iff, and_comm]

/-- What a table gives up is what it answered to and does not answer to any more. -/
theorem givesUp_iff {reference : String} :
    t.GivesUp aliasName reference ↔
      reference ∈ t.references ∧ reference ∉ (t.renamed aliasName).references := by
  have hnow : reference ∈ t.references ↔ reference = t.name ∨ reference = t.qualifiedName ∨
      (reference ≠ "" ∧ t.aliasName = some reference) := by
    simp [references, present?, Option.filter_eq_some_iff, and_comm]
  rw [GivesUp, hnow, mem_references_renamed_iff]
  tauto

end Table

namespace Configuration

/-- The table with a new alias stands among the others, which stay as they are. -/
theorem mem_tables_renamed (hkeys : (c.tables.map Table.key).Nodup) (ht : t ∈ c.tables) :
    u ∈ c.tables.map (fun v => if v.isNamed t.schema t.name then v.renamed aliasName else v) ↔
      u = t.renamed aliasName ∨ (u ∈ c.tables ∧ u ≠ t) := by
  have hself (v : Table String) (hv : v ∈ c.tables) :
      v.isNamed t.schema t.name = true ↔ v = t := by
    rw [Table.isNamed_iff]
    exact ⟨fun hkey => List.inj_on_of_nodup_map hkeys hv ht hkey, fun h => h ▸ rfl⟩
  rw [List.mem_map]
  constructor
  · rintro ⟨v, hv, rfl⟩
    split
    · next hnamed => exact .inl (by rw [(hself v hv).mp hnamed])
    · next hnamed => exact .inr ⟨hv, mt (hself v hv).mpr hnamed⟩
  · rintro (rfl | ⟨hu, hne⟩)
    · exact ⟨t, ht, if_pos ((hself t ht).mpr rfl)⟩
    · exact ⟨u, hu, if_neg (mt (hself u hu).mp hne)⟩

/-- A reference that finds a table still finds one after a change of alias, unless it is the
alias given up: then another table must answer to it. What else is asked of the table does
not depend on its alias. -/
theorem finds_renamed_iff (aliasName : Option String)
    (hkeys : (c.tables.map Table.key).Nodup) (ht : t ∈ c.tables) {reference : String}
    (fits : Table String → Prop) (hfits : fits (t.renamed aliasName) ↔ fits t)
    (hfound : ∃ u ∈ c.tables, reference ∈ u.references ∧ fits u) :
    (∃ u ∈ c.tables.map fun v => if v.isNamed t.schema t.name then v.renamed aliasName else v,
        reference ∈ u.references ∧ fits u) ↔
      (t.GivesUp aliasName reference →
        ∃ u ∈ c.tables, u ≠ t ∧ reference ∈ u.references ∧ fits u) := by
  constructor
  · rintro ⟨u, hu, hanswers, hu'⟩ hgives
    rcases (mem_tables_renamed hkeys ht).mp hu with rfl | ⟨hold, hne⟩
    · exact absurd hanswers (Table.givesUp_iff.mp hgives).2
    · exact ⟨u, hold, hne, hanswers, hu'⟩
  · intro hother
    obtain ⟨u, hu, hanswers, hu'⟩ := hfound
    by_cases hne : u = t
    · subst hne
      by_cases hstill : reference ∈ (u.renamed aliasName).references
      · exact ⟨_, (mem_tables_renamed hkeys ht).mpr (.inl rfl), hstill, hfits.mpr hu'⟩
      · obtain ⟨v, hv, hvne, hfinds⟩ := hother (Table.givesUp_iff.mpr ⟨hanswers, hstill⟩)
        exact ⟨v, (mem_tables_renamed hkeys ht).mpr (.inr ⟨hv, hvne⟩), hfinds⟩
    · exact ⟨u, (mem_tables_renamed hkeys ht).mpr (.inr ⟨hu, hne⟩), hanswers, hu'⟩

/-- A change of alias succeeds for every selected table and keeps the tables apart. It leaves
nothing without a table exactly if all that goes by the alias given up has another one. -/
theorem updateTable_referential_iff (hkeys : (c.tables.map Table.key).Nodup)
    (hc : c.Referential) (ht : t ∈ c.tables) (aliasName : Option String) :
    ∃ d, c.updateTable t.schema t.name aliasName = .ok d ∧ (d.tables.map Table.key).Nodup ∧
      (d.Referential ↔
        (∀ col ∈ c.columns, t.GivesUp aliasName col.table →
          ∃ u ∈ c.tables, u ≠ t ∧ col.belongsTo u = true) ∧
        (∀ j ∈ c.joins, ∀ reference ∈ j.sides, t.GivesUp aliasName reference →
          ∃ u ∈ c.tables, u ≠ t ∧ reference ∈ u.references)) := by
  have hnamed : c.tables.any (·.isNamed t.schema t.name) = true :=
    List.any_eq_true.mpr ⟨t, ht, Table.isNamed_iff.mpr rfl⟩
  let tables := c.tables.map fun v =>
    if v.isNamed t.schema t.name then v.renamed aliasName else v
  have hsame : tables.map Table.key = c.tables.map Table.key := by
    rw [List.map_map]
    refine List.map_congr_left fun v _ => ?_
    rw [Function.comp_apply]
    split <;> rfl
  have hcolumn (col : Column String) (hcol : col ∈ c.columns) :
      (∃ u ∈ tables, col.belongsTo u = true) ↔ (t.GivesUp aliasName col.table →
        ∃ u ∈ c.tables, u ≠ t ∧ col.belongsTo u = true) := by
    have hfound := hc.columns col hcol
    simp only [Column.belongsTo_iff] at hfound ⊢
    exact finds_renamed_iff aliasName hkeys ht
      (fun u => col.schema = "" ∨ col.schema = u.schema) Iff.rfl hfound
  have hside (j : Join String) (hj : j ∈ c.joins) (reference : String)
      (hmem : reference ∈ j.sides) (hreference : reference ≠ "") :
      (∃ u ∈ tables, reference ∈ u.references) ↔ (t.GivesUp aliasName reference →
        ∃ u ∈ c.tables, u ≠ t ∧ reference ∈ u.references) := by
    obtain ⟨u, hu, hanswers⟩ := hc.joins j hj reference hmem hreference
    have hfinds := finds_renamed_iff aliasName hkeys ht (fun _ => True) Iff.rfl
      ⟨u, hu, hanswers, trivial⟩
    simpa only [and_true] using hfinds
  refine ⟨{ c with tables }, if_pos hnamed, hsame ▸ hkeys, ?_⟩
  constructor
  · rintro ⟨hcolumns, hjoins⟩
    refine ⟨fun col hcol => (hcolumn col hcol).mp (hcolumns col hcol), ?_⟩
    intro j hj reference hmem hgives
    exact (hside j hj reference hmem hgives.1).mp (hjoins j hj reference hmem hgives.1) hgives
  · rintro ⟨hcolumns, hjoins⟩
    refine ⟨fun col hcol => (hcolumn col hcol).mpr (hcolumns col hcol), ?_⟩
    intro j hj reference hmem hreference
    exact (hside j hj reference hmem hreference).mpr (hjoins j hj reference hmem)

/-- Tables with aliases. A column and a side of the join go by the alias of the orders. -/
def aliasedOrders : Configuration String where
  tables := [⟨"users", "public", some "u"⟩, ⟨"orders", "public", some "o"⟩]
  columns := [⟨"users", "name", "public", none, none, []⟩, ⟨"o", "total", "", none, none, []⟩]
  joins := [⟨"users", "id", "o", "user_id", .left, [], "join_000000000001"⟩]

theorem referential_aliasedOrders : aliasedOrders.Referential := by
  constructor <;> simp [aliasedOrders, NamesTables, Join.sides, Column.belongsTo_iff,
    Table.mem_references_iff]

theorem updateTable_referential_iff_orders :
    (aliasedOrders.tables.map Table.key).Nodup ∧ aliasedOrders.Referential ∧
      ⟨"users", "public", some "u"⟩ ∈ aliasedOrders.tables ∧
      ∃ d, aliasedOrders.updateTable "public" "users" (some "o") = .ok d ∧
        (d.tables.map Table.key).Nodup ∧ d.Referential := by
  have hkeys : (aliasedOrders.tables.map Table.key).Nodup := by decide
  have ht : ⟨"users", "public", some "u"⟩ ∈ aliasedOrders.tables := List.mem_cons_self ..
  obtain ⟨d, hd, hdkeys, hiff⟩ :=
    updateTable_referential_iff hkeys referential_aliasedOrders ht (some "o")
  refine ⟨hkeys, referential_aliasedOrders, ht, d, hd, hdkeys, hiff.mpr ?_⟩
  -- nothing goes by the alias of the users
  constructor <;> simp [aliasedOrders, Join.sides, Table.GivesUp]

/-- Taking the alias of the orders away leaves what goes by it without a table. -/
theorem updateTable_dangling :
    (aliasedOrders.tables.map Table.key).Nodup ∧ aliasedOrders.Referential ∧
      ∃ d, aliasedOrders.updateTable "public" "orders" none = .ok d ∧ ¬d.Referential := by
  refine ⟨by decide, referential_aliasedOrders, _, rfl, fun h => ?_⟩
  obtain ⟨t, ht, hbelongs⟩ := h.columns ⟨"o", "total", "", none, none, []⟩
    (by simp [aliasedOrders])
  simp [aliasedOrders, Table.isNamed] at ht
  rcases ht with rfl | rfl <;>
    simp [Column.belongsTo_iff, Table.mem_references_iff, present?] at hbelongs

end Configuration
end SelectQuery
