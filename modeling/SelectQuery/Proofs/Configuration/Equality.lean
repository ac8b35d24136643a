import SelectQuery.Configuration.Equality
import SelectQuery.Proofs.Configuration.Loaded

/-!
# Configurations that equal themselves

A record is equal to itself if its entries are. With NaN among them it need not be.
-/

namespace SelectQuery

/-! ## Lists and options -/

section Parts

variable {α : Type} {agree : α → α → Bool}

theorem pairwiseAgree_self {items : List α} (h : ∀ x ∈ items, agree x x = true) :
    pairwiseAgree agree items items = true := by
  induction items with
  | nil => rfl
  | cons x rest ih =>
      rw [List.forall_mem_cons] at h
      rw [pairwiseAgree, h.1, ih h.2]
      rfl

theorem optionAgree_self {found : Option α} (h : ∀ x ∈ found, agree x x = true) :
    optionAgree agree found found = true := by
  cases found with
  | none => rfl
  | some x => exact h x rfl

end Parts

/-! ## Records -/

theorem Entered.agrees_self {τ : Type} [Term τ] (e : Entered τ) : e.agrees e = true :=
  beq_self_eq_true e.text

variable {ν : Type} [Entry ν]

theorem Table.agrees_self {t : Table ν} (h : ∀ v ∈ t.entries, Entry.same v v = true) :
    t.agrees t = true := by
  obtain ⟨hname, hschema, halias⟩ := forall_entries.mp h
  simp [agrees, hname, hschema, optionAgree_self halias]

theorem Column.agrees_self {c : Column ν} (h : ∀ v ∈ c.entries, Entry.same v v = true) :
    c.agrees c = true := by
  obtain ⟨htable, hname, hschema, halias, hparams⟩ := forall_entries.mp h
  simp [agrees, htable, hname, hschema, optionAgree_self halias, pairwiseAgree_self hparams]

theorem JoinCondition.agrees_self {c : JoinCondition ν}
    (h : ∀ v ∈ c.entries, Entry.same v v = true) : c.agrees c = true := by
  obtain ⟨hleft, hright, hid⟩ := forall_entries.mp h
  simp [agrees, hleft, hright, hid]

theorem Join.agrees_self {j : Join ν} (h : ∀ v ∈ j.entries, Entry.same v v = true) :
    j.agrees j = true := by
  obtain ⟨hleftTable, hleftColumn, hrightTable, hrightColumn, hid, hconditions⟩ :=
    forall_entries.mp h
  have hconditions := pairwiseAgree_self fun c hc => JoinCondition.agrees_self (hconditions c hc)
  simp [agrees, hleftTable, hleftColumn, hrightTable, hrightColumn, hid, hconditions]

theorem Condition.agrees_self {c : Condition ν} (h : ∀ v ∈ c.entries, Entry.same v v = true) :
    c.agrees c = true := by
  obtain ⟨hcolumn, hvalue, hid⟩ := forall_entries.mp h
  have hconnector := optionAgree_self fun k (_ : k ∈ c.connector) => k.agrees_self
  simp [agrees, hcolumn, hvalue, hid, hconnector, c.operator.agrees_self]

theorem Ordering.agrees_self {o : Ordering ν} (h : Entry.same o.column o.column = true) :
    o.agrees o = true := by
  simp [agrees, h, o.direction.agrees_self]

/-- A configuration whose entries equal themselves equals itself. -/
theorem Configuration.agrees_self {c : Configuration ν}
    (hentries : ∀ v ∈ c.entries, Entry.same v v = true)
    (hdistinct : c.distinct.toValue.same c.distinct.toValue = true) : c.agrees c = true := by
  obtain ⟨htables, hcolumns, hjoins, hconditions, hgroupBy, horderBy⟩ :=
    forall_entries.mp hentries
  have htables := pairwiseAgree_self fun t ht => Table.agrees_self (htables t ht)
  have hcolumns := pairwiseAgree_self fun x hx => Column.agrees_self (hcolumns x hx)
  have hjoins := pairwiseAgree_self fun j hj => Join.agrees_self (hjoins j hj)
  have hconditions := pairwiseAgree_self fun x hx => Condition.agrees_self (hconditions x hx)
  have horderBy := pairwiseAgree_self fun o ho => Ordering.agrees_self (horderBy o ho)
  simp [agrees, htables, hcolumns, hjoins, hconditions, pairwiseAgree_self hgroupBy, horderBy,
    hdistinct]

end SelectQuery
