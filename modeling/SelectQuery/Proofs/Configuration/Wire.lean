import SelectQuery.Configuration.Wire
import SelectQuery.Proofs.Configuration.Loaded
import SelectQuery.Proofs.Value.Equality

/-!
# The value of a configuration in a document

The value of a configuration can be held by a document if its entries can: the writers put
no name twice into an object, and what they add to the entries is text
(`Configuration.isDocument_toValue`).
-/

namespace SelectQuery

open Value

variable {ν : Type} [Entry ν]

theorem Configuration.wire_eq_ok {c : Configuration ν} {v : Value} (h : c.wire = .ok v) :
    v = c.toValue := by
  rw [wire] at h
  split at h
  · simp at h
  · exact (Except.ok.inj h).symm

theorem Subquery.wire_eq_ok {s : Subquery ν} {v : Value} (h : s.wire = .ok v) :
    v = s.toValue := by
  rw [wire] at h
  split at h
  · simp at h
  · exact (Except.ok.inj h).symm

/-! ## Entries and fields -/

@[simp] theorem Entry.toValue_value (v : Value) : Entry.toValue v = v := rfl

@[simp] theorem Entry.map_toValue_value (v : Option Value) : v.map Entry.toValue = v :=
  congrFun Option.map_id v

@[simp] theorem Entry.map_toValue_values (vs : List Value) : vs.map Entry.toValue = vs :=
  List.map_id vs

@[simp] theorem Value.field?_optionalField (key name : String) (v : Option Value) :
    field? key (optionalField name v) = if key = name then v else none := by
  cases v with
  | none => simp [optionalField]
  | some v => simp [optionalField]

/-- A field of a new name may be added to an object. -/
theorem isDocument_append_optionalField {fields : List (String × Value)} {key : String}
    {v : Option Value} (hfields : (Value.object fields).IsDocument)
    (hnew : field? key fields = none) (hv : ∀ w ∈ v, w.IsDocument) :
    (Value.object (fields ++ optionalField key v)).IsDocument := by
  cases v with
  | none => rwa [optionalField, List.append_nil]
  | some w =>
      have hkey : ∀ field ∈ fields, field.1 ≠ key := by
        intro field hfield h
        have := List.lookup_eq_none_iff.mp hnew field hfield
        simp [h] at this
      rw [isDocument_object] at hfields ⊢
      refine ⟨?_, ?_⟩
      · rw [List.map_append, List.nodup_append]
        refine ⟨hfields.1, by simp [optionalField], ?_⟩
        simpa [optionalField] using fun name x hx => hkey (name, x) hx
      · rw [List.forall_mem_append]
        exact ⟨hfields.2, by simpa [optionalField] using hv w rfl⟩

theorem isDocument_map {α : Type} {items : List α} {write : α → Value}
    (h : ∀ x ∈ items, (write x).IsDocument) : (Value.list (items.map write)).IsDocument := by
  rwa [isDocument_list, List.forall_mem_map]

/-! ## Records -/

theorem Table.isDocument_toValue {t : Table ν}
    (h : ∀ v ∈ t.entries, (Entry.toValue v).IsDocument) : t.toValue.IsDocument := by
  obtain ⟨hname, hschema, halias⟩ := forall_entries.mp h
  have hwritten :
      (((Entry.present? t.aliasName).map Entry.toValue).getD (.text "")).IsDocument := by
    cases hp : Entry.present? t.aliasName with
    | none => exact isDocument_text ""
    | some a => exact halias a (Option.mem_filter_iff.mp hp).1
  refine isDocument_object.mpr ⟨by simp, ?_⟩
  simp [hname, hschema, hwritten]

theorem Column.isDocument_toValue {c : Column ν}
    (h : ∀ v ∈ c.entries, (Entry.toValue v).IsDocument) : c.toValue.IsDocument := by
  obtain ⟨htable, hname, hschema, halias, hparams⟩ := forall_entries.mp h
  rw [Column.toValue]
  refine isDocument_append_optionalField ?_ (by simp) ?_
  · refine isDocument_append_optionalField ?_ (by simp) ?_
    · refine isDocument_append_optionalField ?_ (by simp) ?_
      · refine isDocument_object.mpr ⟨by simp, ?_⟩
        simp [htable, hname, hschema]
      · rintro w hw
        obtain ⟨a, ha, rfl⟩ := Option.mem_map.mp hw
        exact halias a (Option.mem_filter_iff.mp ha).1
    · cases c.function <;> simp
  · split
    · simp
    · simpa [isDocument_list] using hparams

theorem JoinCondition.isDocument_toValue {c : JoinCondition ν}
    (h : ∀ v ∈ c.entries, (Entry.toValue v).IsDocument) : c.toValue.IsDocument := by
  obtain ⟨hleft, hright, hid⟩ := forall_entries.mp h
  refine isDocument_object.mpr ⟨by simp, ?_⟩
  simp [hleft, hright, hid]

theorem Join.isDocument_toValue {j : Join ν}
    (h : ∀ v ∈ j.entries, (Entry.toValue v).IsDocument) : j.toValue.IsDocument := by
  obtain ⟨hleftTable, hleftColumn, hrightTable, hrightColumn, hid, hconditions⟩ :=
    forall_entries.mp h
  have hconditions := isDocument_map fun c hc => JoinCondition.isDocument_toValue (hconditions c hc)
  refine isDocument_object.mpr ⟨by simp, ?_⟩
  simp [hleftTable, hleftColumn, hrightTable, hrightColumn, hid, hconditions]

theorem Condition.isDocument_toValue {c : Condition ν}
    (h : ∀ v ∈ c.entries, (Entry.toValue v).IsDocument) : c.toValue.IsDocument := by
  obtain ⟨hcolumn, hvalue, hid⟩ := forall_entries.mp h
  refine isDocument_append_optionalField ?_ (by simp) ?_
  · refine isDocument_object.mpr ⟨by simp, ?_⟩
    simp [hcolumn, hvalue, hid]
  · cases c.connector <;> simp

theorem Ordering.isDocument_toValue {o : Ordering ν} (h : (Entry.toValue o.column).IsDocument) :
    o.toValue.IsDocument := by
  refine isDocument_object.mpr ⟨by simp, ?_⟩
  simp [h]

/-- If the parts of a configuration can be held by a document, so can the configuration. -/
theorem Configuration.isDocument_of_parts {c : Configuration ν}
    (hdistinct : c.distinct.toValue.IsDocument)
    (hentries : ∀ v ∈ c.entries, (Entry.toValue v).IsDocument)
    (hlimit : ∀ n ∈ c.limit, (Value.int n).IsDocument) : c.toValue.IsDocument := by
  obtain ⟨htables, hcolumns, hjoins, hconditions, hgroupBy, horderBy⟩ :=
    forall_entries.mp hentries
  have htables := isDocument_map fun t ht => Table.isDocument_toValue (htables t ht)
  have hcolumns := isDocument_map fun x hx => Column.isDocument_toValue (hcolumns x hx)
  have hjoins := isDocument_map fun j hj => Join.isDocument_toValue (hjoins j hj)
  have hconditions := isDocument_map fun x hx => Condition.isDocument_toValue (hconditions x hx)
  have hgroupBy := isDocument_map hgroupBy
  have horderBy := isDocument_map fun o ho => Ordering.isDocument_toValue (horderBy o ho)
  refine isDocument_append_optionalField ?_ (by simp) ?_
  · refine isDocument_object.mpr ⟨by simp, ?_⟩
    simp [htables, hcolumns, hjoins, hconditions, hgroupBy, horderBy, hdistinct]
  · simpa using hlimit

/-- If the entries of a loaded configuration can be held by a document, so can the
configuration. -/
theorem Configuration.isDocument_toValue {c : Configuration Value} (hc : c.IsLoaded)
    (hentries : ∀ v ∈ c.entries, v.IsDocument) (hlimit : ∀ n ∈ c.limit, (Value.int n).IsDocument) :
    c.toValue.IsDocument := by
  obtain ⟨on, hon⟩ := hc.distinct
  have hdistinct : c.distinct.toValue.IsDocument := by
    rw [hon]
    exact isDocument_bool on
  exact isDocument_of_parts hdistinct hentries hlimit

end SelectQuery
