import SelectQuery.Proofs.Configuration.Reload
import SelectQuery.Proofs.Statement.Alike

/-!
# Configurations are reopened

A configuration that was made by a program is not loaded back as it was: an alias without a
text comes back as none, and in place of an empty identifier there is a fresh one. Neither
is rendered. So what is loaded is rendered alike (`Configuration.load_toValue_alike`), and a
document reopens with the statement that it was written from (`Configuration.IsTyped.reopens`).

A table, a column or an ordering has the value of the loaded one, and the lemma for loaded
records applies. The other records have identifiers, and their loaders are gone through.
-/

namespace SelectQuery

open Value

variable {ν : Type} [Entry ν]

/-! ## What is asked of a configuration -/

/-- A condition whose parts are of their types: its words are terms and its value is text. -/
structure Condition.IsTyped (x : Condition ν) : Prop where
  operator : ∃ op, x.operator = .term op
  value : ∃ s, Entry.toValue x.value = .text s
  connector : ∃ k : Option LogicalOperator, x.connector = k.map .term

/-- A configuration whose parts are of their types. Its entries may be any that can stand in
a document and are not null, as all texts are. -/
structure Configuration.IsTyped (c : Configuration ν) : Prop where
  entries : ∀ v ∈ c.entries, Entry.toValue v ≠ .null
  documents : ∀ v ∈ c.entries, (Entry.toValue v).IsDocument
  conditions : ∀ x ∈ c.conditions, x.IsTyped
  directions : ∀ o ∈ c.orderBy, ∃ d, o.direction = .term d
  distinct : ∃ on, c.distinct = .known on

/-- A configuration is written, and what was written is loaded as a configuration with the
same statement in both modes, whatever identifiers are taken on the way. -/
structure Configuration.Reopens (c : Configuration ν) : Prop where
  /-- It is written, but for a limit with too many digits. -/
  written : c.wireFault? = none → (∀ n ∈ c.limit, (Value.int n).IsDocument) →
    c.document = .ok c.toJson
  reopened : ∀ document, c.document = .ok document → (Configuration.ofJson document).Succeeds
    fun d => ∀ mode, d.build mode = Statement.values <$> c.build mode

/-! ## Records without an identifier -/

theorem Entry.isPresent_of_mem_present? (v : Option ν) :
    ∀ a ∈ (Entry.present? v).map Entry.toValue, a.isPresent = true := by
  intro a ha
  obtain ⟨w, hw, rfl⟩ := Option.mem_map.mp ha
  exact (Option.mem_filter_iff.mp hw).2

theorem Table.load_toValue_alike {t : Table ν} (ht : ∀ v ∈ t.entries, Entry.toValue v ≠ .null) :
    ∃ u, Table.load t.toValue = .ok u ∧ t.Alike u := by
  let u : Table Value := ⟨Entry.toValue t.name, Entry.toValue t.schema,
    (Entry.present? t.aliasName).map Entry.toValue⟩
  have halias : Entry.present? u.aliasName = u.aliasName :=
    Entry.present?_eq_self (Entry.isPresent_of_mem_present? t.aliasName)
  obtain ⟨hname, hschema, -⟩ := forall_entries.mp ht
  have hloaded : u.IsLoaded := ⟨hname, hschema, Entry.isPresent_of_mem_present? t.aliasName⟩
  have hvalue : t.toValue = u.toValue := by
    unfold toValue
    rw [halias, Entry.map_toValue_value]
    rfl
  refine ⟨u, ?_, rfl, rfl, halias⟩
  rw [hvalue]
  exact Table.load_toValue hloaded

theorem Column.load_toValue_alike {c : Column ν} (hc : ∀ v ∈ c.entries, Entry.toValue v ≠ .null)
    (path : String) : ∃ d, Column.load c.toValue path = .ok d ∧ c.Alike d := by
  let d : Column Value := ⟨Entry.toValue c.table, Entry.toValue c.name, Entry.toValue c.schema,
    (Entry.present? c.aliasName).map Entry.toValue, c.function, c.params.map Entry.toValue⟩
  have halias : Entry.present? d.aliasName = d.aliasName :=
    Entry.present?_eq_self (Entry.isPresent_of_mem_present? c.aliasName)
  obtain ⟨htable, hname, hschema, -⟩ := forall_entries.mp hc
  have hloaded : d.IsLoaded :=
    ⟨htable, hname, hschema, Entry.isPresent_of_mem_present? c.aliasName⟩
  have hid : d.id = c.id := by
    have hparts : d.parts = c.parts.map Entry.toValue :=
      List.filter_map (l := [c.schema, c.table, c.name])
    unfold Column.id
    rw [hparts, List.map_map]
    rfl
  have hvalue : c.toValue = d.toValue := by
    unfold toValue
    rw [hid, halias, Entry.map_toValue_value, Entry.map_toValue_values]
    simp [d]
  refine ⟨d, ?_, rfl, rfl, rfl, halias, rfl⟩
  rw [hvalue]
  exact Column.load_toValue hloaded path

theorem Ordering.load_toValue_alike {o : Ordering ν} (hcolumn : Entry.toValue o.column ≠ .null)
    (hdirection : ∃ d, o.direction = .term d) (path : String) :
    ∃ p, Ordering.load o.toValue path = .ok p ∧ o.Alike p :=
  ⟨⟨Entry.toValue o.column, o.direction⟩,
    Ordering.load_toValue (o := ⟨Entry.toValue o.column, o.direction⟩) ⟨hcolumn, hdirection⟩ path,
    rfl, rfl⟩

/-! ## Records with an identifier -/

/-- An identifier is found or taken. -/
theorem loadId_succeeds (fields : List (String × Value)) (kind : IdKind) :
    (loadId (.object fields) kind).Succeeds fun _ => True := by
  refine Build.Succeeds.bind_ofExcept (pickPresent_of_field rfl) ?_
  cases (field? "id" fields).filter isPresent with
  | some id => exact Build.Succeeds.pure trivial
  | none =>
      refine Build.Succeeds.bind (P := fun _ => True) ?_ fun _ _ => Build.Succeeds.pure trivial
      exact Build.Succeeds.freshId fun _ => trivial

theorem JoinCondition.load_toValue_alike {c : JoinCondition ν}
    (hc : ∀ v ∈ c.entries, Entry.toValue v ≠ .null) :
    (JoinCondition.load c.toValue).Succeeds c.Alike := by
  obtain ⟨hleft, hright, -⟩ := forall_entries.mp hc
  refine Build.Succeeds.bind_ofExcept (pickText_of_field rfl hleft) ?_
  refine Build.Succeeds.bind_ofExcept (pickText_of_field rfl hright) ?_
  exact (loadId_succeeds _ _).bind fun _ _ => Build.Succeeds.pure ⟨rfl, rfl⟩

theorem Join.load_toValue_alike {j : Join ν} (hj : ∀ v ∈ j.entries, Entry.toValue v ≠ .null)
    (path : String) : (Join.load j.toValue path).Succeeds j.Alike := by
  obtain ⟨hleftTable, hleftColumn, hrightTable, hrightColumn, -, hconditions⟩ :=
    forall_entries.mp hj
  refine Build.Succeeds.bind_ofExcept (pick_of_field rfl (by simp)) ?_
  refine Build.Succeeds.bind_ofExcept (pick_of_field rfl (by simp)) ?_
  refine Build.Succeeds.bind_ofExcept (pickText_of_field rfl hleftTable) ?_
  refine Build.Succeeds.bind_ofExcept (pickText_of_field rfl hleftColumn) ?_
  refine Build.Succeeds.bind_ofExcept (pickText_of_field rfl hrightTable) ?_
  refine Build.Succeeds.bind_ofExcept (pickText_of_field rfl hrightColumn) ?_
  refine Build.Succeeds.bind_ofExcept (Term.ofValue_word j.type _) ?_
  refine Build.Succeeds.bind_ofExcept rfl ?_
  refine Build.Succeeds.bind (Build.Succeeds.mapM fun c hc =>
    JoinCondition.load_toValue_alike (hconditions c hc)) fun conditions halike => ?_
  exact (loadId_succeeds _ _).bind fun _ _ =>
    Build.Succeeds.pure ⟨rfl, rfl, rfl, rfl, rfl, halike⟩

theorem Condition.load_toValue_alike {x : Condition ν} (hx : x.IsTyped)
    (hcolumn : Entry.toValue x.column ≠ .null) (path : String) :
    (Condition.load x.toValue path).Succeeds x.Alike := by
  obtain ⟨column, operator, value, connector, id⟩ := x
  obtain ⟨⟨op, rfl⟩, ⟨s, hvalue⟩, ⟨k, rfl⟩⟩ := hx
  have hconnector : Value.pick (Condition.mk column (.term op) value (k.map .term) id).toValue
      ["logicalOperator", "logical_operator"] = .ok (k.map fun k => .text (Term.word k)) :=
    pick_of_optional (by cases k <;> simp [Entered.text]) (by cases k <;> simp) (by simp)
  refine Build.Succeeds.bind_ofExcept hconnector ?_
  refine Build.Succeeds.bind_ofExcept (pickText_of_field rfl (by simp [hvalue])) ?_
  refine Build.Succeeds.bind_ofExcept (pickText_of_field rfl hcolumn) ?_
  refine Build.Succeeds.bind_ofExcept (pick_of_field rfl (by simp)) ?_
  refine Build.Succeeds.bind_ofExcept (Term.ofValue_word op _) ?_
  refine Build.Succeeds.bind_ofExcept (Term.ofPresent_word k _) ?_
  refine (loadId_succeeds _ _).bind fun _ _ => Build.Succeeds.pure ⟨rfl, rfl, ?_, rfl⟩
  -- the value is loaded as the text that displays it, which a text is itself
  show Value.text (Entry.toValue value).display = Entry.toValue value
  rw [hvalue]
  rfl

/-! ## Configurations -/

/-- What is loaded from the value of a configuration is rendered like it. -/
theorem Configuration.load_toValue_alike {c : Configuration ν} (hc : c.IsTyped) :
    (Configuration.load c.toValue).Succeeds c.Alike := by
  obtain ⟨tables, columns, joins, conditions, groupBy, orderBy, limit, distinct⟩ := c
  obtain ⟨hentries, -, hconditions, hdirections, ⟨on, rfl⟩⟩ := hc
  obtain ⟨htables, hcolumns, hjoins, hcolumnOf, -, horderBy⟩ := forall_entries.mp hentries
  have hpick : Value.pick (Configuration.mk tables columns joins conditions groupBy orderBy limit
      (.known on)).toValue ["limit"] = .ok (limit.map .int) :=
    pick_of_optional (by simp) (by cases limit <;> simp) (by simp)
  have hlimit : loadLimit (limit.map .int) = .ok limit := by cases limit <;> rfl
  -- the fields in the order of the loader, which asks for the limit first
  refine Build.Succeeds.bind_ofExcept hpick ?_
  refine Build.Succeeds.bind_ofExcept (pick_of_field rfl (by simp)) ?_
  refine Build.Succeeds.bind_ofExcept rfl ?_
  refine Build.Succeeds.bind (Build.Succeeds.mapM (R := Table.Alike) fun t ht => ?_)
    fun loadedTables htables' => ?_
  · obtain ⟨u, hu, halike⟩ := Table.load_toValue_alike (htables t ht)
    exact Build.Succeeds.ofExcept hu halike
  refine Build.Succeeds.bind_ofExcept (pick_of_field rfl (by simp)) ?_
  refine Build.Succeeds.bind_ofExcept rfl ?_
  refine Build.Succeeds.bind (Build.Succeeds.mapM_zipIdx (R := Column.Alike) (fun x hx i => ?_) 0)
    fun loadedColumns hcolumns' => ?_
  · obtain ⟨y, hy, halike⟩ := Column.load_toValue_alike (hcolumns x hx) _
    exact Build.Succeeds.ofExcept hy halike
  refine Build.Succeeds.bind_ofExcept rfl ?_
  refine Build.Succeeds.bind_ofExcept (itemsOf_present _) ?_
  refine Build.Succeeds.bind (Build.Succeeds.mapM_zipIdx (R := Join.Alike) (fun j hj i =>
    Join.load_toValue_alike (hjoins j hj) _) 0) fun loadedJoins hjoins' => ?_
  refine Build.Succeeds.bind_ofExcept rfl ?_
  refine Build.Succeeds.bind_ofExcept (itemsOf_present _) ?_
  refine Build.Succeeds.bind (Build.Succeeds.mapM_zipIdx (R := Condition.Alike) (fun x hx i =>
    Condition.load_toValue_alike (hconditions x hx)
      (Condition.forall_entries.mp (hcolumnOf x hx)).1 _) 0)
    fun loadedConditions hconditions' => ?_
  refine Build.Succeeds.bind_ofExcept (pick_of_field rfl (by simp)) ?_
  refine Build.Succeeds.bind_ofExcept rfl ?_
  refine Build.Succeeds.bind_ofExcept (pick_of_field rfl (by simp)) ?_
  refine Build.Succeeds.bind_ofExcept rfl ?_
  refine Build.Succeeds.bind (Build.Succeeds.mapM_zipIdx (R := Ordering.Alike) (fun o ho i => ?_) 0)
    fun loadedOrderBy horderBy' => ?_
  · obtain ⟨p, hp, halike⟩ := Ordering.load_toValue_alike (horderBy o ho) (hdirections o ho) _
    exact Build.Succeeds.ofExcept hp halike
  refine Build.Succeeds.bind_ofExcept hlimit ?_
  refine Build.Succeeds.bind_ofExcept rfl ?_
  exact Build.Succeeds.pure
    ⟨htables', hcolumns', hjoins', hconditions', rfl, horderBy', rfl, rfl⟩

theorem Configuration.document_eq_ok {c : Configuration ν} {document : String}
    (h : c.document = .ok document) :
    Json.isWritable c.toValue = true ∧ document = c.toJson := by
  obtain ⟨v, hwire, h⟩ := Except.bind_eq_ok.mp h
  obtain rfl := Configuration.wire_eq_ok hwire
  cases hwritable : Json.isWritable c.toValue with
  | true =>
      rw [hwritable] at h
      exact ⟨rfl, (Except.ok.inj h).symm⟩
  | false =>
      rw [hwritable] at h
      exact absurd h (by simp [throw, throwThe, MonadExceptOf.throw])

/-- The limit of a configuration that can be written has few enough digits. -/
theorem Configuration.isDocument_limit {c : Configuration ν}
    (h : Json.isWritable c.toValue = true) : ∀ n ∈ c.limit, (Value.int n).IsDocument := by
  intro n hn
  rw [toValue, Json.isWritable, Json.fieldsAreWritable_iff] at h
  have hmem : ("limit", Value.int n) ∈ optionalField "limit" (c.limit.map .int) := by
    rw [Option.mem_def.mp hn]
    exact List.mem_singleton_self _
  have hwritable := h ("limit", .int n) (List.mem_append_right _ hmem)
  dsimp only at hwritable
  exact Json.isWritable_int.mp hwritable

namespace Configuration.IsTyped

variable {c : Configuration ν}

theorem isDocument_toValue (hc : c.IsTyped) (hlimit : ∀ n ∈ c.limit, (Value.int n).IsDocument) :
    c.toValue.IsDocument := by
  obtain ⟨on, hon⟩ := hc.distinct
  have hdistinct : c.distinct.toValue.IsDocument := by
    rw [hon]
    exact isDocument_bool on
  exact isDocument_of_parts hdistinct hc.documents hlimit

theorem reopens [LawfulEntry ν] (hc : c.IsTyped) : c.Reopens := by
  constructor
  · intro hwire hlimit
    have hwritable := Json.isWritable_of_isDocument _ (hc.isDocument_toValue hlimit)
    simp [document, wire, hwire, hwritable, toJson, bind, Except.bind, pure, Except.pure]
  · intro document hdocument supply
    obtain ⟨hwritable, rfl⟩ := document_eq_ok hdocument
    have hread := Json.read_write (hc.isDocument_toValue (isDocument_limit hwritable))
    obtain ⟨d, left, hload, halike⟩ := load_toValue_alike hc supply
    refine ⟨d, left, ?_, halike.build⟩
    rw [ofJson, toJson, hread]
    exact hload

end Configuration.IsTyped
end SelectQuery
