import SelectQuery.Proofs.Configuration.Equality
import SelectQuery.Proofs.Configuration.Wire

/-!
# Configurations are loaded back

The value of a loaded configuration loads as the same configuration again, and no new
identifier is taken. Each record has a loader and a writer, and the loader undoes the writer
on records with the marks of loading: a field that is written is found under the first of
its spellings, and a field that is left out is missing under all of them.

Behind a JSON document the same holds, because the values of a configuration that was read
from a document can be held by a document again.
-/

namespace SelectQuery

/-! ## Words of terms -/

/-- A closed list whose words name its terms. -/
class LawfulTerm (τ : Type) [Term τ] : Prop where
  ofText?_word : ∀ t : τ, Term.ofText? (Term.word t) = some t
  word_ne_empty : ∀ t : τ, Term.word t ≠ ""

instance : LawfulTerm AggregateFunction where
  ofText?_word t := by cases t <;> decide
  word_ne_empty t := by cases t <;> decide

instance : LawfulTerm ConditionOperator where
  ofText?_word t := by cases t <;> decide
  word_ne_empty t := by cases t <;> decide

instance : LawfulTerm LogicalOperator where
  ofText?_word t := by cases t <;> decide
  word_ne_empty t := by cases t <;> decide

instance : LawfulTerm JoinType where
  ofText?_word t := by cases t <;> decide
  word_ne_empty t := by cases t <;> decide

instance : LawfulTerm OrderDirection where
  ofText?_word t := by cases t <;> decide
  word_ne_empty t := by cases t <;> decide

namespace Term

variable {τ : Type} [Term τ] [LawfulTerm τ]

theorem ofValue_word (t : τ) (path : String) : ofValue τ (.text (word t)) path = .ok t := by
  rw [ofValue, Value.display, LawfulTerm.ofText?_word]

theorem ofPresent_word (t : Option τ) (path : String) :
    ofPresent τ (t.map fun t => .text (word t)) path = .ok t := by
  cases t with
  | none => rfl
  | some t =>
      have hword : (Value.text (word t)).isPresent = true := by
        simpa [Value.isPresent] using LawfulTerm.word_ne_empty t
      rw [Option.map_some, ofPresent, if_pos hword, ofValue_word]
      rfl

end Term

/-! ## Fields that are written and fields that are left out -/

namespace Value

variable {fields : List (String × Value)} {key : String} {rest : List String} {v : Value}
  {found : Option Value}

theorem pick_of_field (h : field? key fields = some v) (hv : v ≠ .null) :
    (object fields).pick (key :: rest) = .ok (some v) := by
  cases v with
  | null => exact absurd rfl hv
  | _ => simp [pick, h]

theorem pick_of_missing {keys : List String} (h : ∀ key ∈ keys, field? key fields = none) :
    (object fields).pick keys = .ok none := by
  induction keys with
  | nil => rfl
  | cons key rest ih =>
      rw [List.forall_mem_cons] at h
      rw [pick, h.1]
      exact ih h.2

theorem pick_of_optional (h : field? key fields = found) (hnull : .null ∉ found)
    (hrest : ∀ name ∈ rest, field? name fields = none) :
    (object fields).pick (key :: rest) = .ok found := by
  cases found with
  | none => exact pick_of_missing (List.forall_mem_cons.mpr ⟨h, hrest⟩)
  | some v => exact pick_of_field h fun hv => hnull (by simp [hv])

theorem pickText_of_field (h : field? key fields = some v) (hv : v ≠ .null) :
    (object fields).pickText (key :: rest) = .ok v := by
  rw [pickText, pick_of_field h hv]
  rfl

theorem pickPresent_of_field (h : (field? key fields).filter isPresent = found) :
    (object fields).pickPresent [key] = .ok found := by
  subst h
  cases hfield : field? key fields with
  | none =>
      rw [pickPresent, pick_of_missing (by simpa using hfield)]
      rfl
  | some v =>
      cases v with
      | null =>
          rw [pickPresent, pick, hfield]
          rfl
      | _ =>
          rw [pickPresent, pick_of_field hfield (by simp)]
          rfl

end Value

open Value

theorem Value.filter_isPresent {v : Option Value} (h : ∀ a ∈ v, a.isPresent = true) :
    v.filter isPresent = v := by
  cases v with
  | none => rfl
  | some a => exact Option.filter_some_pos (h a rfl)

theorem Entry.present?_eq_self {v : Option Value} (h : ∀ a ∈ v, a.isPresent = true) :
    Entry.present? v = v := filter_isPresent h

/-! ## Loading what was written -/

theorem Table.load_toValue {t : Table Value} (ht : t.IsLoaded) :
    Table.load t.toValue = .ok t := by
  have halias : Value.pickPresent t.toValue ["alias"] = .ok t.aliasName := by
    rw [toValue, Entry.present?_eq_self ht.aliasName, Entry.map_toValue_value]
    refine pickPresent_of_field ?_
    cases h : t.aliasName with
    | none => rfl
    | some a => exact Option.filter_some_pos (ht.aliasName a h)
  refine Except.bind_eq_ok.mpr ⟨_, pickText_of_field rfl ht.name, ?_⟩
  refine Except.bind_eq_ok.mpr ⟨_, pickText_of_field rfl ht.schema, ?_⟩
  exact Except.bind_eq_ok.mpr ⟨_, halias, rfl⟩

theorem Column.load_toValue {c : Column Value} (hc : c.IsLoaded) (path : String) :
    Column.load c.toValue path = .ok c := by
  have hfunction : Value.pick c.toValue ["aggregateFunction", "aggregate_function", "function"] =
      .ok (c.function.map fun f => .text f.word) :=
    pick_of_optional (by simp) (by cases c.function <;> simp) (by simp)
  have hparams : Value.pick c.toValue ["functionParams", "function_params"] =
      .ok (if c.params.isEmpty then none else some (.list c.params)) :=
    pick_of_optional (by simp) (by split <;> simp) (by simp)
  have hitems : itemsOf (if c.params.isEmpty then none else some (.list c.params)) =
      .ok c.params := by
    cases c.params <;> rfl
  have halias : Value.pickPresent c.toValue ["alias"] = .ok c.aliasName :=
    pickPresent_of_field (by
      simp [Entry.present?_eq_self hc.aliasName, filter_isPresent hc.aliasName])
  refine Except.bind_eq_ok.mpr ⟨_, hfunction, ?_⟩
  refine Except.bind_eq_ok.mpr ⟨_, pickText_of_field rfl hc.table, ?_⟩
  refine Except.bind_eq_ok.mpr ⟨_, pickText_of_field rfl hc.name, ?_⟩
  refine Except.bind_eq_ok.mpr ⟨_, pickText_of_field rfl hc.schema, ?_⟩
  refine Except.bind_eq_ok.mpr ⟨_, halias, ?_⟩
  refine Except.bind_eq_ok.mpr ⟨_, Term.ofPresent_word c.function _, ?_⟩
  refine Except.bind_eq_ok.mpr ⟨_, hparams, ?_⟩
  exact Except.bind_eq_ok.mpr ⟨_, hitems, rfl⟩

theorem loadId_of_field {fields : List (String × Value)} {id : Value} {kind : IdKind}
    (h : field? "id" fields = some id) (hid : id.isPresent = true) :
    (loadId (.object fields) kind).Gives id := by
  refine Build.Gives.bind_ofExcept (pickPresent_of_field (by rw [h])) ?_
  rw [Option.filter_some_pos hid]
  exact Build.Gives.pure id

theorem JoinCondition.load_toValue {c : JoinCondition Value} (hc : c.IsLoaded) :
    (JoinCondition.load c.toValue).Gives c := by
  refine Build.Gives.bind_ofExcept (pickText_of_field rfl hc.left) ?_
  refine Build.Gives.bind_ofExcept (pickText_of_field rfl hc.right) ?_
  exact (loadId_of_field rfl hc.id).bind (Build.Gives.pure c)

theorem Join.load_toValue {j : Join Value} (hj : j.IsLoaded) (path : String) :
    (Join.load j.toValue path).Gives j := by
  refine Build.Gives.bind_ofExcept (pick_of_field rfl (by simp)) ?_
  refine Build.Gives.bind_ofExcept (pick_of_field rfl (by simp)) ?_
  refine Build.Gives.bind_ofExcept (pickText_of_field rfl hj.leftTable) ?_
  refine Build.Gives.bind_ofExcept (pickText_of_field rfl hj.leftColumn) ?_
  refine Build.Gives.bind_ofExcept (pickText_of_field rfl hj.rightTable) ?_
  refine Build.Gives.bind_ofExcept (pickText_of_field rfl hj.rightColumn) ?_
  refine Build.Gives.bind_ofExcept (Term.ofValue_word j.type _) ?_
  refine Build.Gives.bind_ofExcept rfl ?_
  refine Build.Gives.bind
    (Build.Gives.mapM fun c hc => JoinCondition.load_toValue (hj.conditions c hc)) ?_
  exact (loadId_of_field rfl hj.id).bind (Build.Gives.pure j)

theorem Condition.load_toValue {c : Condition Value} (hc : c.IsLoaded) (path : String) :
    (Condition.load c.toValue path).Gives c := by
  obtain ⟨column, operator, value, connector, id⟩ := c
  -- a loaded condition has terms where an entered one may have any text
  obtain ⟨hcolumn, ⟨op, rfl⟩, ⟨s, rfl⟩, ⟨k, rfl⟩, hid⟩ := hc
  have hconnector : Value.pick (Condition.mk column (.term op) (.text s) (k.map .term) id).toValue
      ["logicalOperator", "logical_operator"] = .ok (k.map fun k => .text (Term.word k)) :=
    pick_of_optional (by cases k <;> simp [Entered.text]) (by cases k <;> simp) (by simp)
  refine Build.Gives.bind_ofExcept hconnector ?_
  refine Build.Gives.bind_ofExcept (pickText_of_field rfl (by simp)) ?_
  refine Build.Gives.bind_ofExcept (pickText_of_field rfl hcolumn) ?_
  refine Build.Gives.bind_ofExcept (pick_of_field rfl (by simp)) ?_
  refine Build.Gives.bind_ofExcept (Term.ofValue_word op _) ?_
  refine Build.Gives.bind_ofExcept (Term.ofPresent_word k _) ?_
  exact (loadId_of_field rfl hid).bind (Build.Gives.pure _)

theorem Ordering.load_toValue {o : Ordering Value} (ho : o.IsLoaded) (path : String) :
    Ordering.load o.toValue path = .ok o := by
  obtain ⟨column, direction⟩ := o
  obtain ⟨hcolumn, ⟨d, rfl⟩⟩ := ho
  refine Except.bind_eq_ok.mpr ⟨_, pickText_of_field rfl hcolumn, ?_⟩
  refine Except.bind_eq_ok.mpr ⟨_, pick_of_field rfl (by simp), ?_⟩
  exact Except.bind_eq_ok.mpr ⟨_, Term.ofValue_word d _, rfl⟩

theorem itemsOf_present (items : List Value) :
    itemsOf ((some (.list items)).filter isPresent) = .ok items := by
  cases items <;> rfl

/-- A loaded configuration is loaded back from its value, and nothing is taken from the
supply of identifiers. -/
theorem Configuration.load_toValue {c : Configuration Value} (hc : c.IsLoaded) :
    (Configuration.load c.toValue).Gives c := by
  obtain ⟨tables, columns, joins, conditions, groupBy, orderBy, limit, distinct⟩ := c
  obtain ⟨htables, hcolumns, hjoins, hconditions, horderBy, ⟨on, rfl⟩⟩ := hc
  have hpick : Value.pick (Configuration.mk tables columns joins conditions groupBy orderBy limit
      (.known on)).toValue ["limit"] = .ok (limit.map .int) :=
    pick_of_optional (by simp) (by cases limit <;> simp) (by simp)
  have hlimit : loadLimit (limit.map .int) = .ok limit := by cases limit <;> rfl
  -- the fields in the order of the loader, which asks for the limit first
  refine Build.Gives.bind_ofExcept hpick ?_
  refine Build.Gives.bind_ofExcept (pick_of_field rfl (by simp)) ?_
  refine Build.Gives.bind_ofExcept rfl ?_
  refine Build.Gives.bind (Build.Gives.mapM fun t ht =>
    Build.Gives.ofExcept (Table.load_toValue (htables t ht))) ?_
  refine Build.Gives.bind_ofExcept (pick_of_field rfl (by simp)) ?_
  refine Build.Gives.bind_ofExcept rfl ?_
  refine Build.Gives.bind (Build.Gives.mapM_zipIdx (fun x hx i =>
    Build.Gives.ofExcept (Column.load_toValue (hcolumns x hx) _)) 0) ?_
  refine Build.Gives.bind_ofExcept rfl ?_
  refine Build.Gives.bind_ofExcept (itemsOf_present _) ?_
  refine Build.Gives.bind (Build.Gives.mapM_zipIdx (fun j hj i =>
    Join.load_toValue (hjoins j hj) _) 0) ?_
  refine Build.Gives.bind_ofExcept rfl ?_
  refine Build.Gives.bind_ofExcept (itemsOf_present _) ?_
  refine Build.Gives.bind (Build.Gives.mapM_zipIdx (fun x hx i =>
    Condition.load_toValue (hconditions x hx) _) 0) ?_
  refine Build.Gives.bind_ofExcept (pick_of_field rfl (by simp)) ?_
  refine Build.Gives.bind_ofExcept rfl ?_
  refine Build.Gives.bind_ofExcept (pick_of_field rfl (by simp)) ?_
  refine Build.Gives.bind_ofExcept rfl ?_
  refine Build.Gives.bind (Build.Gives.mapM_zipIdx (fun o ho i =>
    Build.Gives.ofExcept (Ordering.load_toValue (horderBy o ho) _)) 0) ?_
  refine Build.Gives.bind_ofExcept hlimit ?_
  refine Build.Gives.bind_ofExcept rfl ?_
  rw [Entry.map_toValue_values]
  exact Build.Gives.pure _

theorem Subquery.load_toValue {s : Subquery Value} (hs : s.IsLoaded) :
    (Subquery.load s.toValue).Gives s := by
  refine Build.Gives.bind_ofExcept (pickText_of_field rfl hs.name) ?_
  refine Build.Gives.bind_ofExcept (pickText_of_field rfl hs.aliasName) ?_
  refine Build.Gives.bind_ofExcept (pick_of_field rfl (by simp [Configuration.toValue])) ?_
  refine (Configuration.load_toValue hs.config).bind ?_
  exact (loadId_of_field rfl hs.id).bind (Build.Gives.pure s)

/-! ## The round trip -/

/-- Whatever a configuration was loaded from, its value loads as the same configuration and
takes no identifier. If it was loaded from a value that a document can hold, the document
written from it loads as the same configuration too; and that configuration is equal to
itself unless NaN stands in one of its entries. A subquery is loaded back from its value in
the same way. -/
theorem load_wire (data : Value) (supply : IdSupply) :
    (∀ c left v, (Configuration.load data).outcome supply = (.ok c, left) → c.wire = .ok v →
      (∀ next, (Configuration.load v).outcome next = (.ok c, next)) ∧
      (data.IsDocument →
        (∀ next, (Configuration.ofJson c.toJson).outcome next = (.ok c, next)) ∧
        ((∀ x ∈ c.entries, x.IsNaNFree) → c.agrees c = true))) ∧
    ∀ s left v, (Subquery.load data).outcome supply = (.ok s, left) → s.wire = .ok v →
      ∀ next, (Subquery.load v).outcome next = (.ok s, next) := by
  refine ⟨?_, ?_⟩
  · intro c left v hload hwire
    obtain rfl := Configuration.wire_eq_ok hwire
    obtain ⟨hc, -, -⟩ := Configuration.load_spec inherited_true trivial ⟨supply, left, hload⟩
    refine ⟨Configuration.load_toValue hc, fun hdoc => ?_⟩
    -- the same lemma once more, now for the property that carries over to the document
    obtain ⟨-, hentries, hlimit⟩ :=
      Configuration.load_spec inherited_isDocument hdoc ⟨supply, left, hload⟩
    refine ⟨fun next => ?_, fun hfree => ?_⟩
    · have hread := Json.read_write (Configuration.isDocument_toValue hc hentries hlimit)
      rw [Configuration.ofJson, Configuration.toJson, hread]
      exact Configuration.load_toValue hc next
    · refine Configuration.agrees_self (fun x hx => ?_) ?_
      · exact same_self x (hentries x hx) (hfree x hx)
      · obtain ⟨on, hon⟩ := hc.distinct
        rw [hon]
        exact same_self (.bool on) trivial trivial
  · intro s left v hload hwire
    obtain rfl := Subquery.wire_eq_ok hwire
    obtain ⟨hs, -, -⟩ := Subquery.load_spec inherited_true trivial ⟨supply, left, hload⟩
    exact Subquery.load_toValue hs

/-- A table named by a text, and a condition without an identifier. -/
def enteredDocument : Value :=
  .object [("selectedTables", .list [.text "public.users"]),
    ("conditions", .list [.object [("column", .text "users.active"), ("operator", .text " in "),
      ("value", .bool true)]]),
    ("limit", .text "10")]

/-- The configuration that is loaded from it. -/
def enteredConfiguration : Configuration Value where
  tables := [⟨.text "users", .text "public", none⟩]
  conditions := [⟨.text "users.active", .term .isIn, .text "True", none,
    .text "condition_000000000001"⟩]
  limit := some 10

/-- The subquery that is loaded from it: there is no field of its own. -/
def enteredSubquery : Subquery Value where
  name := .text ""
  aliasName := .text ""
  id := .text "subquery_000000000001"

theorem load_wire_entered :
    (Configuration.load enteredDocument).outcome ⟨0⟩ = (.ok enteredConfiguration, ⟨1⟩) ∧
    enteredDocument.IsDocument ∧ (∀ x ∈ enteredConfiguration.entries, x.IsNaNFree) ∧
    (∀ next, (Configuration.load enteredConfiguration.toValue).outcome next =
      (.ok enteredConfiguration, next)) ∧
    (∀ next, (Configuration.ofJson enteredConfiguration.toJson).outcome next =
      (.ok enteredConfiguration, next)) ∧
    enteredConfiguration.agrees enteredConfiguration = true ∧
    (Subquery.load enteredDocument).outcome ⟨0⟩ = (.ok enteredSubquery, ⟨1⟩) ∧
    ∀ next, (Subquery.load enteredSubquery.toValue).outcome next = (.ok enteredSubquery, next) := by
  have hdoc : enteredDocument.IsDocument := by
    simp [enteredDocument, isDocument_object, isDocument_list]
  have hfree : ∀ x ∈ enteredConfiguration.entries, x.IsNaNFree := by
    simp [enteredConfiguration, Configuration.entries, Table.entries, Condition.entries, IsNaNFree]
  obtain ⟨hload, hjson⟩ := (load_wire enteredDocument ⟨0⟩).1 enteredConfiguration ⟨1⟩ _ rfl rfl
  exact ⟨rfl, hdoc, hfree, hload, (hjson hdoc).1, (hjson hdoc).2 hfree, rfl,
    (load_wire enteredDocument ⟨0⟩).2 enteredSubquery ⟨1⟩ _ rfl rfl⟩

end SelectQuery
