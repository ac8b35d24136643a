import SelectQuery.Proofs.Configuration.Words
import SelectQuery.Proofs.Statement.Parts
import SelectQuery.Proofs.Statement.Pointwise
import SelectQuery.Proofs.Value.LongRun

/-!
# Documents of the right kind

Loading converts almost nothing, so that a document with a number for a list or an object for
a name fails where the entry is used: while it is loaded, or later while the query is rendered.
`Value.isConfiguration` tells the documents for which that cannot happen. A name is text in
them, whatever tables are looked up by can be looked up, lists can be gone through, and the
limit is a whole number. All else may be of any kind, words and identifiers among it.

Nothing but the words of such a document decides whether it loads (`decides_configuration`): it
is refused for the first that is in no list (`Configuration.load_refused_iff`). What it loads as
is rendered unless an integer that is handed over has too many digits (`fault?_eq_none`).
-/

namespace SelectQuery

/-! ## Checks on documents -/

namespace Value

/-- An object of which some fields have to pass a check. One that is missing or null does. -/
def fits (shape : List (List String × (Value → Bool))) : Value → Bool
  | .object fields => shape.all fun field => (found fields field.1).all field.2
  | _ => false

/-- A value that can be gone through, with items that pass a check. -/
def yields (check : Value → Bool) (v : Value) : Bool := (v.items?.map (·.all check)).getD false

/-- A value that is read as a whole number, or an empty text. -/
def isWhole : Value → Bool
  | .int _ | .bool _ => true
  | .float x => x.truncate?.isSome
  | .text s => s == "" || (Integer.read? s).toBool
  | _ => false

def isTable (v : Value) : Bool :=
  v.isText || v.fits [(["name", "tableName", "table_name"], isText), (["alias"], isAtomic)]

def isColumn : Value → Bool :=
  fits [(["tableName", "table_name"], isAtomic), (["columnName", "column_name"], isText),
    (["functionParams", "function_params"], yields fun _ => true)]

def isJoin : Value → Bool :=
  fits [(["leftTable", "left_table"], isAtomic), (["rightTable", "right_table"], isAtomic),
    (["additionalConditions", "additional_conditions"], yields (fits []))]

/-- An object with a column path, as a condition and an ordering are. -/
def hasColumn : Value → Bool := fits [(["column"], isText)]

/-- A document of a configuration in which no entry is of a kind that it cannot be used as. -/
def isConfiguration : Value → Bool :=
  fits [(["limit"], isWhole), (["selectedTables", "selected_tables"], yields isTable),
    (["selectedColumns", "selected_columns"], yields isColumn),
    (["joins"], fun v => !v.isPresent || v.yields isJoin),
    (["conditions"], fun v => !v.isPresent || v.yields hasColumn),
    (["groupBy", "group_by"], yields isText), (["orderBy", "order_by"], yields hasColumn)]

variable {found : Option Value}

theorem getD_of_all (p : Value → Bool) {d : Value} (h : found.all p = true) (hd : p d = true) :
    p (found.getD d) = true := by
  cases found with
  | none => exact hd
  | some v => exact h

theorem all_filter_isPresent {p : Value → Bool}
    (h : (found.all fun v => !v.isPresent || p v) = true) :
    (found.filter isPresent).all p = true := by
  cases found with
  | none => rfl
  | some v =>
      by_cases hv : v.isPresent = true
      · simpa [Option.filter, hv] using h
      · simp [Option.filter, hv]

end Value

theorem ok_bind {α β : Type} (a : α) (f : α → Except Error β) : (Except.ok a >>= f) = f a := rfl

open Value

/-! ## Loading -/

/-- A table that can be looked up and rendered. -/
structure Table.IsUsable (t : Table Value) : Prop where
  name : t.name.isText = true
  aliasName : ∀ a ∈ t.aliasName, a.isAtomic = true

/-- A column that can be rendered. -/
structure Column.IsUsable (c : Column Value) : Prop where
  table : c.table.isAtomic = true
  name : c.name.isText = true

/-- A join that can be rendered. -/
structure Join.IsUsable (j : Join Value) : Prop where
  leftTable : j.leftTable.isAtomic = true
  rightTable : j.rightTable.isAtomic = true

/-- A condition that can be rendered. -/
structure Condition.IsUsable (c : Condition Value) : Prop where
  column : c.column.isText = true
  value : c.value.isText = true

/-- A configuration of which every entry is of a kind that it can be used as. -/
structure Configuration.IsUsable (c : Configuration Value) : Prop where
  tables : ∀ t ∈ c.tables, t.IsUsable
  columns : ∀ x ∈ c.columns, x.IsUsable
  joins : ∀ j ∈ c.joins, j.IsUsable
  conditions : ∀ x ∈ c.conditions, x.IsUsable
  groupBy : ∀ path ∈ c.groupBy, path.isText = true
  orderBy : ∀ o ∈ c.orderBy, o.column.isText = true

section Loading

variable {v : Value} {found : Option Value} {check : Value → Bool}

theorem decided_itemsOf (h : found.all (yields check) = true) :
    Decided (fun items => items = listed found ∧ ∀ x ∈ items, check x = true) []
      (itemsOf found) := by
  cases found with
  | none => exact .ok ⟨rfl, by simp⟩
  | some v =>
      cases hitems : v.items? with
      | none => simp [yields, hitems] at h
      | some items =>
          rw [itemsOf, hitems]
          exact .ok ⟨by simp [listed, hitems], by simpa [yields, hitems] using h⟩

theorem decides_loadId (fields : List (String × Value)) (kind : IdKind) :
    (loadId (.object fields) kind).Decides [] fun _ => True := by
  rw [loadId, pickPresent_object, Build.ofExcept_ok, pure_bind]
  split
  · exact .pure trivial
  · exact (Build.Decides.freshId kind).bind_nil fun _ _ => .pure trivial

theorem decided_table (h : v.isTable = true) : Decided Table.IsUsable [] (Table.load v) := by
  cases v with
  | text s => exact .ok ⟨rfl, by simp⟩
  | object fields =>
      simp only [isTable, isText, fits, List.all_cons, List.all_nil, Bool.false_or,
        Bool.and_true, Bool.and_eq_true] at h
      simp only [Table.load, pickText_object, pickPresent_object]
      refine .ok ⟨getD_of_all isText h.1 rfl, fun a ha => ?_⟩
      obtain ⟨hfound, -⟩ := Option.filter_eq_some_iff.mp ha
      exact Option.all_eq_true .. |>.mp h.2 a hfound
  | _ => simp [isTable, isText, fits] at h

theorem decided_column (h : v.isColumn = true) (path : String) :
    Decided Column.IsUsable (columnWords path v) (Column.load v path) := by
  cases v with
  | object fields =>
      simp only [isColumn, fits, List.all_cons, List.all_nil, Bool.and_true,
        Bool.and_eq_true] at h
      obtain ⟨htable, hname, hparams⟩ := h
      simp only [Column.load, pick_object, pickText_object, pickPresent_object, ok_bind]
      refine (decided_ofPresent _ _ _).bind_last fun function _ => ?_
      refine (decided_itemsOf hparams).bind_last fun params _ => ?_
      exact .ok ⟨getD_of_all isAtomic htable rfl, getD_of_all isText hname rfl⟩
  | _ => simp [isColumn, fits] at h

theorem decides_joinCondition (h : v.fits [] = true) :
    (JoinCondition.load v).Decides [] fun _ => True := by
  cases v with
  | object fields =>
      simp only [JoinCondition.load, pickText_object, Build.ofExcept_ok, pure_bind]
      exact (decides_loadId fields _).bind_nil fun _ _ => .pure trivial
  | _ => simp [fits] at h

theorem decides_join (h : v.isJoin = true) (path : String) :
    (Join.load v path).Decides (joinWords path v) Join.IsUsable := by
  cases v with
  | object fields =>
      simp only [isJoin, fits, List.all_cons, List.all_nil, Bool.and_true, Bool.and_eq_true] at h
      obtain ⟨hleft, hright, hconditions⟩ := h
      simp only [Join.load, pick_object, pickText_object, Build.ofExcept_ok, pure_bind]
      refine (Build.Decides.ofExcept (decided_ofValue_getD _ .inner (by decide) _ _)).bind_last
        fun type _ => ?_
      refine (Build.Decides.ofExcept (decided_itemsOf hconditions)).bind_nil
        fun items hitems => ?_
      refine (Build.Decides.mapM_nil fun x hx => decides_joinCondition (hitems.2 x hx)).bind_nil
        fun conditions _ => ?_
      refine (decides_loadId fields _).bind_nil fun id _ => .pure ?_
      exact ⟨getD_of_all isAtomic hleft rfl, getD_of_all isAtomic hright rfl⟩
  | _ => simp [isJoin, fits] at h

theorem decides_condition (h : v.hasColumn = true) (path : String) :
    (Condition.load v path).Decides (conditionWords path v) Condition.IsUsable := by
  cases v with
  | object fields =>
      simp only [hasColumn, fits, List.all_cons, List.all_nil, Bool.and_true] at h
      simp only [Condition.load, pick_object, pickText_object, Build.ofExcept_ok, pure_bind]
      refine (Build.Decides.ofExcept (decided_ofValue_getD _ .eq (by decide) _ _)).bind
        fun operator _ => ?_
      refine (Build.Decides.ofExcept (decided_ofPresent _ _ _)).bind_last fun connector _ => ?_
      refine (decides_loadId fields _).bind_nil fun id _ => .pure ?_
      exact ⟨getD_of_all isText h rfl, rfl⟩
  | _ => simp [hasColumn, fits] at h

theorem decided_ordering (h : v.hasColumn = true) (path : String) :
    Decided (fun o => o.column.isText = true) (orderingWords path v) (Ordering.load v path) := by
  cases v with
  | object fields =>
      simp only [hasColumn, fits, List.all_cons, List.all_nil, Bool.and_true] at h
      simp only [Ordering.load, pick_object, pickText_object, ok_bind]
      exact (decided_ofValue_getD _ .asc (by decide) _ _).bind_last fun direction _ =>
        .ok (getD_of_all isText h rfl)
  | _ => simp [hasColumn, fits] at h

theorem decided_toInteger (h : v.isWhole = true) (hv : v ≠ .text "") :
    Decided (fun _ => True) [] v.toInteger := by
  cases v with
  | int n => exact .ok trivial
  | bool b => exact .ok trivial
  | float x =>
      cases x with
      | finite negative mantissa exponent hfits => exact .ok trivial
      | _ => simp [isWhole, Binary64.truncate?] at h
  | text s =>
      have hne : s ≠ "" := fun hs => hv (hs ▸ rfl)
      have hread : (Integer.read? s).toBool = true := by simpa [isWhole, hne] using h
      rw [toInteger]
      split
      · exact .ok trivial
      · next e he =>
          rw [he] at hread
          cases hread
  | _ => simp [isWhole] at h

theorem decided_limit (h : found.all isWhole = true) :
    Decided (fun _ => True) [] (loadLimit found) := by
  cases found with
  | none => exact .ok trivial
  | some v =>
      by_cases hv : v = .text ""
      · subst hv
        exact .ok trivial
      · have hread := (decided_toInteger h hv).map (f := some) (Q := fun _ => True)
          fun _ _ => trivial
        cases v with
        | text s =>
            have hne : s ≠ "" := fun hs => hv (hs ▸ rfl)
            simpa [loadLimit, hne] using hread
        | _ => exact hread

/-- A document of the right kind loads as a configuration that can be used, or it is refused
for the first of its words that is in no list. -/
theorem decides_configuration (h : v.isConfiguration = true) :
    (Configuration.load v).Decides v.words Configuration.IsUsable := by
  cases v with
  | object fields =>
      simp only [isConfiguration, fits, List.all_cons, List.all_nil, Bool.and_true,
        Bool.and_eq_true] at h
      obtain ⟨hlimit, htables, hcolumns, hjoins, hconditions, hgroupBy, horderBy⟩ := h
      simp only [Configuration.load, pick_object, get_object, Build.ofExcept_ok, pure_bind,
        filter_isPresent_field?]
      refine (Build.Decides.ofExcept (decided_itemsOf htables)).bind_nil fun xs hxs => ?_
      refine (Build.Decides.mapM_nil fun x hx =>
        .ofExcept (decided_table (hxs.2 x hx))).bind_nil fun tables htables => ?_
      refine (Build.Decides.ofExcept (decided_itemsOf hcolumns)).bind_nil ?_
      rintro _ ⟨rfl, hxs⟩
      refine (Build.Decides.entries fun x hx i =>
        .ofExcept (decided_column (hxs x hx) _)).bind fun columns hcolumns => ?_
      refine (Build.Decides.ofExcept (decided_itemsOf (all_filter_isPresent hjoins))).bind_nil ?_
      rintro _ ⟨rfl, hxs⟩
      refine (Build.Decides.entries fun x hx i => decides_join (hxs x hx) _).bind
        fun joins hjoins => ?_
      refine (Build.Decides.ofExcept
        (decided_itemsOf (all_filter_isPresent hconditions))).bind_nil ?_
      rintro _ ⟨rfl, hxs⟩
      refine (Build.Decides.entries fun x hx i => decides_condition (hxs x hx) _).bind
        fun conditions hconditions => ?_
      refine (Build.Decides.ofExcept (decided_itemsOf hgroupBy)).bind_nil
        fun groupBy hgroupBy => ?_
      refine (Build.Decides.ofExcept (decided_itemsOf horderBy)).bind_nil ?_
      rintro _ ⟨rfl, hxs⟩
      refine (Build.Decides.entries fun x hx i =>
        .ofExcept (decided_ordering (hxs x hx) _)).bind_last fun orderBy horderBy => ?_
      refine (Build.Decides.ofExcept (decided_limit hlimit)).bind_nil fun limit _ => .pure ?_
      exact ⟨htables, hcolumns, hjoins, hconditions, hgroupBy.2, horderBy⟩
  | _ => simp [isConfiguration, fits] at h

/-- A document of the right kind is refused if and only if one of its words is in no list. The
error names the first of these, with the path of its field. -/
theorem Configuration.load_refused_iff (h : v.isConfiguration = true) (supply : IdSupply) :
    ((∃ e, ((Configuration.load v).outcome supply).1 = .error e) ↔
        ∃ w ∈ v.words, ¬ w.IsKnown) ∧
      ∀ e, ((Configuration.load v).outcome supply).1 = .error e →
        ∃ before w after, v.words = before ++ w :: after ∧ (∀ u ∈ before, u.IsKnown) ∧
          ¬ w.IsKnown ∧ e = .configuration
            (.unknownTerm w.kind w.entered.display w.members) w.path := by
  have hload := decides_configuration h supply
  refine ⟨hload.error_iff, fun e he => ?_⟩
  rw [he] at hload
  exact hload.refusal_of_error

/-- An empty function is no word. The operator is found in its list, so that the connector is
the first word that is not. -/
def Value.misspelled : Value :=
  .object [("selectedTables", .list [.text "users"]),
    ("selectedColumns", .list [.object [("column_name", .text "id"), ("function", .text "")]]),
    ("conditions", .list [.object [("column", .text "id"), ("operator", .text " like "),
      ("value", .text "1"), ("logical_operator", .text "xor")]]),
    ("orderBy", .list [.object [("column", .text "id"), ("direction", .text "")]])]

theorem Configuration.load_refused_misspelled :
    misspelled.isConfiguration = true ∧
      ((Configuration.load misspelled).outcome {}).1 = .error (.configuration
        (.unknownTerm "LogicalOperator" "xor" ["AND", "OR"])
        "conditions[0].logicalOperator") := by
  have hkind : misspelled.isConfiguration = true := by decide
  have hwords : misspelled.words =
      [.of ConditionOperator "conditions[0].operator" (.text " like "),
        .of LogicalOperator "conditions[0].logicalOperator" (.text "xor"),
        .of OrderDirection "orderBy[0].direction" (.text "")] := rfl
  have hlike : Word.IsKnown
      (.of ConditionOperator "conditions[0].operator" (.text " like ")) := by decide
  have hxor : ¬ Word.IsKnown
      (.of LogicalOperator "conditions[0].logicalOperator" (.text "xor")) := by decide
  obtain ⟨hrefused, hfirst⟩ := Configuration.load_refused_iff hkind {}
  obtain ⟨e, he⟩ := hrefused.mpr ⟨_, by rw [hwords]; simp, hxor⟩
  obtain ⟨before, w, after, hcut, hbefore, hw, rfl⟩ := hfirst e he
  refine ⟨hkind, he.trans ?_⟩
  rw [hwords] at hcut
  match before, hcut with
  | [], hcut =>
      obtain ⟨rfl, -⟩ := List.cons.inj hcut
      exact absurd hlike hw
  | [_], hcut =>
      obtain ⟨rfl, -⟩ := List.cons.inj (List.cons.inj hcut).2
      rfl
  | _ :: u :: _, hcut =>
      obtain ⟨rfl, -⟩ := List.cons.inj (List.cons.inj hcut).2
      exact absurd (hbefore _ (by simp)) hxor

end Loading

/-! ## Rendering -/

theorem Value.isAtomic_of_isText {v : Value} (h : v.isText = true) : v.isAtomic = true := by
  cases v <;> simp_all [isText, isAtomic]

namespace Table.IsUsable

variable {t : Table Value}

theorem isText_qualifiedName (h : t.IsUsable) : t.qualifiedName.isText = true := by
  unfold Table.qualifiedName
  split
  · rfl
  · exact h.name

theorem isText_render (h : t.IsUsable) : t.render.isText = true := by
  unfold Table.render
  split
  · rfl
  · exact h.isText_qualifiedName

theorem isSearchable (h : t.IsUsable) : t.isSearchable = true := by
  simp only [Table.isSearchable, Table.references, List.all_append, List.all_cons, List.all_nil,
    Bool.and_eq_true, Bool.and_true, List.all_eq_true, Option.mem_toList]
  refine ⟨⟨isAtomic_of_isText h.name, isAtomic_of_isText h.isText_qualifiedName⟩, ?_⟩
  exact fun a ha => h.aliasName a (Option.filter_eq_some_iff.mp ha).1

end Table.IsUsable

theorem lookupFails_eq_false {reference : Value} (schema : Value) {tables : List (Table Value)}
    (htables : ∀ t ∈ tables, t.IsUsable) (hreference : reference.isAtomic = true) :
    lookupFails reference schema tables = false := by
  induction tables with
  | nil => rfl
  | cons t rest ih =>
      obtain ⟨ht, hrest⟩ := List.forall_mem_cons.mp htables
      simp [lookupFails, ht.isSearchable, ih hrest, Entry.isAtomic, Entry.toValue, hreference]

theorem Column.IsUsable.isText_applied {x : Column Value} (h : x.IsUsable) (qualifier : Value) :
    (x.applied qualifier).isText = true := by
  unfold Column.applied
  split
  · rfl
  · unfold Column.qualified
    split
    · rfl
    · exact h.name

theorem Column.IsUsable.isText_render {x : Column Value} (h : x.IsUsable) (qualifier : Value) :
    (x.render qualifier).isText = true := by
  unfold Column.render
  split
  · rfl
  · exact h.isText_applied qualifier

namespace Configuration.IsUsable

variable {c : Configuration Value} (h : c.IsUsable)
include h

theorem lookupFault?_eq_none {reference : Value} (hreference : reference.isAtomic = true)
    (schema : Value) : c.lookupFault? reference schema = none := by
  rw [lookupFault?, lookupFails_eq_false schema h.tables hreference]
  rfl

theorem pathFault?_eq_none (qualify : Bool) (path : String) :
    c.pathFault? qualify path = none := by
  unfold pathFault?
  split
  · rfl
  · split
    · split
      · exact h.lookupFault?_eq_none rfl _
      · rfl
    · rfl

theorem groupFault?_eq_none {path : Value} (hpath : path.isText = true) :
    c.groupFault? path = none := by
  simp [groupFault?, textFault?, Entry.isText, Entry.toValue, hpath, h.pathFault?_eq_none]

/-- What can be used is rendered, unless an integer that is handed over, or the row limit, has
too many digits. -/
theorem fault?_eq_none {mode : Mode} (hexcess : ∀ x ∈ c.conditions, x.excess? mode = none)
    (hlimit : c.PrintsLimit) : c.fault? mode = none := by
  have hcolumns : firstFault? c.columnFault? c.columns = none :=
    List.findSome?_eq_none_iff.mpr fun x hx => by
      have happlied := (h.columns x hx).isText_applied (c.qualifier x.table x.schema)
      simp [columnFault?, h.lookupFault?_eq_none (h.columns x hx).table, Column.renderFault?,
        Entry.isText, Entry.toValue, happlied]
  have hjoins : firstFault? c.joinFault? c.joins = none :=
    List.findSome?_eq_none_iff.mpr fun j hj => by
      simp [joinFault?, h.lookupFault?_eq_none (h.joins j hj).rightTable,
        h.lookupFault?_eq_none (h.joins j hj).leftTable]
  have hconditions : firstFault? (c.conditionFault? mode) c.conditions = none :=
    List.findSome?_eq_none_iff.mpr fun x hx => by
      simp [conditionFault?, textFault?, Entry.isText, Entry.toValue, (h.conditions x hx).column,
        (h.conditions x hx).value, h.pathFault?_eq_none, hexcess x hx]
  have hgroupBy : firstFault? c.groupFault? c.groupBy = none :=
    List.findSome?_eq_none_iff.mpr fun path hpath => h.groupFault?_eq_none (h.groupBy path hpath)
  have horderBy : firstFault? c.orderFault? c.orderBy = none :=
    List.findSome?_eq_none_iff.mpr fun o ho => by
      simp [orderFault?, h.groupFault?_eq_none (h.orderBy o ho)]
  simp [fault?, hcolumns, hjoins, hconditions, hgroupBy, horderBy,
    c.limitFault?_eq_none_iff.mpr hlimit]

/-- The clauses of a configuration that can be used can be joined. -/
theorem textFault?_eq_none (mode : Mode) : (c.statement mode).textFault? = none := by
  have hall : ∀ clause ∈ (c.statement mode).clauses, ∀ item ∈ clause.items,
      item.isText = true := by
    intro clause hclause
    obtain ⟨kind, hwrites⟩ := exists_writes hclause
    cases hwrites with
    | select =>
        simp only [selectClause, selectItems]
        split
        · exact List.forall_mem_singleton.mpr rfl
        · exact List.forall_mem_map.mpr fun x hx => (h.columns x hx).isText_render _
    | source ht | crossed ht => exact List.forall_mem_singleton.mpr (h.tables _ ht).isText_render
    | joined | limited => exact List.forall_mem_singleton.mpr rfl
    | filtered => exact List.forall_mem_map.mpr fun _ _ => rfl
    | grouped _ hitems =>
        intro item hitem
        obtain ⟨path, -, -, rfl⟩ := hitems item hitem
        rfl
    | ordered _ hitems =>
        intro item hitem
        obtain ⟨o, -, rfl⟩ := hitems item hitem
        rfl
  rw [Statement.textFault?, if_pos (by simpa using hall)]

end Configuration.IsUsable
end SelectQuery
