import SelectQuery.Configuration.Loader
import SelectQuery.Proofs.Build
import SelectQuery.Proofs.Value.Document

/-!
# What a loaded configuration looks like

Loading leaves marks that a configuration made by hand need not have: no name is null, an
alias or an identifier counts as present, every word is a term, and the value of a
condition is text (`Configuration.IsLoaded`). What stands in the entries was taken from the
document, so a property that passes from a value to its parts passes to the entries. Each
loader has one lemma for both.
-/

namespace SelectQuery

variable {ν : Type}

/-! ## Entries -/

/-- All entries of a table. -/
def Table.entries (t : Table ν) : List ν := [t.name, t.schema] ++ t.aliasName.toList

/-- All entries of a column. -/
def Column.entries (c : Column ν) : List ν :=
  [c.table, c.name, c.schema] ++ c.aliasName.toList ++ c.params

/-- All entries of a further condition of a join. -/
def JoinCondition.entries (c : JoinCondition ν) : List ν := [c.left, c.right, c.id]

/-- All entries of a join. -/
def Join.entries (j : Join ν) : List ν :=
  [j.leftTable, j.leftColumn, j.rightTable, j.rightColumn, j.id] ++
    j.conditions.flatMap JoinCondition.entries

/-- All entries of a condition. -/
def Condition.entries (c : Condition ν) : List ν := [c.column, c.value, c.id]

/-- All entries of a configuration. -/
def Configuration.entries (c : Configuration ν) : List ν :=
  c.tables.flatMap Table.entries ++ c.columns.flatMap Column.entries ++
    c.joins.flatMap Join.entries ++ c.conditions.flatMap Condition.entries ++ c.groupBy ++
    c.orderBy.map Ordering.column

/-- All entries of a subquery. -/
def Subquery.entries (s : Subquery ν) : List ν :=
  [s.name, s.aliasName, s.id] ++ s.config.entries

section Entries

variable {P : ν → Prop}

theorem Table.forall_entries {t : Table ν} : (∀ v ∈ t.entries, P v) ↔
    P t.name ∧ P t.schema ∧ ∀ a ∈ t.aliasName, P a := by
  simp [entries]

theorem Column.forall_entries {c : Column ν} : (∀ v ∈ c.entries, P v) ↔
    P c.table ∧ P c.name ∧ P c.schema ∧ (∀ a ∈ c.aliasName, P a) ∧ ∀ v ∈ c.params, P v := by
  simp [entries, or_imp, forall_and]

theorem JoinCondition.forall_entries {c : JoinCondition ν} : (∀ v ∈ c.entries, P v) ↔
    P c.left ∧ P c.right ∧ P c.id := by
  simp [entries]

theorem Join.forall_entries {j : Join ν} : (∀ v ∈ j.entries, P v) ↔
    P j.leftTable ∧ P j.leftColumn ∧ P j.rightTable ∧ P j.rightColumn ∧ P j.id ∧
      ∀ c ∈ j.conditions, ∀ v ∈ c.entries, P v := by
  simp [entries, List.forall_mem_flatMap, -List.mem_flatMap]

theorem Condition.forall_entries {c : Condition ν} : (∀ v ∈ c.entries, P v) ↔
    P c.column ∧ P c.value ∧ P c.id := by
  simp [entries]

theorem Configuration.forall_entries {c : Configuration ν} : (∀ v ∈ c.entries, P v) ↔
    (∀ t ∈ c.tables, ∀ v ∈ t.entries, P v) ∧ (∀ x ∈ c.columns, ∀ v ∈ x.entries, P v) ∧
      (∀ j ∈ c.joins, ∀ v ∈ j.entries, P v) ∧ (∀ x ∈ c.conditions, ∀ v ∈ x.entries, P v) ∧
      (∀ v ∈ c.groupBy, P v) ∧ ∀ o ∈ c.orderBy, P o.column := by
  simp only [entries, List.forall_mem_append, List.forall_mem_flatMap, List.forall_mem_map,
    and_assoc]

theorem Subquery.forall_entries {s : Subquery ν} : (∀ v ∈ s.entries, P v) ↔
    P s.name ∧ P s.aliasName ∧ P s.id ∧ ∀ v ∈ s.config.entries, P v := by
  simp [entries]

end Entries

/-! ## Marks of loading -/

/-- A table as it comes out of loading. -/
structure Table.IsLoaded (t : Table Value) : Prop where
  name : t.name ≠ .null
  schema : t.schema ≠ .null
  aliasName : ∀ a ∈ t.aliasName, a.isPresent = true

/-- A column as it comes out of loading. -/
structure Column.IsLoaded (c : Column Value) : Prop where
  table : c.table ≠ .null
  name : c.name ≠ .null
  schema : c.schema ≠ .null
  aliasName : ∀ a ∈ c.aliasName, a.isPresent = true

/-- A further condition of a join as it comes out of loading. -/
structure JoinCondition.IsLoaded (c : JoinCondition Value) : Prop where
  left : c.left ≠ .null
  right : c.right ≠ .null
  id : c.id.isPresent = true

/-- A join as it comes out of loading. -/
structure Join.IsLoaded (j : Join Value) : Prop where
  leftTable : j.leftTable ≠ .null
  leftColumn : j.leftColumn ≠ .null
  rightTable : j.rightTable ≠ .null
  rightColumn : j.rightColumn ≠ .null
  conditions : ∀ c ∈ j.conditions, c.IsLoaded
  id : j.id.isPresent = true

/-- A condition as it comes out of loading. -/
structure Condition.IsLoaded (c : Condition Value) : Prop where
  column : c.column ≠ .null
  operator : ∃ op, c.operator = .term op
  value : ∃ s, c.value = .text s
  connector : ∃ k : Option LogicalOperator, c.connector = k.map .term
  id : c.id.isPresent = true

/-- An ordering as it comes out of loading. -/
structure Ordering.IsLoaded (o : Ordering Value) : Prop where
  column : o.column ≠ .null
  direction : ∃ d, o.direction = .term d

/-- A configuration as it comes out of loading. -/
structure Configuration.IsLoaded (c : Configuration Value) : Prop where
  tables : ∀ t ∈ c.tables, t.IsLoaded
  columns : ∀ x ∈ c.columns, x.IsLoaded
  joins : ∀ j ∈ c.joins, j.IsLoaded
  conditions : ∀ x ∈ c.conditions, x.IsLoaded
  orderBy : ∀ o ∈ c.orderBy, o.IsLoaded
  distinct : ∃ b, c.distinct = .known b

/-- A subquery as it comes out of loading. -/
structure Subquery.IsLoaded (s : Subquery Value) : Prop where
  name : s.name ≠ .null
  aliasName : s.aliasName ≠ .null
  config : s.config.IsLoaded
  id : s.id.isPresent = true

/-! ## Reading fields -/

namespace Value

/-- A property that passes from a value to what can be read out of it. -/
structure Inherited (P : Value → Prop) : Prop where
  text : ∀ s, P (.text s)
  empty : P (.object [])
  item : ∀ {items x}, P (.list items) → x ∈ items → P x
  field : ∀ {fields key x}, P (.object fields) → field? key fields = some x → P x
  integer : ∀ {v n}, P v → v.toInteger = .ok n → P (.int n)

variable {P : Value → Prop} {data v : Value} {keys : List String}

theorem get_eq_some {key : String} (h : data.get key = .ok (some v)) :
    ∃ fields, data = .object fields ∧ field? key fields = some v := by
  cases data with
  | object fields => exact ⟨fields, rfl, by simpa [get] using h⟩
  | _ => simp [get] at h

/-- Only an object has fields to pick, and null is not picked. -/
theorem pick_eq_some (h : data.pick keys = .ok (some v)) :
    v ≠ .null ∧ ∃ fields key, data = .object fields ∧ field? key fields = some v := by
  induction keys with
  | nil => simp [pick] at h
  | cons key rest ih =>
      cases data with
      | object fields =>
          simp only [pick] at h
          split at h
          -- a missing field and null are passed over, and the next spelling is tried
          · exact ih h
          · exact ih h
          · next w hnull hfound =>
              obtain rfl : w = v := by simpa using h
              exact ⟨fun h0 => hnull h0, fields, key, rfl, hfound⟩
      | list items =>
          simp only [pick] at h
          split at h
          · simp at h
          · exact ih h
      | text s =>
          simp only [pick] at h
          split at h
          · simp at h
          · exact ih h
      | _ => simp [pick] at h

theorem Inherited.pick (hP : Inherited P) (hdata : P data) (h : data.pick keys = .ok (some v)) :
    P v := by
  obtain ⟨-, fields, key, rfl, hfound⟩ := pick_eq_some h
  exact hP.field hdata hfound

theorem Inherited.get (hP : Inherited P) (hdata : P data) {key : String}
    (h : data.get key = .ok (some v)) : P v := by
  obtain ⟨fields, rfl, hfound⟩ := get_eq_some h
  exact hP.field hdata hfound

theorem Inherited.pickText (hP : Inherited P) (hdata : P data)
    (h : data.pickText keys = .ok v) : v ≠ .null ∧ P v := by
  obtain ⟨found, hpick, h⟩ := Except.bind_eq_ok.mp h
  obtain rfl : found.getD (.text "") = v := by simpa [pure, Except.pure] using h
  cases found with
  | none => exact ⟨by simp, hP.text ""⟩
  | some w => exact ⟨(pick_eq_some hpick).1, hP.pick hdata hpick⟩

theorem Inherited.pickPresent (hP : Inherited P) (hdata : P data) {found : Option Value}
    (h : data.pickPresent keys = .ok found) : ∀ w ∈ found, w.isPresent = true ∧ P w := by
  obtain ⟨picked, hpick, h⟩ := Except.bind_eq_ok.mp h
  obtain rfl : picked.filter isPresent = found := by simpa [pure, Except.pure] using h
  intro w hw
  obtain ⟨rfl, hpresent⟩ : picked = some w ∧ w.isPresent = true := by
    simpa [Option.filter_eq_some_iff] using hw
  exact ⟨hpresent, hP.pick hdata hpick⟩

theorem Inherited.itemsOf (hP : Inherited P) {found : Option Value} {items : List Value}
    (hfound : ∀ w ∈ found, P w) (h : itemsOf found = .ok items) : ∀ x ∈ items, P x := by
  intro x hx
  cases found with
  | none =>
      obtain rfl : [] = items := by simpa [Value.itemsOf] using h
      simp at hx
  | some w =>
      have hw := hfound w rfl
      cases w with
      | list xs =>
          obtain rfl : xs = items := by simpa [Value.itemsOf, items?] using h
          exact hP.item hw hx
      -- a text counts as the list of its code points, and an object as that of its names
      | text s =>
          obtain rfl :
              ((Text.points s.toList).map fun p => Value.text (String.ofList p.kept)) = items := by
            simpa [Value.itemsOf, items?] using h
          obtain ⟨p, -, rfl⟩ := List.mem_map.mp hx
          exact hP.text _
      | object fields =>
          obtain rfl : (fields.map fun field => Value.text field.1) = items := by
            simpa [Value.itemsOf, items?] using h
          obtain ⟨field, -, rfl⟩ := List.mem_map.mp hx
          exact hP.text _
      | _ => simp [Value.itemsOf, items?] at h

/-- The items of a picked field. -/
theorem Inherited.pickItems (hP : Inherited P) (hdata : P data) {found : Option Value}
    {items : List Value} (hfound : data.pick keys = .ok found)
    (hitems : Value.itemsOf found = .ok items) : ∀ x ∈ items, P x := by
  refine hP.itemsOf ?_ hitems
  rintro w rfl
  exact hP.pick hdata hfound

/-- The items of a field that is passed over unless it counts. -/
theorem Inherited.getItems (hP : Inherited P) (hdata : P data) {key : String}
    {found : Option Value} {items : List Value} (hfound : data.get key = .ok found)
    (hitems : Value.itemsOf (found.filter isPresent) = .ok items) : ∀ x ∈ items, P x := by
  refine hP.itemsOf ?_ hitems
  intro w hw
  obtain ⟨rfl, -⟩ : found = some w ∧ w.isPresent = true := by
    simpa [Option.filter_eq_some_iff] using hw
  exact hP.get hdata hfound

end Value

open Value

variable {P : Value → Prop} {data : Value} {path : String}

/-! ## Loaders -/

theorem Table.load_spec {t : Table Value} (hP : Inherited P) (hdata : P data)
    (h : Table.load data = .ok t) : t.IsLoaded ∧ ∀ v ∈ t.entries, P v := by
  cases data with
  | text s =>
      obtain rfl := Except.ok.inj h
      exact ⟨⟨by simp, by simp, by simp⟩, by simp [entries, hP.text]⟩
  | _ =>
      obtain ⟨name, hname, h⟩ := Except.bind_eq_ok.mp h
      obtain ⟨schema, hschema, h⟩ := Except.bind_eq_ok.mp h
      obtain ⟨aliasName, halias, h⟩ := Except.bind_eq_ok.mp h
      obtain rfl := Except.ok.inj h
      have hname := hP.pickText hdata hname
      have hschema := hP.pickText hdata hschema
      have halias := hP.pickPresent hdata halias
      exact ⟨⟨hname.1, hschema.1, fun a ha => (halias a ha).1⟩,
        forall_entries.mpr ⟨hname.2, hschema.2, fun a ha => (halias a ha).2⟩⟩

theorem Column.load_spec {c : Column Value} (hP : Inherited P) (hdata : P data)
    (h : Column.load data path = .ok c) : c.IsLoaded ∧ ∀ v ∈ c.entries, P v := by
  obtain ⟨picked, -, h⟩ := Except.bind_eq_ok.mp h
  obtain ⟨table, htable, h⟩ := Except.bind_eq_ok.mp h
  obtain ⟨name, hname, h⟩ := Except.bind_eq_ok.mp h
  obtain ⟨schema, hschema, h⟩ := Except.bind_eq_ok.mp h
  obtain ⟨aliasName, halias, h⟩ := Except.bind_eq_ok.mp h
  obtain ⟨function, -, h⟩ := Except.bind_eq_ok.mp h
  obtain ⟨found, hfound, h⟩ := Except.bind_eq_ok.mp h
  obtain ⟨params, hparams, h⟩ := Except.bind_eq_ok.mp h
  obtain rfl := Except.ok.inj h
  have htable := hP.pickText hdata htable
  have hname := hP.pickText hdata hname
  have hschema := hP.pickText hdata hschema
  have halias := hP.pickPresent hdata halias
  have hparams : ∀ v ∈ params, P v := hP.pickItems hdata hfound hparams
  exact ⟨⟨htable.1, hname.1, hschema.1, fun a ha => (halias a ha).1⟩,
    forall_entries.mpr
      ⟨htable.2, hname.2, hschema.2, fun a ha => (halias a ha).2, hparams⟩⟩

/-- An identifier that was taken is never empty. -/
theorem IdKind.isPresent_id (kind : IdKind) (n : Nat) :
    (Value.text (kind.id n)).isPresent = true := by
  simp [isPresent, IdKind.id]

theorem loadId_spec {kind : IdKind} {id : Value} (hP : Inherited P) (hdata : P data)
    (h : (loadId data kind).Yields id) : id.isPresent = true ∧ P id := by
  obtain ⟨found, hfound, h⟩ := h.bind_ofExcept
  cases found with
  | some found =>
      obtain rfl := h.pure_eq
      exact hP.pickPresent hdata hfound id rfl
  | none =>
      -- there was none, and one is taken from the supply
      obtain ⟨s, hs, h⟩ := h.bind
      obtain rfl := h.pure_eq
      obtain ⟨n, rfl⟩ := hs.freshId_eq
      exact ⟨kind.isPresent_id n, hP.text _⟩

theorem JoinCondition.load_spec {c : JoinCondition Value} (hP : Inherited P) (hdata : P data)
    (h : (JoinCondition.load data).Yields c) : c.IsLoaded ∧ ∀ v ∈ c.entries, P v := by
  obtain ⟨left, hleft, h⟩ := h.bind_ofExcept
  obtain ⟨right, hright, h⟩ := h.bind_ofExcept
  obtain ⟨id, hid, h⟩ := h.bind
  obtain rfl := h.pure_eq
  have hleft := hP.pickText hdata hleft
  have hright := hP.pickText hdata hright
  have hid := loadId_spec hP hdata hid
  exact ⟨⟨hleft.1, hright.1, hid.1⟩, forall_entries.mpr ⟨hleft.2, hright.2, hid.2⟩⟩

theorem Join.load_spec {j : Join Value} (hP : Inherited P) (hdata : P data)
    (h : (Join.load data path).Yields j) : j.IsLoaded ∧ ∀ v ∈ j.entries, P v := by
  obtain ⟨picked, -, h⟩ := h.bind_ofExcept
  obtain ⟨found, hfound, h⟩ := h.bind_ofExcept
  obtain ⟨leftTable, hleftTable, h⟩ := h.bind_ofExcept
  obtain ⟨leftColumn, hleftColumn, h⟩ := h.bind_ofExcept
  obtain ⟨rightTable, hrightTable, h⟩ := h.bind_ofExcept
  obtain ⟨rightColumn, hrightColumn, h⟩ := h.bind_ofExcept
  obtain ⟨type, -, h⟩ := h.bind_ofExcept
  obtain ⟨items, hitems, h⟩ := h.bind_ofExcept
  obtain ⟨conditions, hconditions, h⟩ := h.bind
  obtain ⟨id, hid, h⟩ := h.bind
  obtain rfl := h.pure_eq
  have hleftTable := hP.pickText hdata hleftTable
  have hleftColumn := hP.pickText hdata hleftColumn
  have hrightTable := hP.pickText hdata hrightTable
  have hrightColumn := hP.pickText hdata hrightColumn
  have hid := loadId_spec hP hdata hid
  have hconditions : ∀ c ∈ conditions, c.IsLoaded ∧ ∀ v ∈ c.entries, P v := by
    intro c hc
    obtain ⟨x, hx, hload⟩ := hconditions.mem_mapM c hc
    exact JoinCondition.load_spec hP (hP.pickItems hdata hfound hitems x hx) hload
  exact ⟨⟨hleftTable.1, hleftColumn.1, hrightTable.1, hrightColumn.1,
    fun c hc => (hconditions c hc).1, hid.1⟩, forall_entries.mpr ⟨hleftTable.2, hleftColumn.2,
    hrightTable.2, hrightColumn.2, hid.2, fun c hc => (hconditions c hc).2⟩⟩

theorem Condition.load_spec {c : Condition Value} (hP : Inherited P) (hdata : P data)
    (h : (Condition.load data path).Yields c) : c.IsLoaded ∧ ∀ v ∈ c.entries, P v := by
  obtain ⟨picked, -, h⟩ := h.bind_ofExcept
  obtain ⟨value, -, h⟩ := h.bind_ofExcept
  obtain ⟨column, hcolumn, h⟩ := h.bind_ofExcept
  obtain ⟨found, -, h⟩ := h.bind_ofExcept
  obtain ⟨operator, -, h⟩ := h.bind_ofExcept
  obtain ⟨connector, -, h⟩ := h.bind_ofExcept
  obtain ⟨id, hid, h⟩ := h.bind
  obtain rfl := h.pure_eq
  have hcolumn := hP.pickText hdata hcolumn
  have hid := loadId_spec hP hdata hid
  exact ⟨⟨hcolumn.1, ⟨operator, rfl⟩, ⟨_, rfl⟩, ⟨connector, rfl⟩, hid.1⟩,
    forall_entries.mpr ⟨hcolumn.2, hP.text _, hid.2⟩⟩

theorem Ordering.load_spec {o : Ordering Value} (hP : Inherited P) (hdata : P data)
    (h : Ordering.load data path = .ok o) : o.IsLoaded ∧ P o.column := by
  obtain ⟨column, hcolumn, h⟩ := Except.bind_eq_ok.mp h
  obtain ⟨picked, -, h⟩ := Except.bind_eq_ok.mp h
  obtain ⟨direction, -, h⟩ := Except.bind_eq_ok.mp h
  obtain rfl := Except.ok.inj h
  have hcolumn := hP.pickText hdata hcolumn
  exact ⟨⟨hcolumn.1, ⟨direction, rfl⟩⟩, hcolumn.2⟩

theorem loadLimit_spec {found : Option Value} {limit : Option Int} (hP : Inherited P)
    (hfound : ∀ w ∈ found, P w) (h : loadLimit found = .ok limit) :
    ∀ n ∈ limit, P (.int n) := by
  have key {w : Value} (hw : P w) (h : some <$> w.toInteger = .ok limit) :
      ∀ n ∈ limit, P (.int n) := by
    obtain ⟨m, hm, rfl⟩ := Except.map_eq_ok.mp h
    rintro n ⟨⟩
    exact hP.integer hw hm
  cases found with
  | none =>
      obtain rfl := Except.ok.inj h
      simp
  | some w =>
      have hw := hfound w rfl
      cases w with
      | text s =>
          simp only [loadLimit] at h
          split at h
          · obtain rfl := Except.ok.inj h
            simp
          · exact key hw h
      | _ => exact key hw h

/-- Of the items of a list that are read with their index, each comes from an item. -/
theorem Build.Yields.mem_mapM_zipIdx {α β : Type} {items : List α} {f : α × Nat → Build β}
    {results : List β} (h : (items.zipIdx.mapM f).Yields results) :
    ∀ y ∈ results, ∃ x ∈ items, ∃ i, (f (x, i)).Yields y := by
  intro y hy
  obtain ⟨⟨x, i⟩, hx, hload⟩ := h.mem_mapM y hy
  exact ⟨x, (List.mem_zipIdx' hx).2 ▸ List.getElem_mem _, i, hload⟩

theorem Configuration.load_spec {c : Configuration Value} (hP : Inherited P) (hdata : P data)
    (h : (Configuration.load data).Yields c) :
    c.IsLoaded ∧ (∀ v ∈ c.entries, P v) ∧ ∀ n ∈ c.limit, P (.int n) := by
  obtain ⟨foundLimit, hfoundLimit, h⟩ := h.bind_ofExcept
  obtain ⟨foundTables, hfoundTables, h⟩ := h.bind_ofExcept
  obtain ⟨tableItems, htableItems, h⟩ := h.bind_ofExcept
  obtain ⟨tables, htables, h⟩ := h.bind
  obtain ⟨foundColumns, hfoundColumns, h⟩ := h.bind_ofExcept
  obtain ⟨columnItems, hcolumnItems, h⟩ := h.bind_ofExcept
  obtain ⟨columns, hcolumns, h⟩ := h.bind
  obtain ⟨foundJoins, hfoundJoins, h⟩ := h.bind_ofExcept
  obtain ⟨joinItems, hjoinItems, h⟩ := h.bind_ofExcept
  obtain ⟨joins, hjoins, h⟩ := h.bind
  obtain ⟨foundConditions, hfoundConditions, h⟩ := h.bind_ofExcept
  obtain ⟨conditionItems, hconditionItems, h⟩ := h.bind_ofExcept
  obtain ⟨conditions, hconditions, h⟩ := h.bind
  obtain ⟨foundGroups, hfoundGroups, h⟩ := h.bind_ofExcept
  obtain ⟨groupBy, hgroupBy, h⟩ := h.bind_ofExcept
  obtain ⟨foundOrderings, hfoundOrderings, h⟩ := h.bind_ofExcept
  obtain ⟨orderingItems, horderingItems, h⟩ := h.bind_ofExcept
  obtain ⟨orderBy, horderBy, h⟩ := h.bind
  obtain ⟨limit, hlimit, h⟩ := h.bind_ofExcept
  obtain ⟨distinct, -, h⟩ := h.bind_ofExcept
  obtain rfl := h.pure_eq
  -- every record comes from an item of a field, which has `P` because the value has it
  have htables : ∀ t ∈ tables, t.IsLoaded ∧ ∀ v ∈ t.entries, P v := by
    intro t ht
    obtain ⟨x, hx, hload⟩ := htables.mem_mapM t ht
    exact Table.load_spec hP (hP.pickItems hdata hfoundTables htableItems x hx) hload.ofExcept_eq
  have hcolumns : ∀ x ∈ columns, x.IsLoaded ∧ ∀ v ∈ x.entries, P v := by
    intro y hy
    obtain ⟨x, hx, i, hload⟩ := hcolumns.mem_mapM_zipIdx y hy
    exact Column.load_spec hP (hP.pickItems hdata hfoundColumns hcolumnItems x hx)
      hload.ofExcept_eq
  have hjoins : ∀ j ∈ joins, j.IsLoaded ∧ ∀ v ∈ j.entries, P v := by
    intro j hj
    obtain ⟨x, hx, i, hload⟩ := hjoins.mem_mapM_zipIdx j hj
    exact Join.load_spec hP (hP.getItems hdata hfoundJoins hjoinItems x hx) hload
  have hconditions : ∀ x ∈ conditions, x.IsLoaded ∧ ∀ v ∈ x.entries, P v := by
    intro y hy
    obtain ⟨x, hx, i, hload⟩ := hconditions.mem_mapM_zipIdx y hy
    exact Condition.load_spec hP (hP.getItems hdata hfoundConditions hconditionItems x hx) hload
  have horderBy : ∀ o ∈ orderBy, o.IsLoaded ∧ P o.column := by
    intro o ho
    obtain ⟨x, hx, i, hload⟩ := horderBy.mem_mapM_zipIdx o ho
    exact Ordering.load_spec hP (hP.pickItems hdata hfoundOrderings horderingItems x hx)
      hload.ofExcept_eq
  refine ⟨⟨fun t ht => (htables t ht).1, fun x hx => (hcolumns x hx).1,
    fun j hj => (hjoins j hj).1, fun x hx => (hconditions x hx).1,
    fun o ho => (horderBy o ho).1, ⟨_, rfl⟩⟩, ?_, ?_⟩
  · exact forall_entries.mpr ⟨fun t ht => (htables t ht).2, fun x hx => (hcolumns x hx).2,
      fun j hj => (hjoins j hj).2, fun x hx => (hconditions x hx).2,
      hP.pickItems hdata hfoundGroups hgroupBy, fun o ho => (horderBy o ho).2⟩
  · refine loadLimit_spec hP ?_ hlimit
    rintro w rfl
    exact hP.pick hdata hfoundLimit

theorem Subquery.load_spec {s : Subquery Value} (hP : Inherited P) (hdata : P data)
    (h : (Subquery.load data).Yields s) :
    s.IsLoaded ∧ (∀ v ∈ s.entries, P v) ∧ ∀ n ∈ s.config.limit, P (.int n) := by
  obtain ⟨name, hname, h⟩ := h.bind_ofExcept
  obtain ⟨aliasName, halias, h⟩ := h.bind_ofExcept
  obtain ⟨found, hfound, h⟩ := h.bind_ofExcept
  obtain ⟨config, hconfig, h⟩ := h.bind
  obtain ⟨id, hid, h⟩ := h.bind
  obtain rfl := h.pure_eq
  have hname := hP.pickText hdata hname
  have halias := hP.pickText hdata halias
  have hid := loadId_spec hP hdata hid
  have hnested : P (found.getD (.object [])) := by
    cases found with
    | none => exact hP.empty
    | some w => exact hP.pick hdata hfound
  obtain ⟨hloaded, hentries, hlimit⟩ := Configuration.load_spec hP hnested hconfig
  exact ⟨⟨hname.1, halias.1, hloaded, hid.1⟩,
    forall_entries.mpr ⟨hname.2, halias.2, hid.2, hentries⟩, hlimit⟩

/-! ## Inherited properties -/

/-- Every value has what is read out of it. -/
theorem inherited_true : Inherited fun _ => True :=
  ⟨by simp, trivial, by simp, by simp, by simp⟩

/-- Whole numbers that are read out of a value are not too long for a document. -/
theorem Value.toInteger_isDocument {v : Value} {n : ℤ} (hv : v.IsDocument)
    (h : v.toInteger = .ok n) : (Value.int n).IsDocument := by
  rw [IsDocument]
  cases v with
  | int m =>
      obtain rfl := Except.ok.inj h
      exact hv
  | bool b =>
      obtain rfl := Except.ok.inj h
      have hone : 1 < 10 ^ digitLimit := Nat.one_lt_pow (by decide) (by decide)
      cases b with
      | false => exact Nat.lt_of_succ_lt hone
      | true => exact hone
  | text s =>
      simp only [toInteger] at h
      split at h
      · next m hm =>
          obtain rfl := Except.ok.inj h
          exact Integer.natAbs_lt hm
      · simp at h
  | float x =>
      cases x with
      | finite negative mantissa exponent form =>
          obtain rfl := Except.ok.inj h
          -- a number of the format has at most 1024 binary digits in front of the point
          calc ((Binary64.finite negative mantissa exponent form).truncate?.getD 0).natAbs
              < 2 ^ digitLimit := Binary64.natAbs_truncate_lt form (by decide)
            _ ≤ 10 ^ digitLimit := Nat.pow_le_pow_left (by decide) digitLimit
      | _ => simp [toInteger] at h
  | _ => simp [toInteger] at h

theorem inherited_isDocument : Inherited IsDocument where
  text := isDocument_text
  empty := isDocument_object.mpr (by simp)
  item h hx := isDocument_list.mp h _ hx
  field h hfound := by
    obtain ⟨before, after, rfl, -⟩ := List.lookup_eq_some_iff.mp hfound
    exact (isDocument_object.mp h).2 (_, _) (List.mem_append_right before List.mem_cons_self)
  integer := toInteger_isDocument

end SelectQuery
