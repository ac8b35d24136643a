import SelectQuery.Proofs.Statement.Layout
import SelectQuery.Proofs.Statement.Spelling

/-!
# What a table is called

A query introduces each table by its alias, or else by its name, and the columns of the table
are to be called by that. A column says by name and schema which table it was taken from. But
the first table that goes by this name is meant, and where no schema is given every schema
will do. So a column is called by a table before its own if that one goes by the same name, and
by its own table otherwise (`ColumnCalled`).

The join that is added unasked, between the first two tables, means the first one for sure:
nothing is looked at before it. It means the second one unless the first goes by its name
(`renders_introducedNames`).
-/

namespace SelectQuery

open Entry

namespace Table

/-- What a query introduces a table by: its alias, or else its name. -/
def introducedName (t : Table String) : String := t.qualifier t.name

theorem goesBy_iff {t : Table String} {reference schema : String} :
    (t.answersTo reference && t.inSchema schema) = true ↔ t.GoesBy reference schema := by
  rw [Bool.and_eq_true, answersTo_iff, GoesBy]
  refine and_congr_right fun _ => ?_
  simp [inSchema]

theorem qualifier_of_alias {t : Table String} {a : String} (h : present? t.aliasName = some a)
    (reference : String) : t.qualifier reference = a := by
  rw [qualifier, h]
  rfl

theorem qualifier_of_no_alias {t : Table String} (h : present? t.aliasName = none)
    (reference : String) : t.qualifier reference = reference := by
  rw [qualifier, h]
  rfl

/-- A table goes by its own name in its own schema. -/
theorem goesBy_key (t : Table String) : t.GoesBy t.name t.schema :=
  ⟨by simp [references], .inr rfl⟩

theorem goesBy_qualifiedName (t : Table String) : t.GoesBy t.qualifiedName "" :=
  ⟨by simp [references], .inl rfl⟩

/-- A table goes by what its columns are called by in a join. -/
theorem goesBy_qualifier (t : Table String) : t.GoesBy (t.qualifier t.qualifiedName) "" := by
  cases halias : present? t.aliasName with
  | none =>
      rw [qualifier_of_no_alias halias]
      exact t.goesBy_qualifiedName
  | some a =>
      rw [qualifier_of_alias halias]
      exact ⟨by simp [references, halias], .inl rfl⟩

end Table

/-! ## What is stated -/

/-- What a column of a table is called by, with the tables before its own at hand. -/
structure ColumnCalled (before : List (Table String)) (t : Table String) (called : String) :
    Prop where
  own : (∀ u ∈ before, ¬u.GoesBy t.name t.schema) → called = t.introducedName
  /-- A table before its own that goes by the same name is meant. -/
  taken : ∀ u, before.find? (·.GoesBy t.name t.schema) = some u → called = u.qualifier t.name
  /-- Then the column is not called by its own table, but where the other one is spelled alike. -/
  lost : ∀ u, before.find? (·.GoesBy t.name t.schema) = some u →
    called = t.introducedName → u.qualifiedName = t.introducedName

namespace Configuration

/-- A configuration has a statement with its values in the text, and what is said holds of it
and of the statement with the values beside the text if there is one. -/
def Renders (c : Configuration String) (P : Statement String → Prop) : Prop :=
  (∃ s, c.build .preview = .ok s) ∧ ∀ mode s, c.build mode = .ok s → P s

/-- The last of some joins is an inner join of two tables, still without columns. -/
structure JoinsLast (d : Configuration String) (t u : Table String) (s : Statement String)
    (right target : String) : Prop where
  clause : (s.targets .join).getLast? = some ("INNER JOIN",
    [.entry (target ++ " ON " ++ equality (t.qualifier t.qualifiedName) "" right "")])
  left_means : d.tableFor (t.qualifier t.qualifiedName) = some t
  right_target : ¬t.GoesBy u.qualifiedName "" →
    target = u.render ∧ right = u.qualifier u.qualifiedName

variable {c : Configuration String} {before after : List (Table String)} {t u : Table String}
  {reference schema : String} {P : Statement String → Prop}

theorem renders_of_statement (hlimit : c.PrintsLimit) (h : ∀ mode, P (c.statement mode)) :
    c.Renders P := by
  refine ⟨⟨_, (c.build_eq_ok_iff .preview).mpr ⟨rfl, hlimit, fun _ _ _ => rfl⟩⟩, ?_⟩
  intro mode s hs
  rw [((c.build_eq_ok_iff mode).mp hs).1]
  exact h mode

/-! ## Looking a table up -/

/-- The tables before the one that is looked for are asked first. -/
theorem tableFor_append (htables : c.tables = before ++ t :: after)
    (ht : t.GoesBy reference schema) :
    c.tableFor reference schema = some ((before.find? (·.GoesBy reference schema)).getD t) := by
  have hasked : (fun u : Table String => u.answersTo reference && u.inSchema schema) =
      fun u => decide (u.GoesBy reference schema) := by
    funext u
    rw [Bool.eq_iff_iff, Table.goesBy_iff, decide_eq_true_iff]
  rw [Configuration.tableFor, SelectQuery.tableFor, htables, hasked, List.find?_append,
    List.find?_cons_of_pos (by simpa using ht)]
  cases before.find? (·.GoesBy reference schema) <;> rfl

theorem qualifier_append (htables : c.tables = before ++ t :: after)
    (ht : t.GoesBy reference schema) :
    c.qualifier reference schema =
      ((before.find? (·.GoesBy reference schema)).getD t).qualifier reference := by
  rw [qualifier, tableFor_append htables ht]

theorem columnCalled (hnames : (c.tables.map Table.introducedName).Nodup)
    (htables : c.tables = before ++ t :: after) :
    ColumnCalled before t (c.qualifier t.name t.schema) := by
  rw [qualifier_append htables t.goesBy_key]
  constructor
  · intro hnone
    have hfind : before.find? (·.GoesBy t.name t.schema) = none := by
      simpa [List.find?_eq_none] using hnone
    rw [hfind]
    rfl
  · intro u hfind
    rw [hfind]
    rfl
  · intro u hfind hcalled
    rw [hfind, Option.getD_some] at hcalled
    have hu : u ∈ before := List.mem_of_find?_eq_some hfind
    have hgoesBy : u.GoesBy t.name t.schema := by simpa using List.find?_some hfind
    have hne : u.introducedName ≠ t.introducedName := by
      rw [htables, List.map_append, List.nodup_append] at hnames
      exact hnames.2.2 _ (List.mem_map_of_mem hu) _ (by simp)
    cases halias : present? u.aliasName with
    | some a =>
        -- an alias is introduced itself, and so no other table is
        refine absurd ?_ hne
        rw [← hcalled, Table.introducedName, Table.qualifier_of_alias halias,
          Table.qualifier_of_alias halias]
    | none =>
        rw [Table.qualifier_of_no_alias halias] at hcalled
        have hreferences : t.name = u.name ∨ t.name = u.qualifiedName := by
          simpa [Table.references, halias] using hgoesBy.1
        rcases hreferences with hname | hqualified
        · refine absurd ?_ hne
          rw [← hcalled, hname, Table.introducedName, Table.qualifier_of_no_alias halias]
        · rw [← hcalled, hqualified]

/-! ## Columns and the join of the first two tables -/

theorem getElem?_itemsOf_select {i : ℕ} {col : Column String} (hcol : c.columns[i]? = some col)
    (mode : Mode) : ((c.statement mode).itemsOf .select)[i]? =
      some (.entry (col.render (c.qualifier col.table col.schema))) := by
  have hitems : (c.statement mode).itemsOf .select = c.selectItems := by
    rw [itemsOf_statement]
    exact List.flatMap_singleton ..
  have hne : c.columns.isEmpty = false := by
    rw [List.isEmpty_eq_false_iff]
    intro hnil
    simp [hnil] at hcol
  rw [hitems, selectItems, hne, if_neg (by decide), List.getElem?_map, hcol]
  rfl

theorem getLast?_targets_join {j : Join String} (mode : Mode) :
    (({ c with joins := c.joins ++ [j] } : Configuration String).statement mode |>.targets
      .join).getLast? =
      some (j.type.keyword ++ " JOIN",
        [.entry (c.joinTarget j ++ " ON " ++ " AND ".intercalate (c.joinEqualities j))]) := by
  rw [Statement.targets, clausesOf_statement, part, List.map_append, List.map_map,
    List.map_append, List.map_singleton, ← List.append_assoc, List.getLast?_append]
  rfl

theorem joinsLast_defaultJoin (htables : c.tables = t :: u :: after) (id : String) (mode : Mode) :
    ∃ right target, JoinsLast { c with joins := c.joins ++ [defaultJoin t u id] } t u
      (({ c with joins := c.joins ++ [defaultJoin t u id] } : Configuration String).statement mode)
      right target := by
  have hfirst : c.tables = [] ++ t :: u :: after := htables
  have hsecond : c.tables = [t] ++ u :: after := htables
  have hleft : c.qualifier t.qualifiedName = t.qualifier t.qualifiedName :=
    qualifier_append hfirst t.goesBy_qualifiedName
  refine ⟨c.qualifier u.qualifiedName, c.joinTarget (defaultJoin t u id), ?_, ?_, ?_⟩
  · rw [getLast?_targets_join, ← hleft]
    have hkeyword : JoinType.inner.keyword ++ " JOIN" = "INNER JOIN" := by decide
    exact congrArg some (Prod.ext hkeyword rfl)
  · exact tableFor_append hfirst t.goesBy_qualifier
  · intro hother
    have hfound : c.tableFor u.qualifiedName = some u := by
      rw [blank, ofText_string, tableFor_append hsecond u.goesBy_qualifiedName,
        List.find?_cons_of_neg (by simpa using hother)]
      rfl
    refine ⟨?_, ?_⟩
    · unfold joinTarget defaultJoin
      rw [hfound]
    · unfold qualifier
      rw [hfound]

/-- The join that is added unasked is between selected tables, so that nothing refuses it. -/
theorem checkJoin_defaultJoin (htables : c.tables = t :: u :: after) (id path : String) :
    c.checkJoin (defaultJoin t u id) path = .ok () := by
  have hreference {v : Table String} (hv : v ∈ c.tables) (path : String) :
      c.checkReference v.qualifiedName path = .ok () := by
    obtain ⟨before, after, hsplit⟩ := List.append_of_mem hv
    have hfound := tableFor_append hsplit v.goesBy_qualifiedName
    rw [checkReference, lookupFault?_string, blank, ofText_string, hfound]
    simp
  rw [checkJoin]
  show (c.checkReference t.qualifiedName _ >>= fun _ => c.checkReference u.qualifiedName _) = _
  rw [hreference (by simp [htables])]
  exact hreference (by simp [htables]) _

theorem addJoin_none (htables : c.tables = t :: u :: after) : (c.addJoin none).Succeeds fun d =>
    ∃ id, d = { c with joins := c.joins ++ [defaultJoin t u id] } := by
  have hadd : c.addJoin none = (do
      let id ← Build.freshId .join
      Build.ofExcept (c.withJoin (defaultJoin t u id))) := by
    simp only [addJoin, htables]
  have hwith (id : String) : c.withJoin (defaultJoin t u id) =
      .ok { c with joins := c.joins ++ [defaultJoin t u id] } := by
    rw [withJoin, checkJoin_defaultJoin htables]
    rfl
  rw [hadd]
  refine (Build.Succeeds.freshId (P := fun _ => True) fun _ => trivial).bind fun id _ => ?_
  exact Build.Succeeds.ofExcept (hwith id) ⟨id, rfl⟩

/-- Where no two tables are introduced by one name, a column is called by the table it was taken
from unless a table before it goes by the same name, and the join that is added unasked is
between the first two tables unless the first goes by the name of the second. -/
theorem renders_introducedNames (hnames : (c.tables.map Table.introducedName).Nodup)
    (hlimit : c.PrintsLimit) :
    (∀ before t after (i : ℕ) (col : Column String), c.tables = before ++ t :: after →
      c.columns[i]? = some col → (col.schema, col.table) = t.key → c.Renders fun s => ∃ called,
        (s.itemsOf .select)[i]? = some (.entry (col.render called)) ∧
          ColumnCalled before t called) ∧
    ∀ t u after, c.tables = t :: u :: after → (c.addJoin none).Succeeds fun d =>
      (∃ j, d = { c with joins := c.joins ++ [j] }) ∧
        d.Renders fun s => ∃ right target, d.JoinsLast t u s right target := by
  constructor
  · intro before t after i col htables hcol hkey
    obtain ⟨hschema, htable⟩ := Prod.mk.inj hkey
    refine renders_of_statement hlimit fun mode => ⟨_, getElem?_itemsOf_select hcol mode, ?_⟩
    rw [hschema, htable]
    exact columnCalled hnames htables
  · intro t u after htables supply
    obtain ⟨d, left, hadd, id, rfl⟩ := addJoin_none htables supply
    exact ⟨_, left, hadd, ⟨_, rfl⟩,
      renders_of_statement hlimit fun mode => joinsLast_defaultJoin htables id mode⟩

/-- A table on the shelves, and one of the same name in the archive. -/
def library : Configuration String where
  tables := [⟨"books", "", none⟩, ⟨"books", "archive", some "old"⟩]
  columns := [⟨"books", "title", "archive", none, none, []⟩]

theorem renders_introducedNames_library :
    (library.tables.map Table.introducedName).Nodup ∧ library.PrintsLimit ∧
    library.Renders (fun s => (s.itemsOf .select)[0]? = some (.entry "old.title")) ∧
    (library.addJoin none).Succeeds fun d => d.Renders fun s => (s.targets .join).getLast? =
      some ("INNER JOIN", [.entry "archive.books AS old ON books. = old."]) := by
  have hnames : (library.tables.map Table.introducedName).Nodup := by decide
  have hlimit : library.PrintsLimit := by simp [PrintsLimit, library]
  obtain ⟨hcolumns, hjoin⟩ := renders_introducedNames hnames hlimit
  refine ⟨hnames, hlimit, ?_, ?_⟩
  · obtain ⟨hs, hitem⟩ := hcolumns [⟨"books", "", none⟩] ⟨"books", "archive", some "old"⟩ [] 0
      _ rfl rfl rfl
    refine ⟨hs, fun mode s h => ?_⟩
    obtain ⟨called, hselect, hcalled⟩ := hitem mode s h
    rw [hselect, hcalled.own (by decide)]
    have hrendered : (⟨"books", "title", "archive", none, none, []⟩ : Column String).render
        (Table.introducedName ⟨"books", "archive", some "old"⟩) = "old.title" := by decide
    rw [hrendered]
  · intro supply
    obtain ⟨d, left, hadd, -, hs, hclause⟩ := hjoin _ _ _ rfl supply
    refine ⟨d, left, hadd, hs, fun mode s h => ?_⟩
    obtain ⟨right, target, hlast⟩ := hclause mode s h
    obtain ⟨rfl, rfl⟩ := hlast.right_target (by decide)
    rw [hlast.clause]
    rfl

/-- A table with an alias, and one of the same name without a schema. -/
def namesakes : Configuration String where
  tables := [⟨"users", "public", some "p"⟩, ⟨"users", "", none⟩]
  columns := [⟨"users", "id", "", none, none, []⟩]

/-- The column of the second table is called by the first. -/
theorem itemsOf_select_namesakes :
    (namesakes.tables.map Table.key).Nodup ∧
    (namesakes.tables.map Table.introducedName).Nodup ∧
    ¬∀ (i : ℕ) (col : Column String), ∀ t ∈ namesakes.tables, namesakes.columns[i]? = some col →
      (col.schema, col.table) = t.key → namesakes.Renders fun s =>
        (s.itemsOf .select)[i]? = some (.entry (col.render t.introducedName)) := by
  refine ⟨by decide, by decide, fun h => ?_⟩
  obtain ⟨⟨s, hs⟩, hitem⟩ := h 0 _ ⟨"users", "", none⟩ (by simp [namesakes]) rfl rfl
  have hcalled := hitem .preview s hs
  rw [((namesakes.build_eq_ok_iff .preview).mp hs).1, getElem?_itemsOf_select rfl] at hcalled
  have hrendered : "p.id" = "users.id" := Item.entry.inj (Option.some.inj hcalled)
  exact absurd hrendered (by decide)

end Configuration
end SelectQuery
