import SelectQuery.Dialect.Adaptation
import SelectQuery.Proofs.Configuration.Reopened
import SelectQuery.Proofs.Store.History

/-!
# Saved queries are reopened

A saved query reopens to the text that it was saved with (`Store.reopens_saved`). Every query of a
store was saved by one of the steps before, as document and text of one configuration. The
document is loaded as a configuration with the statement of that one, and the text is the text
of that statement.
-/

namespace SelectQuery

variable {ν : Type} [Entry ν]

namespace Store

/-- A query of a store has document and text of a configuration that was to be saved. -/
theorem exists_snapshot {steps : List (StoreStep ν)} {q : SavedQuery}
    (hq : q ∈ (after steps).queries) :
    ∃ now name description c, .create now name description c ∈ steps ∧
      snapshot c = .ok (q.document, q.text) := by
  obtain ⟨later, ⟨before, now, name, description, c, rfl, hsaved⟩, -⟩ :=
    (mem_queries_after_iff steps q).mp hq
  refine ⟨now, name, description, c, List.mem_append_right _ (List.mem_cons_self ..), ?_⟩
  obtain ⟨-, e, h⟩ | ⟨-, e, -, h⟩ | ⟨-, q', -, hsnapshot, h⟩ :=
    (after before).create_cases now name description c
  · rw [h] at hsaved
    exact absurd hsaved (by simp)
  · rw [h] at hsaved
    exact absurd hsaved (by simp)
  · rw [h] at hsaved
    rwa [← Except.ok.inj hsaved]

theorem snapshot_eq_ok {c : Configuration ν} {document text : String}
    (h : snapshot c = .ok (document, text)) :
    c.document = .ok document ∧ ∀ lib, c.preview lib none = .ok text := by
  obtain ⟨written, hwritten, h⟩ := Except.bind_eq_ok.mp h
  obtain ⟨s, hs, h⟩ := Except.bind_eq_ok.mp h
  obtain ⟨rendered, hrendered, h⟩ := Except.bind_eq_ok.mp h
  obtain ⟨rfl, rfl⟩ := Prod.mk.inj (Except.ok.inj h)
  refine ⟨hwritten, fun lib => ?_⟩
  exact Except.bind_eq_ok.mpr ⟨s, hs, Except.bind_eq_ok.mpr ⟨rendered, hrendered, rfl⟩⟩

end Store

/-- What is built with values for entries reads the same. -/
theorem Configuration.preview_congr {c : Configuration ν} {d : Configuration Value}
    (h : d.build .preview = Statement.values <$> c.build .preview) (lib : Translator)
    (dialect : Option String) : d.preview lib dialect = c.preview lib dialect := by
  unfold preview
  rw [h]
  cases c.build .preview with
  | error e => rfl
  | ok s =>
      show s.values.render >>= adapt lib dialect = s.render >>= adapt lib dialect
      rw [s.render_values]

/-- A configuration whose parts are of their types is written, and its document reopens with
the same statement in both modes. So does every query that such configurations were saved as:
whatever was done with the store, it reopens to the text it was saved with. -/
theorem Store.reopens_saved [LawfulEntry ν] :
    (∀ c : Configuration ν, c.IsTyped → c.Reopens) ∧
    ∀ steps : List (StoreStep ν),
      (∀ now name description c, .create now name description c ∈ steps → c.IsTyped) →
        ∀ q ∈ (after steps).queries, q.configuration.Succeeds fun d =>
          ∀ lib, d.preview lib none = .ok q.text := by
  refine ⟨fun c hc => hc.reopens, fun steps hsteps q hq supply => ?_⟩
  obtain ⟨now, name, description, c, hcreate, hsnapshot⟩ := exists_snapshot hq
  obtain ⟨hdocument, htext⟩ := snapshot_eq_ok hsnapshot
  have hc : c.IsTyped := hsteps now name description c hcreate
  obtain ⟨d, left, hload, hbuild⟩ := hc.reopens.reopened q.document hdocument supply
  exact ⟨d, left, hload, fun lib =>
    (Configuration.preview_congr (hbuild .preview) lib none).trans (htext lib)⟩

/-- An alias without a text, and a join and a condition without identifiers. -/
def unnamedConfiguration : Configuration String where
  tables := [⟨"users", "public", some ""⟩, ⟨"orders", "public", some "o"⟩]
  columns := [⟨"o", "total", "", some "", some .sum, []⟩]
  joins := [⟨"users", "id", "orders", "user_id", .left, [⟨"region", "region", ""⟩], ""⟩]
  conditions := [⟨"users.age", .term .between, "18 and 30", none, ""⟩]
  groupBy := ["users.id"]
  orderBy := [⟨"users.id", .term .desc⟩]
  limit := some 10

/-- It is saved, looked for and saved once more. -/
def unnamedSteps : List (StoreStep String) :=
  [.create "2024-01-01" (.text "first") .null unnamedConfiguration, .get (.int 1),
    .create "2024-01-02" (.text "second") .null unnamedConfiguration, .delete (.int 1)]

theorem Store.reopens_saved_unnamed :
    unnamedConfiguration.IsTyped ∧ unnamedConfiguration.Reopens ∧
    (after unnamedSteps).queries.map SavedQuery.text =
      ["\n".intercalate ["SELECT", "  SUM(o.total)", "FROM public.users",
        "LEFT JOIN public.orders AS o ON users.id = o.user_id AND users.region = o.region",
        "WHERE users.age BETWEEN 18 AND 30", "GROUP BY users.id", "ORDER BY users.id DESC",
        "LIMIT 10"]] ∧
    ∀ q ∈ (after unnamedSteps).queries, q.configuration.Succeeds fun d =>
      ∀ lib, d.preview lib none = .ok q.text := by
  have hc : unnamedConfiguration.IsTyped := by
    refine ⟨by simp, by simp, ?_, ?_, ⟨false, rfl⟩⟩
    · intro x hx
      obtain rfl := List.mem_singleton.mp hx
      exact ⟨⟨.between, rfl⟩, ⟨_, rfl⟩, ⟨none, rfl⟩⟩
    · intro o ho
      obtain rfl := List.mem_singleton.mp ho
      exact ⟨.desc, rfl⟩
  refine ⟨hc, reopens_saved.1 unnamedConfiguration hc, by decide +kernel, ?_⟩
  refine reopens_saved.2 unnamedSteps fun now name description c hcreate => ?_
  obtain ⟨-, -, -, rfl⟩ | ⟨-, -, -, rfl⟩ : _ ∨ _ := by simpa [unnamedSteps] using hcreate
  · exact hc
  · exact hc

end SelectQuery
