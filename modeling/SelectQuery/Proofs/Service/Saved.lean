import SelectQuery.Proofs.Store.Reopened
import SelectQuery.Service

/-!
# What a service saves

A service shows the query of a configuration in its dialect, but its store knows no dialect: the
text that goes with a saved query is the one that a service without a dialect shows, whatever the
dialect of this one is. What is shown is that text adapted to the dialect (`preview_eq`). So the
two are one text exactly if the dialect has nothing to adapt in it (`save_preview_iff`), and this
need not be so (`save_preview_insensitive`). What the library makes of a text does not matter for
the first, and for the second it is told for the texts that are used (`samples`).
-/

namespace SelectQuery

theorem Except.eq_ok_of_toOption {ε α : Type} {r : Except ε α} {a : α}
    (h : r.toOption = some a) : r = .ok a := by
  cases r with
  | error e => cases h
  | ok b => exact congrArg _ (Option.some.inj h)

theorem Except.exists_eq_ok_of_toOption_map {ε α β : Type} {r : Except ε α} {f : α → β} {b : β}
    (h : r.toOption.map f = some b) : ∃ a, r = .ok a ∧ f a = b := by
  obtain ⟨a, ha, hb⟩ := Option.map_eq_some_iff.mp h
  exact ⟨a, Except.eq_ok_of_toOption ha, hb⟩

/-- A dialect writes a text as it is: there is no other dialect to adapt it to, or the library fails
to translate it, or the dialect spells it this way. -/
def IsSpelledFor (lib : Translator) (dialect : Option String) (text : String) : Prop :=
  ∀ d ∈ targetDialect? dialect, ∀ written, lib.rewritten d text = .ok written → written = text

variable {lib : Translator}

theorem isSpelledFor_of_targetDialect?_eq_none {dialect : Option String}
    (h : targetDialect? dialect = none) (text : String) : IsSpelledFor lib dialect text := by
  intro d hd
  rw [h] at hd
  cases hd

/-- A text that can be adapted stays as it is exactly if the dialect writes it so. -/
theorem eq_iff_isSpelledFor {dialect : Option String} {text adapted : String}
    (h : adapt lib dialect text = .ok adapted) :
    text = adapted ↔ IsSpelledFor lib dialect text := by
  cases hd : targetDialect? dialect with
  | none =>
      rw [adapt, hd] at h
      exact iff_of_true (Except.ok.inj h) (isSpelledFor_of_targetDialect?_eq_none hd text)
  | some d =>
      have hadapted : lib.translate d text = .ok adapted := by simpa only [adapt, hd] using h
      simp only [IsSpelledFor, hd, Option.mem_some_iff, forall_eq']
      rw [Translator.translate] at hadapted
      cases hwritten : lib.rewritten d text with
      | ok written =>
          rw [hwritten] at hadapted
          obtain rfl := Except.ok.inj hadapted
          simp [eq_comm]
      | error failure =>
          rw [hwritten] at hadapted
          cases failure with
          | untranslated => exact iff_of_true (Except.ok.inj hadapted) (by simp)
          | foreign kind message => cases hadapted

variable {ν μ : Type} [Entry ν]

/-- The preview in a dialect is the one without a dialect, adapted. -/
theorem Configuration.preview_eq (c : Configuration ν) (dialect : Option String) :
    c.preview lib dialect = c.preview lib none >>= adapt lib dialect := by
  have hplain (s : String) : adapt lib none s = .ok s := rfl
  simp only [preview, hplain, bind_assoc]
  rfl

namespace Service

/-- A query that is saved stands in the store behind the others, with the text that a service
without a dialect shows of its configuration. -/
theorem save_eq_ok {s : Service μ} {c : Configuration ν} {now : String}
    {name description : Value} {q : SavedQuery}
    (h : (s.save now name description c).2 = .ok q) :
    (s.save now name description c).1.store.queries = s.store.queries ++ [q] ∧
      ∀ lib, c.preview lib none = .ok q.text := by
  obtain ⟨-, e, hcreate⟩ | ⟨-, e, -, hcreate⟩ | ⟨-, q', -, hsnapshot, hcreate⟩ :=
    s.store.create_cases now name description c
  · rw [save, hcreate] at h
    cases h
  · rw [save, hcreate] at h
    cases h
  · rw [save, hcreate] at h ⊢
    obtain rfl := Except.ok.inj h
    exact ⟨rfl, (Store.snapshot_eq_ok hsnapshot).2⟩

/-- Where a configuration can be saved and shown, it is saved with the text that a service without
a dialect shows, and this is the text that is shown exactly if the dialect writes it as it is. So
it is without a dialect. This holds of every library that translates between dialects. -/
theorem save_preview_iff (s : Service μ) (c : Configuration ν) (now : String)
    (name description : Value) {q : SavedQuery} {shown : String}
    (hsaved : (s.save now name description c).2 = .ok q) (hshown : s.preview lib c = .ok shown) :
    (s.save now name description c).1.store.queries = s.store.queries ++ [q] ∧
    ({ s with dialect := none } : Service μ).preview lib c = .ok q.text ∧
    (q.text = shown ↔ IsSpelledFor lib s.dialect q.text) ∧
    (targetDialect? s.dialect = none → q.text = shown) := by
  obtain ⟨hstored, hplain⟩ := save_eq_ok hsaved
  have hadapted : adapt lib s.dialect q.text = .ok shown := by
    rw [preview, Configuration.preview_eq, hplain] at hshown
    exact hshown
  refine ⟨hstored, hplain lib, eq_iff_isSpelledFor hadapted, fun hnone => ?_⟩
  exact (eq_iff_isSpelledFor hadapted).mpr (isSpelledFor_of_targetDialect?_eq_none hnone q.text)

/-- A library that understands the texts of a table, and writes them as it says. -/
def ofTable (table : List ((String × String) × String)) : Translator where
  Node := String
  parse _ text := if table.any (·.1.2 == text) then .ok text else .error .untranslated
  placeholder? _ := none
  verbatim := id
  transform change tree := change tree
  write dialect tree :=
    match table.lookup (dialect, tree) with
    | some written => .ok written
    | none => .error .untranslated

/-- A query that two dialects write alike, and one with a condition that they do not. -/
def samples : Translator := ofTable
  [(("sqlite", "SELECT\n  users.id\nFROM public.users"),
      "SELECT\n  users.id\nFROM public.users"),
    (("mysql", "SELECT *\nFROM users\nWHERE email ILIKE 'a%'"),
      "SELECT\n  *\nFROM users\nWHERE\n  LOWER(email) LIKE LOWER('a%')")]

def inSqlite : Service Value := { dialect := some "sqlite" }

def inMysql : Service Value := { dialect := some "mysql" }

/-- A column of a table. -/
def userIds : Configuration String where
  tables := [⟨"users", "public", none⟩]
  columns := [⟨"users", "id", "", none, none, []⟩]

/-- The text is translated, and the dialect spells it the same. -/
theorem save_preview_userIds :
    ∃ q, (inSqlite.save "2024-01-01" (.text "ids") .null userIds).2 = .ok q ∧
      inSqlite.preview samples userIds = .ok "SELECT\n  users.id\nFROM public.users" ∧
      q.text = "SELECT\n  users.id\nFROM public.users" ∧
      IsSpelledFor samples inSqlite.dialect q.text := by
  have hshown : inSqlite.preview samples userIds = .ok "SELECT\n  users.id\nFROM public.users" :=
    Except.eq_ok_of_toOption (by decide +kernel)
  have htexts : (inSqlite.save "2024-01-01" (.text "ids") .null userIds).2.toOption.map
      SavedQuery.text = some "SELECT\n  users.id\nFROM public.users" := by
    decide +kernel
  obtain ⟨q, hsaved, htext⟩ := Except.exists_eq_ok_of_toOption_map htexts
  obtain ⟨-, -, hspelled, -⟩ :=
    save_preview_iff inSqlite userIds "2024-01-01" (.text "ids") .null hsaved hshown
  exact ⟨q, hsaved, hshown, htext, hspelled.mp htext⟩

/-- A condition without regard to letter case. -/
def byAddress : Configuration String where
  tables := [⟨"users", "", none⟩]
  conditions := [⟨"email", .term .ilike, "a%", none, "condition_1"⟩]

/-- What is shown is of the dialect, and what is saved is not. -/
theorem save_preview_insensitive :
    ∃ q shown, (inMysql.save "2024-01-01" (.text "a") .null byAddress).2 = .ok q ∧
      inMysql.preview samples byAddress = .ok shown ∧
      q.text = "SELECT *\nFROM users\nWHERE email ILIKE 'a%'" ∧
      shown = "SELECT\n  *\nFROM users\nWHERE\n  LOWER(email) LIKE LOWER('a%')" ∧
      q.text ≠ shown := by
  have hshown : inMysql.preview samples byAddress =
      .ok "SELECT\n  *\nFROM users\nWHERE\n  LOWER(email) LIKE LOWER('a%')" :=
    Except.eq_ok_of_toOption (by decide +kernel)
  have htexts : (inMysql.save "2024-01-01" (.text "a") .null byAddress).2.toOption.map
      SavedQuery.text = some "SELECT *\nFROM users\nWHERE email ILIKE 'a%'" := by
    decide +kernel
  obtain ⟨q, hsaved, htext⟩ := Except.exists_eq_ok_of_toOption_map htexts
  refine ⟨q, _, hsaved, hshown, htext, rfl, ?_⟩
  rw [htext]
  decide

end Service
end SelectQuery
