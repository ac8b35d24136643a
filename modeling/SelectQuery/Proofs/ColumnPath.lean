import SelectQuery.ColumnPath
import SelectQuery.Proofs.Text.Blank
import SelectQuery.Proofs.Text.Joined

/-!
# The parts of a column path

What is read as a path consists of identifiers, and an identifier has no point in it. So a
path is cut in one way only: a text is read as a path exactly if it is made of the parts of that
path, with blanks around it at most (`parse?_eq_some_iff`).

From this follows which texts are paths at all, what the text of a path is, and that a path which
was formed from names is read as those names (`parse?_exact`).
-/

namespace SelectQuery.ColumnPath

theorem isInner_of_isInitial {c : Char} (h : isInitial c = true) : isInner c = true := by
  rw [isInitial, Bool.or_eq_true] at h
  rcases h with hletter | hunderscore
  · simp [isInner, Char.isAlphanum, hletter]
  · simp [isInner, hunderscore]

theorem isInner_of_mem {cs : List Char} (h : isIdentifier cs = true) :
    ∀ c ∈ cs, isInner c = true := by
  cases cs with
  | nil => simp
  | cons c rest =>
      obtain ⟨hinitial, hinner⟩ : isInitial c = true ∧ ∀ d ∈ rest, isInner d = true := by
        simpa [isIdentifier] using h
      exact List.forall_mem_cons.mpr ⟨isInner_of_isInitial hinitial, hinner⟩

theorem point_notMem {cs : List Char} (h : isIdentifier cs = true) : '.' ∉ cs :=
  fun hmem => absurd (isInner_of_mem h '.' hmem) (by decide)

theorem ne_nil_of_isIdentifier {cs : List Char} (h : isIdentifier cs = true) : cs ≠ [] := by
  rintro rfl
  simp [isIdentifier] at h

/-- The parts of a path that was read are identifiers, and a schema comes with a table. -/
theorem isIdentifier_of_parse? {s : String} {p : ColumnPath} (h : parse? s = some p) :
    isIdentifier p.column.toList = true ∧ (∀ t, p.table = some t → isIdentifier t.toList = true) ∧
      ∀ r, p.schema = some r → isIdentifier r.toList = true ∧ p.table.isSome = true := by
  simp only [parse?] at h
  split at h
  · next hall =>
      have hparts : ∀ part ∈ (Text.splitOn '.' (Text.trim s.toList)).map String.ofList,
          isIdentifier part.toList = true := by
        simpa [List.all_eq_true] using hall
      -- one, two or three parts
      split at h
      · next column hpieces =>
          cases h
          simpa [hpieces] using hparts
      · next table column hpieces =>
          cases h
          simpa [hpieces, and_comm] using hparts
      · next schema table column hpieces =>
          cases h
          simp only [hpieces, List.forall_mem_cons] at hparts
          obtain ⟨hschema, htable, hcolumn, -⟩ := hparts
          exact ⟨hcolumn, by simpa using htable, by simpa using hschema⟩
      · simp at h
  · simp at h

/-! ## What is stated -/

/-- A letter of ASCII. -/
def IsLetter (c : Char) : Prop := ('A' ≤ c ∧ c ≤ 'Z') ∨ ('a' ≤ c ∧ c ≤ 'z')

/-- A digit of ASCII. -/
def IsDigit (c : Char) : Prop := '0' ≤ c ∧ c ≤ '9'

/-- A letter or underscore, and then letters, digits, underscores and dollar signs. -/
def IsName (s : String) : Prop :=
  ∃ c rest, s.toList = c :: rest ∧ (IsLetter c ∨ c = '_') ∧
    ∀ d ∈ rest, IsLetter d ∨ IsDigit d ∨ d = '_' ∨ d = '$'

/-- One to three names with a point between each two of them. -/
def IsDotted (s : String) : Prop :=
  ∃ names : List String, names.length ∈ [1, 2, 3] ∧ (∀ name ∈ names, IsName name) ∧
    s = ".".intercalate names

/-! ## Names -/

theorem isAlpha_iff {c : Char} : c.isAlpha = true ↔ IsLetter c := by
  have hupper : c.isUpper = true ↔ 'A' ≤ c ∧ c ≤ 'Z' := decide_eq_true_iff
  have hlower : c.isLower = true ↔ 'a' ≤ c ∧ c ≤ 'z' :=
    Bool.and_eq_true_iff.trans (and_congr decide_eq_true_iff decide_eq_true_iff)
  have halpha : c.isAlpha = (c.isUpper || c.isLower) := rfl
  rw [halpha, Bool.or_eq_true, hupper, hlower, IsLetter]

theorem isDigit_iff {c : Char} : c.isDigit = true ↔ IsDigit c :=
  Bool.and_eq_true_iff.trans (and_congr decide_eq_true_iff decide_eq_true_iff)

theorem isInitial_iff {c : Char} : isInitial c = true ↔ IsLetter c ∨ c = '_' := by
  simp [isInitial, isAlpha_iff]

theorem isInner_iff {c : Char} :
    isInner c = true ↔ IsLetter c ∨ IsDigit c ∨ c = '_' ∨ c = '$' := by
  simp [isInner, Char.isAlphanum, isAlpha_iff, isDigit_iff, or_assoc]

theorem isIdentifier_iff {s : String} : isIdentifier s.toList = true ↔ IsName s := by
  unfold IsName
  cases s.toList with
  | nil => simp [isIdentifier]
  | cons c rest => simp [isIdentifier, isInitial_iff, isInner_iff]

theorem not_isBlank_of_isInner {c : Char} (h : isInner c = true) : Text.isBlank c = false := by
  have hcode {n : ℕ} (hlo : 33 ≤ n) (hhi : n ≤ 122) : Text.isBlankCode n = false := by
    simp [Text.isBlankCode]
    omega
  rcases isInner_iff.mp h with (⟨hlo, hhi⟩ | ⟨hlo, hhi⟩) | ⟨hlo, hhi⟩ | rfl | rfl
  · have hlo : 65 ≤ c.toNat := hlo
    have hhi : c.toNat ≤ 90 := hhi
    exact hcode (by omega) (by omega)
  · have hlo : 97 ≤ c.toNat := hlo
    exact hcode (by omega) hhi
  · have hlo : 48 ≤ c.toNat := hlo
    have hhi : c.toNat ≤ 57 := hhi
    exact hcode (by omega) (by omega)
  · rfl
  · rfl

/-! ## Parts -/

/-- The parts of a path that are there, the schema first. -/
def parts (p : ColumnPath) : List String := p.schema.toList ++ p.table.toList ++ [p.column]

/-- A path of names. A schema comes with a table. -/
structure IsNamed (p : ColumnPath) : Prop where
  column : IsName p.column
  table : ∀ t ∈ p.table, IsName t
  schema : ∀ r ∈ p.schema, IsName r ∧ p.table.isSome = true

variable {p : ColumnPath} {s : String}

theorem IsNamed.parts (h : p.IsNamed) : ∀ part ∈ p.parts, IsName part := by
  simp only [ColumnPath.parts, List.forall_mem_append, Option.mem_toList, List.forall_mem_singleton]
  exact ⟨⟨fun r hr => (h.schema r hr).1, h.table⟩, h.column⟩

theorem IsName.ne_empty (h : IsName s) : s ≠ "" := by
  obtain ⟨c, rest, hs, -⟩ := h
  rintro rfl
  simp at hs

theorem length_parts (p : ColumnPath) : p.parts.length ∈ [1, 2, 3] := by
  cases hschema : p.schema <;> cases htable : p.table <;> simp [parts, hschema, htable]

/-- No part of a path of names is left out of its text. -/
theorem IsNamed.text_eq (h : p.IsNamed) : p.text = ".".intercalate p.parts := by
  obtain ⟨column, table, schema⟩ := p
  have hcolumn := h.column.ne_empty
  cases table with
  | none =>
      cases schema with
      | none => simp [text, ColumnPath.parts, hcolumn]
      | some r => simpa using (h.schema r rfl).2
  | some t =>
      have htable := (h.table t rfl).ne_empty
      cases schema with
      | none => simp [text, ColumnPath.parts, hcolumn, htable]
      | some r =>
          have hschema := (h.schema r rfl).1.ne_empty
          simp [text, ColumnPath.parts, hcolumn, htable, hschema]

/-- One to three names are the parts of a path. -/
theorem exists_parts {names : List String} (hlength : names.length ∈ [1, 2, 3])
    (hnames : ∀ name ∈ names, IsName name) : ∃ p : ColumnPath, p.IsNamed ∧ p.parts = names := by
  match names with
  | [column] =>
      rw [List.forall_mem_singleton] at hnames
      exact ⟨⟨column, none, none⟩, ⟨hnames, by simp, by simp⟩, rfl⟩
  | [table, column] =>
      simp only [List.forall_mem_cons] at hnames
      exact ⟨⟨column, some table, none⟩, ⟨hnames.2.1, by simpa using hnames.1, by simp⟩, rfl⟩
  | [schema, table, column] =>
      simp only [List.forall_mem_cons] at hnames
      obtain ⟨hschema, htable, hcolumn, -⟩ := hnames
      exact ⟨⟨column, some table, some schema⟩,
        ⟨hcolumn, by simpa using htable, by simpa using hschema⟩, rfl⟩
  | [] | _ :: _ :: _ :: _ :: _ => simp at hlength

/-! ## Reading -/

theorem isNamed_of_parse? (h : parse? s = some p) : p.IsNamed := by
  obtain ⟨hcolumn, htable, hschema⟩ := isIdentifier_of_parse? h
  exact ⟨isIdentifier_iff.mp hcolumn, fun t ht => isIdentifier_iff.mp (htable t ht),
    fun r hr => (hschema r hr).imp_left isIdentifier_iff.mp⟩

/-- The parts of a path are what stands between the points. -/
theorem parts_of_parse? (h : parse? s = some p) :
    p.parts = (Text.splitOn '.' (Text.trim s.toList)).map String.ofList := by
  simp only [parse?] at h
  split at h
  · split at h
    · next column hpieces => cases h; exact hpieces.symm
    · next table column hpieces => cases h; exact hpieces.symm
    · next schema table column hpieces => cases h; exact hpieces.symm
    · simp at h
  · simp at h

/-- A path is read off a text that is made of its parts. -/
theorem parse?_eq_some_iff :
    parse? s = some p ↔ p.IsNamed ∧ Text.trimmed s = ".".intercalate p.parts := by
  constructor
  · intro h
    refine ⟨isNamed_of_parse? h, ?_⟩
    rw [parts_of_parse? h, Text.splitOn_eq, Text.trimmed, ← String.toList_inj,
      String.toList_intercalate, List.map_map]
    simp [Function.comp_def, List.intercalate_splitOn]
  · rintro ⟨hp, hs⟩
    have hpoint : ∀ part ∈ p.parts.map String.toList, '.' ∉ part :=
      List.forall_mem_map.mpr fun part hpart =>
        point_notMem (isIdentifier_iff.mpr (hp.parts part hpart))
    have htrim : Text.trim s.toList = ['.'].intercalate (p.parts.map String.toList) := by
      have hchars := congrArg String.toList hs
      rwa [Text.trimmed, String.toList_ofList, String.toList_intercalate] at hchars
    have hpieces : Text.splitOn '.' (Text.trim s.toList) = p.parts.map String.toList := by
      rw [Text.splitOn_eq, htrim, List.splitOn_intercalate '.' hpoint (by simp [parts])]
    have hnames : (p.parts.map String.toList).all isIdentifier = true := by
      rw [List.all_eq_true, List.forall_mem_map]
      exact fun part hpart => isIdentifier_iff.mpr (hp.parts part hpart)
    have hparts : (p.parts.map String.toList).map String.ofList = p.parts := by
      simp [Function.comp_def]
    simp only [parse?, hpieces, hnames, hparts, if_true]
    obtain ⟨column, table, schema⟩ := p
    cases table with
    | some t => cases schema <;> rfl
    | none =>
        cases schema with
        | none => rfl
        | some r => simpa using (hp.schema r rfl).2

/-- A path of names has no blanks around it. -/
theorem IsNamed.trimmed_text (h : p.IsNamed) : Text.trimmed p.text = p.text := by
  have hparts : ∀ piece ∈ p.parts.map String.toList, ∀ c ∈ piece, Text.isBlank c = false :=
    List.forall_mem_map.mpr fun part hpart c hc =>
      not_isBlank_of_isInner (isInner_of_mem (isIdentifier_iff.mpr (h.parts part hpart)) c hc)
  have hpoint : ∀ c ∈ ".".toList, Text.isBlank c = false := List.forall_mem_singleton.mpr rfl
  have hblank : ∀ c ∈ p.text.toList, Text.isBlank c = false := by
    rw [h.text_eq, String.toList_intercalate]
    exact Text.forall_mem_intercalate hpoint hparts
  rw [Text.trimmed, Text.trim_eq_self (fun c hc => hblank c (List.mem_of_mem_head? hc))
    fun c hc => hblank c (List.mem_of_getLast? hc), String.ofList_toList]

/-- Reading accepts one to three names with points between them and blanks around, and the text
of what was read is the text without the blanks. The path of a column is read as that column, in
its table and its schema. -/
theorem parse?_exact :
    (∀ s, (parse? s).isSome = true ↔ IsDotted (Text.trimmed s)) ∧
    (∀ s p, parse? s = some p → p.text = Text.trimmed s) ∧
    ∀ table column schema, IsName table → IsName column →
      (∀ r, schema = some r → r = "" ∨ IsName r) →
        parse? (form table column schema) =
          some ⟨column, some table, if schema = some "" then none else schema⟩ := by
  refine ⟨fun s => ?_, fun s p h => ?_, fun table column schema htable hcolumn hschema => ?_⟩
  · rw [Option.isSome_iff_exists]
    constructor
    · rintro ⟨p, hp⟩
      obtain ⟨hnamed, htext⟩ := parse?_eq_some_iff.mp hp
      exact ⟨p.parts, p.length_parts, hnamed.parts, htext⟩
    · rintro ⟨names, hlength, hnames, htext⟩
      obtain ⟨p, hnamed, rfl⟩ := exists_parts hlength hnames
      exact ⟨p, parse?_eq_some_iff.mpr ⟨hnamed, htext⟩⟩
  · obtain ⟨hnamed, htext⟩ := parse?_eq_some_iff.mp h
    rw [hnamed.text_eq, htext]
  · have hfilter : schema.filter (· != "") = if schema = some "" then none else schema := by
      cases schema with
      | none => rfl
      | some r => by_cases hr : r = "" <;> simp [hr]
    have hnamed : IsNamed ⟨column, some table, if schema = some "" then none else schema⟩ := by
      refine ⟨hcolumn, by simpa using htable, fun r hr => ⟨?_, rfl⟩⟩
      simp only [Option.mem_def, ite_eq_iff, reduceCtorEq, and_false, false_or] at hr
      exact (hschema r hr.2).resolve_left fun hempty => hr.1 (hempty ▸ hr.2)
    rw [form, hfilter, parse?_eq_some_iff, hnamed.trimmed_text, hnamed.text_eq]
    exact ⟨hnamed, rfl⟩

/-- A no-break space and a line feed are blanks too, and an empty schema is none. -/
theorem parse?_exact_users :
    parse? "\u00a0public.users.id\n" = some ⟨"id", some "users", some "public"⟩ ∧
    text ⟨"id", some "users", some "public"⟩ = Text.trimmed "\u00a0public.users.id\n" ∧
    IsName "users" ∧ IsName "_id$2" ∧ (∀ r, some "" = some r → r = "" ∨ IsName r) ∧
    parse? (form "users" "_id$2" (some "")) = some ⟨"_id$2", some "users", none⟩ := by
  have hread : parse? "\u00a0public.users.id\n" = some ⟨"id", some "users", some "public"⟩ := by
    decide
  have htable : IsName "users" := isIdentifier_iff.mp (by decide)
  have hcolumn : IsName "_id$2" := isIdentifier_iff.mp (by decide)
  have hschema : ∀ r, some "" = some r → r = "" ∨ IsName r :=
    fun r hr => .inl (Option.some.inj hr).symm
  exact ⟨hread, parse?_exact.2.1 _ _ hread, htable, hcolumn, hschema,
    parse?_exact.2.2 "users" "_id$2" (some "") htable hcolumn hschema⟩

end SelectQuery.ColumnPath
