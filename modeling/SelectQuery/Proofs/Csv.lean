import SelectQuery.Result

/-!
# Reading comma-separated values

A reader goes through a document character by character. A comma ends a field and a line feed a
record, unless they stand inside of quotes, where a pair of quotes is one of the text. A line feed
in front of a record is a record without fields. What is written in no such way is refused: a
quote or a carriage return inside of a field without quotes, text behind a closing quote, a last
record that is not ended.

What is written for some records is read as these records (`read_document`). The reader is
followed from one field to the next: wherever it stands in front of a field, it stands in front of
the next one, or of the next record, with that field added (`run_field`). Only a record of one
empty field needs its quotes, for in front of a record a line feed does not end a field.
-/

namespace SelectQuery

namespace Csv

/-! ## The reader -/

/-- Where a reader stands. -/
inductive Place
  | record
  | field
  | plain
  | quoted
  /-- Behind a quote that closes a field or is the first of a pair. -/
  | closing
  deriving DecidableEq, Repr

/-- How far a reader has come: the records that are complete, the complete fields of the next
record, and what has been read of the field in which it stands. -/
structure Reading where
  place : Place := .record
  records : List (List (List Char)) := []
  fields : List (List Char) := []
  text : List Char := []
  deriving DecidableEq, Repr

namespace Reading

/-- One more character of the field. -/
def push (r : Reading) (place : Place) (c : Char) : Reading :=
  { r with place, text := r.text ++ [c] }

def endField (r : Reading) : Reading := ⟨.field, r.records, r.fields ++ [r.text], []⟩

def endRecord (r : Reading) : Reading := ⟨.record, r.records ++ [r.fields ++ [r.text]], [], []⟩

/-- The reader reads a character, or it refuses it. -/
def step (r : Reading) (c : Char) : Option Reading :=
  match r.place with
  | .record =>
    if c = lineFeed then some ⟨.record, r.records ++ [[]], [], []⟩ else start
  | .field => if c = lineFeed then some r.endRecord else start
  | .plain =>
    if c = comma then some r.endField
    else if c = lineFeed then some r.endRecord
    else if c = quote ∨ c = carriageReturn then none
    else some (r.push .plain c)
  | .quoted => if c = quote then some { r with place := .closing } else some (r.push .quoted c)
  | .closing =>
    if c = quote then some (r.push .quoted c)
    else if c = comma then some r.endField
    else if c = lineFeed then some r.endRecord
    else none
where
  /-- The first character of a field that does not end a record. -/
  start : Option Reading :=
    if c = comma then some r.endField
    else if c = quote then some { r with place := .quoted }
    else if c = carriageReturn then none
    else some (r.push .plain c)

def run (r : Reading) (cs : List Char) : Option Reading := cs.foldlM step r

end Reading

/-- The records of a document. -/
def read (cs : List Char) : Option (List (List (List Char))) :=
  ((Reading.run {} cs).filter (·.place = .record)).map Reading.records

/-! ## Fields -/

namespace Reading

variable {r : Reading} {cs ds : List Char}

theorem run_append (r : Reading) (cs ds : List Char) :
    r.run (cs ++ ds) = (r.run cs).bind fun r' => r'.run ds := List.foldlM_append

theorem run_cons (r : Reading) (c : Char) (cs : List Char) :
    r.run (c :: cs) = (r.step c).bind fun r' => r'.run cs := List.foldlM_cons

/-- Inside of a field without quotes nothing special can happen. -/
theorem run_plain (records : List (List (List Char))) (fields : List (List Char))
    (text : List Char) (h : ∀ c ∈ cs, isSpecial c = false) :
    run ⟨.plain, records, fields, text⟩ cs = some ⟨.plain, records, fields, text ++ cs⟩ := by
  induction cs generalizing text with
  | nil => simp [run]
  | cons c cs ih =>
      obtain ⟨hc, hcs⟩ := List.forall_mem_cons.mp h
      have hkept : c ≠ comma ∧ c ≠ quote ∧ c ≠ lineFeed ∧ c ≠ carriageReturn := by
        simpa [isSpecial, and_assoc] using hc
      have hstep : step ⟨.plain, records, fields, text⟩ c =
          some ⟨.plain, records, fields, text ++ [c]⟩ := by
        simp [step, push, hkept]
      rw [run_cons, hstep, Option.bind_some, ih _ hcs, List.append_assoc, List.singleton_append]

/-- A quote that is written twice is read as one. -/
theorem run_doubled (records : List (List (List Char))) (fields : List (List Char))
    (text cs : List Char) :
    run ⟨.quoted, records, fields, text⟩ (doubled cs) =
      some ⟨.quoted, records, fields, text ++ cs⟩ := by
  induction cs generalizing text with
  | nil => simp [run]
  | cons c cs ih =>
      have hpushed := ih (text ++ [c])
      rw [List.append_assoc, List.singleton_append] at hpushed
      by_cases hc : c = quote
      · subst hc
        have hclosing : step ⟨.quoted, records, fields, text⟩ quote =
            some ⟨.closing, records, fields, text⟩ := rfl
        have hpair : step ⟨.closing, records, fields, text⟩ quote =
            some ⟨.quoted, records, fields, text ++ [quote]⟩ := rfl
        rw [doubled, if_pos (by simp), run_cons, hclosing, Option.bind_some, run_cons, hpair,
          Option.bind_some, hpushed]
      · have hstep : step ⟨.quoted, records, fields, text⟩ c =
            some ⟨.quoted, records, fields, text ++ [c]⟩ := by
          simp [step, push, hc]
        rw [doubled, if_neg (by simpa using hc), run_cons, hstep, Option.bind_some, hpushed]

/-- The reader stands in front of a field. -/
def IsAhead (place : Place) : Prop := place = .field ∨ place = .record

variable {place : Place}

theorem run_quoted (hplace : IsAhead place) (records : List (List (List Char)))
    (fields : List (List Char)) (cs : List Char) :
    run ⟨place, records, fields, []⟩ (quoted cs) = some ⟨.closing, records, fields, cs⟩ := by
  have hopen : step ⟨place, records, fields, []⟩ quote = some ⟨.quoted, records, fields, []⟩ := by
    rcases hplace with rfl | rfl <;> rfl
  have hclose : run ⟨.quoted, records, fields, cs⟩ [quote] =
      some ⟨.closing, records, fields, cs⟩ := rfl
  rw [quoted, List.cons_append, run_cons, hopen, Option.bind_some, run_append, run_doubled,
    List.nil_append, Option.bind_some, hclose]

theorem run_unquoted (hplace : IsAhead place) (records : List (List (List Char)))
    (fields : List (List Char)) (hne : cs ≠ []) (h : ∀ c ∈ cs, isSpecial c = false) :
    run ⟨place, records, fields, []⟩ cs = some ⟨.plain, records, fields, cs⟩ := by
  obtain ⟨c, cs, rfl⟩ := List.exists_cons_of_ne_nil hne
  obtain ⟨hc, hcs⟩ := List.forall_mem_cons.mp h
  have hkept : c ≠ comma ∧ c ≠ quote ∧ c ≠ lineFeed ∧ c ≠ carriageReturn := by
    simpa [isSpecial, and_assoc] using hc
  have hstep : step ⟨place, records, fields, []⟩ c = some ⟨.plain, records, fields, [c]⟩ := by
    rcases hplace with rfl | rfl <;> simp [step, step.start, push, hkept]
  rw [run_cons, hstep, Option.bind_some, run_plain records fields [c] hcs, List.singleton_append]

/-- Where the reader stands behind a field and the character that ends it. -/
def ended (r : Reading) (stop : Char) : Reading := if stop = comma then r.endField else r.endRecord

/-- A field is read up to the comma or the line feed behind it. In front of a record a line feed
means a record without fields. -/
theorem run_field (hplace : IsAhead place) (records : List (List (List Char)))
    (fields : List (List Char)) {stop : Char} (hstop : stop = comma ∨ stop = lineFeed)
    (hfirst : place = .record → cs = [] → stop = comma) :
    run ⟨place, records, fields, []⟩ (field cs ++ [stop]) =
      some (ended ⟨place, records, fields, cs⟩ stop) := by
  rw [field, run_append]
  split
  · next hspecial =>
      rw [run_quoted hplace, Option.bind_some]
      rcases hstop with rfl | rfl <;> rfl
  · next hspecial =>
      have hkept : ∀ c ∈ cs, isSpecial c = false := by simpa using hspecial
      cases cs with
      | nil =>
          rcases hplace with rfl | rfl
          · rcases hstop with rfl | rfl <;> rfl
          · obtain rfl := hfirst rfl rfl
            rfl
      | cons c cs =>
          rw [run_unquoted hplace records fields (List.cons_ne_nil c cs) hkept, Option.bind_some]
          rcases hstop with rfl | rfl <;> rfl

/-! ## Records -/

/-- The fields of a record are read one after the other, up to the line feed. -/
theorem run_fields (hplace : IsAhead place) (records : List (List (List Char)))
    (before : List (List Char)) {cells : List (List Char)} (hne : cells ≠ [])
    (hfirst : place = .record → cells ≠ [[]]) :
    run ⟨place, records, before, []⟩ (Csv.fields cells ++ [lineFeed]) =
      some ⟨.record, records ++ [before ++ cells], [], []⟩ := by
  induction cells generalizing place before with
  | nil => exact absurd rfl hne
  | cons cs cells ih =>
      cases cells with
      | nil =>
          have hcs : place = .record → cs = [] → lineFeed = comma :=
            fun hrecord hnil => absurd (by rw [hnil]) (hfirst hrecord)
          rw [Csv.fields, run_field hplace records before (.inr rfl) hcs]
          rfl
      | cons next cells =>
          have hsplit : Csv.fields (cs :: next :: cells) ++ [lineFeed] =
              (field cs ++ [comma]) ++ (Csv.fields (next :: cells) ++ [lineFeed]) := by
            simp [Csv.fields]
          have hfield : run ⟨place, records, before, []⟩ (field cs ++ [comma]) =
              some ⟨.field, records, before ++ [cs], []⟩ :=
            run_field hplace records before (.inl rfl) fun _ _ => rfl
          rw [hsplit, run_append, hfield, Option.bind_some,
            ih (.inl rfl) (before ++ [cs]) (List.cons_ne_nil next cells) (by simp),
            List.append_assoc, List.singleton_append]

theorem run_record (records : List (List (List Char))) (cells : List (List Char)) :
    run ⟨.record, records, [], []⟩ (record cells) =
      some ⟨.record, records ++ [cells], [], []⟩ := by
  rw [record]
  split
  · next hempty =>
      rw [beq_iff_eq.mp hempty, run_append, run_quoted (.inr rfl)]
      rfl
  · next hempty =>
      cases cells with
      | nil => rfl
      | cons cs cells =>
          exact run_fields (.inr rfl) records [] (List.cons_ne_nil cs cells)
            fun _ => by simpa using hempty

/-- What is written for some records is read as these records. -/
theorem run_document (before records : List (List (List Char))) :
    run ⟨.record, before, [], []⟩ (document records) =
      some ⟨.record, before ++ records, [], []⟩ := by
  induction records generalizing before with
  | nil => simp [run]
  | cons cells records ih =>
      rw [document_cons, run_append, run_record, Option.bind_some, ih, List.append_assoc,
        List.singleton_append]

end Reading

theorem read_document (records : List (List (List Char))) :
    read (document records) = some records := by
  have hrun := Reading.run_document [] records
  rw [List.nil_append] at hrun
  rw [read, hrun]
  rfl

end Csv

/-! ## Results -/

namespace Result

/-- A result of texts and missing values. -/
def ofTexts (columns : List String) (rows : List (List (Option String))) : Result where
  columns := columns.map .text
  rows := rows.map fun row => .list (row.map fun cell => (cell.map .text).getD .null)

theorem cells_list (items : List Value) : cells (.list items) = .ok (items.map cell) := rfl

theorem cell_entry (s : Option String) : cell ((s.map .text).getD .null) = (s.getD "").toList := by
  cases s <;> rfl

theorem mapM_cells (columns : List String) (rows : List (List (Option String))) :
    (ofTexts columns rows).rows.mapM cells =
      .ok (rows.map fun row => row.map fun s => (s.getD "").toList) := by
  rw [ofTexts]
  induction rows with
  | nil => rfl
  | cons row rows ih =>
      rw [List.map_cons, List.mapM_cons, cells_list, ih, List.map_map]
      simp only [Function.comp_def, cell_entry]
      rfl

/-- A result of texts is written, and is read again as the names of the columns and the rows behind
them, with an empty text for a missing value. -/
theorem read_csv (columns : List String) (rows : List (List (Option String))) :
    ∃ text, (ofTexts columns rows).csv = .ok text ∧ Csv.read text.toList =
      some ((columns :: rows.map (List.map (·.getD ""))).map (List.map String.toList)) := by
  have hcolumns : (ofTexts columns rows).columns.map cell = columns.map String.toList := by
    rw [ofTexts, List.map_map]
    rfl
  refine ⟨_, by rw [csv, mapM_cells]; rfl, ?_⟩
  rw [String.toList_ofList, Csv.read_document, hcolumns]
  simp [Function.comp_def]

/-- Commas, quotes and line breaks are no obstacle, nor are rows of other widths. -/
example : Csv.read "a,\"b,c\"\n\"say \"\"hi\"\"\",\"1\r\n2\"\n\"\"\n\n,\n".toList =
    some (([["a", "b,c"], ["say \"hi\"", "1\r\n2"], [""], [], ["", ""]] :
      List (List String)).map (List.map String.toList)) := by
  decide

end Result
end SelectQuery
