import SelectQuery.Proofs.Value.Numeral

/-!
# Documents are read back

What `Json.write` writes, `Json.read` reads again as the same value (`read_write`), for every
value that a document can hold: the names of an object's fields are distinct and an integer
has no more than `digitLimit` digits.

The readers are run on a written value with something behind it that cannot belong to it,
and on more fuel than the written value is long. Texts, numbers, items and fields have their
own lemmas, and the theorem is one induction over the value.
-/

namespace SelectQuery

namespace Value

mutual

/-- A value that a document can hold. -/
def IsDocument : Value → Prop
  | .int n => n.natAbs < 10 ^ digitLimit
  | .list items => AreDocuments items
  | .object fields => (fields.map Prod.fst).Nodup ∧ FieldsAreDocuments fields
  | _ => True

/-- Each of some values can be held by a document. -/
def AreDocuments : List Value → Prop
  | [] => True
  | x :: rest => x.IsDocument ∧ AreDocuments rest

/-- The value of each of some fields can be held by a document. -/
def FieldsAreDocuments : List (String × Value) → Prop
  | [] => True
  | (_, x) :: rest => x.IsDocument ∧ FieldsAreDocuments rest

end

@[simp] theorem isDocument_text (s : String) : (Value.text s).IsDocument := trivial

@[simp] theorem isDocument_bool (b : Bool) : (Value.bool b).IsDocument := trivial

theorem areDocuments_iff {items : List Value} :
    AreDocuments items ↔ ∀ x ∈ items, x.IsDocument := by
  induction items with
  | nil => simp [AreDocuments]
  | cons x rest ih => simp [AreDocuments, ih]

theorem fieldsAreDocuments_iff {fields : List (String × Value)} :
    FieldsAreDocuments fields ↔ ∀ field ∈ fields, field.2.IsDocument := by
  induction fields with
  | nil => simp [FieldsAreDocuments]
  | cons field rest ih => simp [FieldsAreDocuments, ih]

theorem isDocument_list {items : List Value} :
    (Value.list items).IsDocument ↔ ∀ x ∈ items, x.IsDocument := by
  rw [IsDocument, areDocuments_iff]

theorem isDocument_object {fields : List (String × Value)} :
    (Value.object fields).IsDocument ↔
      (fields.map Prod.fst).Nodup ∧ ∀ field ∈ fields, field.2.IsDocument := by
  rw [IsDocument, fieldsAreDocuments_iff]

end Value

namespace Json

/-! ## Texts -/

theorem hexUnit?_hexDigit {n : ℕ} (h : n < 0x20) :
    hexUnit? (Text.hexDigit (n / 16 / 16 / 16)) (Text.hexDigit (n / 16 / 16))
      (Text.hexDigit (n / 16)) (Text.hexDigit n) = some n := by
  revert n
  decide

/-- A written character is read as its code point. -/
theorem textUnits_escapedChar (opened : ℕ) (c : Char) {cs : List Char} (hcs : cs ≠ []) :
    textUnits opened (escapedChar c ++ cs) = consUnit c.toNat <$> textUnits opened cs := by
  by_cases hquote : c = '"'
  · subst hquote
    simp [escapedChar, textUnits, escaped?]
  by_cases hslash : c = '\\'
  · subst hslash
    simp [escapedChar, textUnits, escaped?]
  by_cases hfeed : c = '\n'
  · subst hfeed
    simp [escapedChar, textUnits, escaped?]
  by_cases hreturn : c = '\r'
  · subst hreturn
    simp [escapedChar, textUnits, escaped?]
  by_cases htab : c = '\t'
  · subst htab
    simp [escapedChar, textUnits, escaped?]
  by_cases hback : c = '\x08'
  · subst hback
    simp [escapedChar, textUnits, escaped?]
  by_cases hform : c = '\x0c'
  · subst hform
    simp [escapedChar, textUnits, escaped?]
  -- what is left is written as it stands, but for control characters with their code
  by_cases hcontrol : c.toNat < 0x20
  · obtain ⟨d, ds, rfl⟩ := List.exists_cons_of_ne_nil hcs
    have hhex : Text.hexDigits 4 c.toNat =
        [Text.hexDigit (c.toNat / 16 / 16 / 16), Text.hexDigit (c.toNat / 16 / 16),
          Text.hexDigit (c.toNat / 16), Text.hexDigit c.toNat] := rfl
    simp [escapedChar, hquote, hslash, hfeed, hreturn, htab, hback, hform, hcontrol, hhex,
      textUnits, hexUnit?_hexDigit hcontrol]
  · simp [escapedChar, hquote, hslash, hfeed, hreturn, htab, hback, hform, hcontrol, textUnits]

theorem not_surrogate (c : Char) : ¬ (0xD800 ≤ c.toNat ∧ c.toNat ≤ 0xDFFF) := by
  rcases c.valid with h | h
  · intro hc
    have : c.toNat < 0xD800 := h
    omega
  · intro hc
    have : 0xDFFF < c.toNat := h.1
    omega

theorem unitChars_toNat (c : Char) : unitChars c.toNat = [c] := by
  have hc : Text.isSurrogate c.toNat = false := by
    rw [Text.isSurrogate, Bool.eq_false_iff]
    simpa using not_surrogate c
  rw [unitChars, hc, if_neg Bool.false_ne_true, Char.ofNat_toNat]

/-- The code points of characters belong to those characters. -/
theorem joinUnits_toNat (cs : List Char) : joinUnits (cs.map Char.toNat) = cs := by
  induction cs with
  | nil => rfl
  | cons c cs ih =>
      cases cs with
      | nil => exact unitChars_toNat c
      | cons d ds =>
          -- two characters never look like the halves of one
          have hhigh : ¬ (0xD800 ≤ c.toNat ∧ c.toNat ≤ 0xDBFF ∧
              0xDC00 ≤ d.toNat ∧ d.toNat ≤ 0xDFFF) := by
            have hc := not_surrogate c
            omega
          rw [List.map_cons, List.map_cons, joinUnits, if_neg hhigh, unitChars_toNat,
            ← List.map_cons, ih, List.singleton_append]

theorem textUnits_write (opened : ℕ) (cs rest : List Char) :
    textUnits opened (cs.flatMap escapedChar ++ '"' :: rest) = .ok (cs.map Char.toNat, rest) := by
  induction cs with
  | nil => rfl
  | cons c cs ih =>
      rw [List.flatMap_cons, List.append_assoc, textUnits_escapedChar opened c (by simp), ih]
      rfl

/-- A written text is read back from behind its opening quote. -/
theorem readText_write (s : String) (rest : List Char) :
    readText (s.toList.flatMap escapedChar ++ '"' :: rest) = .ok (s, rest) := by
  simp [readText, textUnits_write, joinUnits_toNat, bind, Except.bind]

/-! ## How a value starts -/

/-- A value starts with none of these. -/
def isFiller (c : Char) : Bool := isSpace c || c == ']' || c == '\x7d' || c == '\uFEFF'

/-- A scalar starts with none of these. -/
def opensContainer (c : Char) : Bool := c == '"' || c == '[' || c == '\x7b'

theorem readScalar_error {c : Char} (hc : isFiller c = true ∨ opensContainer c = true)
    (cs : List Char) : readScalar (c :: cs) = .error ⟨.expectingValue, cs.length + 1⟩ := by
  have hc' : c = ' ' ∨ c = '\t' ∨ c = '\n' ∨ c = '\r' ∨ c = ']' ∨ c = '\x7d' ∨
      c = '\uFEFF' ∨ c = '"' ∨ c = '[' ∨ c = '\x7b' := by
    simpa [isFiller, opensContainer, isSpace, or_assoc] using hc
  rcases hc' with rfl | rfl | rfl | rfl | rfl | rfl | rfl | rfl | rfl | rfl <;>
    simp [readScalar, constants, Text.after?, readUnsigned, wholePart, isDigit]

theorem readScalar_start {cs : List Char} {found : Value × List Char}
    (h : readScalar cs = .ok found) :
    ∀ c ∈ cs.head?, isFiller c = false ∧ opensContainer c = false := by
  intro c hc
  cases cs with
  | nil => simp at hc
  | cons d ds =>
      obtain rfl : d = c := by simpa using hc
      constructor
      · by_contra hfiller
        rw [readScalar_error (.inl (eq_true_of_ne_false hfiller))] at h
        exact absurd h (by simp)
      · by_contra hopens
        rw [readScalar_error (.inr (eq_true_of_ne_false hopens))] at h
        exact absurd h (by simp)

theorem readValue_scalar {cs : List Char} {found : Value × List Char}
    (h : readScalar cs = .ok found) (fuel nesting : ℕ) :
    readValue (fuel + 1) nesting cs = .ok found := by
  cases cs with
  | nil => exact h
  | cons c cs =>
      obtain ⟨-, hopens⟩ := readScalar_start h c rfl
      simp only [opensContainer, Bool.or_eq_false_iff, beq_eq_false_iff_ne] at hopens
      simp [readValue, hopens, h]

theorem readValue_start {fuel nesting : ℕ} {cs : List Char} {found : Value × List Char}
    (h : readValue fuel nesting cs = .ok found) : ∀ c ∈ cs.head?, isFiller c = false := by
  intro c hc
  cases cs with
  | nil => simp at hc
  | cons d ds =>
      obtain rfl : d = c := by simpa using hc
      by_contra hfiller
      rw [Bool.not_eq_false] at hfiller
      -- a filler opens nothing, so it would have to be the first character of a scalar
      have hne : d ≠ '"' ∧ d ≠ '[' ∧ d ≠ '\x7b' := by
        refine ⟨?_, ?_, ?_⟩ <;> rintro rfl <;> exact absurd hfiller (by decide)
      cases fuel with
      | zero => simp [readValue] at h
      | succ fuel => simp [readValue, hne, readScalar_error (.inl hfiller)] at h

/-- Nothing is skipped in front of a value. -/
theorem skip_of_start {cs : List Char} (h : ∀ c ∈ cs.head?, isFiller c = false) :
    skip cs = cs := by
  cases cs with
  | nil => rfl
  | cons c cs =>
      have hfiller := h c rfl
      simp only [isFiller, Bool.or_eq_false_iff] at hfiller
      simp [skip, hfiller.1.1.1]

theorem readItems_start {fuel nesting : ℕ} {cs : List Char} {found : List Value × List Char}
    (h : readItems fuel nesting cs = .ok found) : ∀ c ∈ cs.head?, isFiller c = false := by
  cases fuel with
  | zero => simp [readItems] at h
  | succ fuel =>
      cases hvalue : readValue fuel nesting cs with
      | error fault => simp [readItems, hvalue, bind, Except.bind] at h
      | ok found => exact readValue_start hvalue

theorem readFields_start {fuel nesting : ℕ} {before : List (String × Value)} {cs : List Char}
    {found : List (String × Value) × List Char}
    (h : readFields fuel nesting before cs = .ok found) :
    ∀ c ∈ cs.head?, isFiller c = false := by
  intro c hc
  cases fuel with
  | zero => simp [readFields] at h
  | succ fuel =>
      cases cs with
      | nil => simp at hc
      | cons d ds =>
          obtain rfl : d = c := by simpa using hc
          by_cases hd : d = '"'
          · subst hd
            decide
          · simp [readFields, hd] at h

/-! ## Items and fields -/

theorem atBoundary_nil : AtBoundary [] := by simp [AtBoundary]

theorem atBoundary_comma (cs : List Char) : AtBoundary (',' :: cs) := by simp [AtBoundary]

theorem atBoundary_bracket (cs : List Char) : AtBoundary (']' :: cs) := by simp [AtBoundary]

theorem atBoundary_brace (cs : List Char) : AtBoundary ('\x7d' :: cs) := by simp [AtBoundary]

/-- A field under a new name goes to the end. -/
theorem setField_new {fields : List (String × Value)} {key : String}
    (hnew : key ∉ fields.map Prod.fst) (x : Value) :
    setField fields key x = fields ++ [(key, x)] := by
  have hany : fields.any (·.1 == key) = false := by
    rw [List.any_eq_false]
    intro field hfield
    rw [beq_iff_eq]
    rintro rfl
    exact hnew (List.mem_map_of_mem hfield)
  rw [setField, hany, if_neg (by decide)]

theorem notMem_of_nodup {key : String} {x : Value} {before fields : List (String × Value)}
    (hkeys : ((before ++ (key, x) :: fields).map Prod.fst).Nodup) :
    key ∉ before.map Prod.fst := by
  intro hmem
  rw [List.map_append, List.nodup_append] at hkeys
  exact hkeys.2.2 key hmem key (List.mem_cons_self ..) rfl

theorem separated_cons (separator part next : List Char) (rest : List (List Char)) :
    separated separator (part :: next :: rest) =
      part ++ separator ++ separated separator (next :: rest) := rfl

theorem readItems_last {fuel nesting : ℕ} {cs rest : List Char} {x : Value}
    (h : readValue fuel nesting cs = .ok (x, ']' :: rest)) :
    readItems (fuel + 1) nesting cs = .ok ([x], rest) := by
  simp [readItems, h, bind, Except.bind, skip, isSpace]

theorem readItems_next {fuel nesting : ℕ} {cs tail rest : List Char} {x : Value}
    {items : List Value} (h : readValue fuel nesting cs = .ok (x, ',' :: ' ' :: tail))
    (htail : readItems fuel nesting tail = .ok (items, rest)) :
    readItems (fuel + 1) nesting cs = .ok (x :: items, rest) := by
  have hskip : skip (' ' :: tail) = tail := skip_of_start (readItems_start htail)
  have hcomma : skip (',' :: ' ' :: tail) = ',' :: ' ' :: tail := rfl
  simp [readItems, h, bind, Except.bind, hcomma, hskip, htail]

/-- What stands between the name of a field and its value is passed over. -/
theorem skip_colon {fuel nesting : ℕ} {x : Value} {cs tail : List Char}
    (h : readValue fuel nesting cs = .ok (x, tail)) :
    skip (':' :: ' ' :: cs) = ':' :: ' ' :: cs ∧ skip (' ' :: cs) = cs :=
  ⟨rfl, skip_of_start (readValue_start h)⟩

theorem readFields_last {fuel nesting : ℕ} {before : List (String × Value)} {key : String}
    {x : Value} {cs rest : List Char} (hnew : key ∉ before.map Prod.fst)
    (h : readValue fuel nesting cs = .ok (x, '\x7d' :: rest)) :
    readFields (fuel + 1) nesting before (textChars key.toList ++ ([':', ' '] ++ cs)) =
      .ok (before ++ [(key, x)], rest) := by
  have hname := readText_write key (':' :: ' ' :: cs)
  have hbrace : skip ('\x7d' :: rest) = '\x7d' :: rest := rfl
  simp only [readFields, textChars, List.cons_append, List.append_assoc, List.nil_append, hname,
    bind, Except.bind, skip_colon h, h, hbrace, setField_new hnew]

theorem readFields_next {fuel nesting : ℕ} {before : List (String × Value)} {key : String}
    {x : Value} {cs tail : List Char} {found : List (String × Value) × List Char}
    (hnew : key ∉ before.map Prod.fst)
    (h : readValue fuel nesting cs = .ok (x, ',' :: ' ' :: tail))
    (htail : readFields fuel nesting (before ++ [(key, x)]) tail = .ok found) :
    readFields (fuel + 1) nesting before (textChars key.toList ++ ([':', ' '] ++ cs)) =
      .ok found := by
  have hname := readText_write key (':' :: ' ' :: cs)
  have hskip : skip (' ' :: tail) = tail := skip_of_start (readFields_start htail)
  have hcomma : skip (',' :: ' ' :: tail) = ',' :: ' ' :: tail := rfl
  simp only [readFields, textChars, List.cons_append, List.append_assoc, List.nil_append, hname,
    bind, Except.bind, skip_colon h, h, hcomma, hskip, setField_new hnew, htail]

theorem readValue_list {fuel nesting : ℕ} {cs rest : List Char} {items : List Value}
    (h : readItems fuel nesting cs = .ok (items, rest)) :
    readValue (fuel + 1) (nesting + 1) ('[' :: cs) = .ok (.list items, rest) := by
  have hstart := readItems_start h
  have hskip : skip cs = cs := skip_of_start hstart
  cases cs with
  | nil => simp [readValue, skip, h, bind, Except.bind]
  | cons c cs =>
      have hc : c ≠ ']' := by
        rintro rfl
        exact absurd (hstart ']' rfl) (by decide)
      simp [readValue, hskip, hc, h, bind, Except.bind]

theorem readValue_object {fuel nesting : ℕ} {cs rest : List Char}
    {fields : List (String × Value)} (h : readFields fuel nesting [] cs = .ok (fields, rest)) :
    readValue (fuel + 1) (nesting + 1) ('\x7b' :: cs) = .ok (.object fields, rest) := by
  have hstart := readFields_start h
  have hskip : skip cs = cs := skip_of_start hstart
  cases cs with
  | nil => simp [readValue, skip, h, bind, Except.bind]
  | cons c cs =>
      have hc : c ≠ '\x7d' := by
        rintro rfl
        exact absurd (hstart '\x7d' rfl) (by decide)
      simp [readValue, hskip, hc, h, bind, Except.bind]

/-! ## The induction -/

mutual

/-- A written value is read back, with enough fuel. It is not nested deeper than its fuel. -/
theorem readValue_chars : ∀ (x : Value) (fuel nesting : ℕ) (rest : List Char), x.IsDocument →
    AtBoundary rest → (chars x).length < fuel → fuel ≤ nesting + 1 →
    readValue fuel nesting (chars x ++ rest) = .ok (x, rest)
  | .list [], fuel + 1, nesting + 1, rest, _, _, _, _ => rfl
  | .object [], fuel + 1, nesting + 1, rest, _, _, _, _ => rfl
  | .list (x :: items), fuel + 1, nesting + 1, rest, hdoc, _, hfuel, hnesting => by
      have hitems := readItems_chars x items fuel nesting rest hdoc
        (by simp [chars] at hfuel; omega) (by omega)
      simpa [chars] using readValue_list hitems
  | .object ((key, x) :: fields), fuel + 1, nesting + 1, rest, hdoc, _, hfuel, hnesting => by
      have hfields := readFields_chars key x fields [] fuel nesting rest hdoc.2 hdoc.1
        (by simp [chars] at hfuel; omega) (by omega)
      simpa [chars] using readValue_object hfields
  | .text s, fuel + 1, nesting, rest, _, _, _, _ => by
      simp [chars, textChars, readValue, readText_write, bind, Except.bind]
  | .null, fuel + 1, nesting, rest, _, _, _, _ => readValue_scalar rfl fuel nesting
  | .bool b, fuel + 1, nesting, rest, _, _, _, _ => by
      refine readValue_scalar ?_ fuel nesting
      cases b <;> rfl
  | .int n, fuel + 1, nesting, rest, hdoc, hrest, _, _ =>
      readValue_scalar (readScalar_int hdoc hrest) fuel nesting
  | .float x, fuel + 1, nesting, rest, _, hrest, _, _ =>
      readValue_scalar (readScalar_float x hrest) fuel nesting
  | .list items, fuel + 1, 0, rest, _, _, hfuel, hnesting => by
      simp [chars] at hfuel
      omega
  | .object fields, fuel + 1, 0, rest, _, _, hfuel, hnesting => by
      simp [chars] at hfuel
      omega
  | x, 0, nesting, rest, _, _, hfuel, _ => absurd hfuel (Nat.not_lt_zero _)

/-- Written items are read back, up to the closing bracket. -/
theorem readItems_chars : ∀ (x : Value) (items : List Value) (fuel nesting : ℕ)
    (rest : List Char), Value.AreDocuments (x :: items) →
    (separated [',', ' '] (itemChars (x :: items))).length + 1 < fuel → fuel ≤ nesting + 1 →
    readItems fuel nesting (separated [',', ' '] (itemChars (x :: items)) ++ ']' :: rest) =
      .ok (x :: items, rest)
  | x, [], fuel + 1, nesting, rest, hdoc, hfuel, hnesting => by
      have hx := readValue_chars x fuel nesting _ hdoc.1 (atBoundary_bracket rest)
        (by simpa [separated, itemChars] using hfuel) (by omega)
      exact readItems_last hx
  | x, y :: items, fuel + 1, nesting, rest, hdoc, hfuel, hnesting => by
      rw [itemChars, itemChars, separated_cons] at hfuel ⊢
      simp only [List.length_append, List.length_cons, List.length_nil] at hfuel
      have htail := readItems_chars y items fuel nesting rest hdoc.2 (by rw [itemChars]; omega)
        (by omega)
      have hx := readValue_chars x fuel nesting _ hdoc.1 (atBoundary_comma (' ' ::
        (separated [',', ' '] (itemChars (y :: items)) ++ ']' :: rest))) (by omega) (by omega)
      simpa [itemChars] using readItems_next hx htail
  | x, items, 0, nesting, rest, _, hfuel, _ => absurd hfuel (Nat.not_lt_zero _)

/-- Written fields are read back, up to the closing brace, behind fields already read. -/
theorem readFields_chars : ∀ (key : String) (x : Value) (fields before : List (String × Value))
    (fuel nesting : ℕ) (rest : List Char), Value.FieldsAreDocuments ((key, x) :: fields) →
    ((before ++ (key, x) :: fields).map Prod.fst).Nodup →
    (separated [',', ' '] (fieldChars ((key, x) :: fields))).length + 1 < fuel →
    fuel ≤ nesting + 1 →
    readFields fuel nesting before (separated [',', ' '] (fieldChars ((key, x) :: fields)) ++
      '\x7d' :: rest) = .ok (before ++ (key, x) :: fields, rest)
  | key, x, [], before, fuel + 1, nesting, rest, hdoc, hkeys, hfuel, hnesting => by
      simp only [fieldChars, separated, List.length_append] at hfuel ⊢
      have hx := readValue_chars x fuel nesting _ hdoc.1 (atBoundary_brace rest) (by omega)
        (by omega)
      simpa using readFields_last (notMem_of_nodup hkeys) hx
  | key, x, (key', y) :: fields, before, fuel + 1, nesting, rest, hdoc, hkeys, hfuel, hnesting => by
      rw [fieldChars, fieldChars, separated_cons] at hfuel ⊢
      simp only [List.length_append, List.length_cons, List.length_nil] at hfuel
      have htail := readFields_chars key' y fields (before ++ [(key, x)]) fuel nesting rest hdoc.2
        (by simpa using hkeys) (by rw [fieldChars]; omega) (by omega)
      have hx := readValue_chars x fuel nesting _ hdoc.1 (atBoundary_comma (' ' ::
        (separated [',', ' '] (fieldChars ((key', y) :: fields)) ++ '\x7d' :: rest)))
        (by omega) (by omega)
      simpa [fieldChars] using readFields_next (notMem_of_nodup hkeys) hx htail
  | key, x, fields, before, 0, nesting, rest, _, _, hfuel, _ => absurd hfuel (Nat.not_lt_zero _)

end

/-- What is written is read back, with a bound on the nesting that is as much as its length. -/
theorem readWithin_write {x : Value} (hdoc : x.IsDocument) {nesting : ℕ}
    (hnesting : (chars x).length ≤ nesting) : readWithin nesting (write x) = .ok x := by
  have hvalue := readValue_chars x ((chars x).length + 1) nesting [] hdoc atBoundary_nil (by omega)
    (by omega)
  rw [List.append_nil] at hvalue
  have hskip : skip (chars x) = chars x := skip_of_start (readValue_start hvalue)
  have hmark : ((chars x).head? == some '\uFEFF') = false := by
    rw [beq_eq_false_iff_ne]
    intro hhead
    exact absurd (readValue_start hvalue '\uFEFF' hhead) (by decide)
  have hdocument : readDocument nesting (chars x) = .ok x := by
    simp only [readDocument, hmark, hskip, bind, Except.bind, hvalue]
    rfl
  simp [readWithin, write, hdocument]

/-- What is written is read back as the same value. -/
theorem read_write {x : Value} (hdoc : x.IsDocument) : read (write x) = .ok x :=
  readWithin_write hdoc (by rw [write, String.toList_ofList])

/-! ## What is written -/

theorem isWritable_int {n : ℤ} : isWritable (.int n) = true ↔ (Value.int n).IsDocument := by
  unfold isWritable Value.IsDocument
  -- the number of digits is not looked at, only that it is the same on both sides
  generalize digitLimit = limit
  exact decide_eq_true_iff

theorem fieldsAreWritable_iff {fields : List (String × Value)} :
    fieldsAreWritable fields = true ↔ ∀ field ∈ fields, isWritable field.2 = true := by
  induction fields with
  | nil => simp [fieldsAreWritable]
  | cons field rest ih => simp [fieldsAreWritable, ih]

mutual

/-- A value that a document can hold is written. -/
theorem isWritable_of_isDocument : ∀ x : Value, x.IsDocument → isWritable x = true
  | .null, _ => rfl
  | .bool _, _ => rfl
  | .int _, h => isWritable_int.mpr h
  | .float _, _ => rfl
  | .text _, _ => rfl
  | .list items, h => areWritable_of_areDocuments items h
  | .object fields, h => fieldsAreWritable_of_fieldsAreDocuments fields h.2

theorem areWritable_of_areDocuments : ∀ items : List Value, Value.AreDocuments items →
    areWritable items = true
  | [], _ => rfl
  | x :: rest, ⟨hx, hrest⟩ => by
      rw [areWritable, isWritable_of_isDocument x hx, areWritable_of_areDocuments rest hrest]
      rfl

theorem fieldsAreWritable_of_fieldsAreDocuments : ∀ fields : List (String × Value),
    Value.FieldsAreDocuments fields → fieldsAreWritable fields = true
  | [], _ => rfl
  | (_, x) :: rest, ⟨hx, hrest⟩ => by
      rw [fieldsAreWritable, isWritable_of_isDocument x hx,
        fieldsAreWritable_of_fieldsAreDocuments rest hrest]
      rfl

end

end Json
end SelectQuery
