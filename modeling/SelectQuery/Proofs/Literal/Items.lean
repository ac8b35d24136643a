import SelectQuery.Proofs.Literal.Meaning

/-!
# Lists and what they mean

A list of literals is written into the query as it was entered, while the values that are
handed over are those of the items that `items` finds in it. In SQL the items of a list
stand between commas, and a comma inside of a string literal does not count (`Sql.list?`).

`items` passes over empty places and goes on behind a quoted literal whether a comma follows
or not, so the two agree exactly if each place of the list holds one literal
(`list?_format_iff`). One half is `items_intercalate`; for the other half a quoted item of a
list of literals is shown to be a literal of SQL (`quoted_item`).
-/

namespace SelectQuery

open Literal Text

namespace Sql

/-- Cuts a text at the commas outside of string literals. -/
def cutAtCommas (inside : Bool) : List Char → List (List Char)
  | [] => [[]]
  | c :: rest =>
    if c == ',' && !inside then [] :: cutAtCommas false rest
    else
      match cutAtCommas (if c == '\'' then !inside else inside) rest with
      | [] => [[c]]
      | piece :: pieces => (c :: piece) :: pieces

/-- The places of a list in parentheses. -/
def list? : List Char → Option (List (List Char))
  | '(' :: rest =>
    if rest.getLast? == some ')' then some ((cutAtCommas false rest.dropLast).map trim) else none
  | _ => none

theorem cutAtCommas_ne_nil (inside : Bool) (cs : List Char) : cutAtCommas inside cs ≠ [] := by
  cases cs with
  | nil => simp [cutAtCommas]
  | cons c rest =>
      rw [cutAtCommas]
      split
      · simp
      · split <;> simp

/-- The pieces make up the text again. -/
theorem intercalate_cutAtCommas (inside : Bool) (cs : List Char) :
    [','].intercalate (cutAtCommas inside cs) = cs := by
  induction cs generalizing inside with
  | nil => rfl
  | cons c rest ih =>
      rw [cutAtCommas]
      split
      · next hcomma =>
          have hc : c = ',' := by
            rw [Bool.and_eq_true, beq_iff_eq] at hcomma
            exact hcomma.1
          have hrest := ih false
          cases hcut : cutAtCommas false rest with
          | nil => exact absurd hcut (cutAtCommas_ne_nil false rest)
          | cons piece pieces =>
              rw [hcut] at hrest
              rw [List.intercalate_cons_cons, hrest, hc]
              rfl
      · have hrest := ih (if c == '\'' then !inside else inside)
        cases hcut : cutAtCommas (if c == '\'' then !inside else inside) rest with
        | nil => exact absurd hcut (cutAtCommas_ne_nil _ rest)
        | cons piece pieces =>
            rw [hcut] at hrest
            cases pieces with
            | nil =>
                rw [List.intercalate_singleton] at hrest ⊢
                rw [hrest]
            | cons next pieces =>
                rw [List.intercalate_cons_cons] at hrest ⊢
                rw [← hrest]
                rfl

end Sql

namespace Literal

open Sql

/-! ## The end of a quoted literal -/

theorem closing?_eq_none {cs : List Char} (h : closing? cs = none) : '\'' ∉ cs := by
  fun_induction closing? cs with
  | case1 => simp
  | case2 => simp at h
  | case3 => simp at h
  | case4 => simp at h
  | case5 c rest _ hc ih =>
      rw [Option.map_eq_none_iff] at h
      simp only [List.mem_cons, not_or]
      exact ⟨fun hquote => hc hquote.symm, ih h⟩

theorem closing?_of_notMem {cs : List Char} (h : '\'' ∉ cs) : closing? cs = none := by
  induction cs with
  | nil => rfl
  | cons c cs ih =>
      rw [List.mem_cons, not_or] at h
      simp [closing?, Ne.symm h.1, ih h.2]

theorem closing?_doubleQuotes (t : List Char) {rest : List Char}
    (h : rest.head? ≠ some '\'') :
    closing? (doubleQuotes t ++ '\'' :: rest) = some (doubleQuotes t, rest) := by
  induction t with
  | nil =>
      cases rest with
      | nil => rfl
      | cons c rest =>
          have hc : c ≠ '\'' := by simpa using h
          simp [closing?, hc]
  | cons c t ih =>
      by_cases hc : c = '\''
      · subst hc
        rw [doubleQuotes_quote, List.cons_append, List.cons_append, closing?, ih]
        rfl
      · rw [doubleQuotes_cons hc, List.cons_append]
        simp [closing?, hc, ih, extend]

/-- A quoted literal ends where SQL ends it, or no quote but one is left behind it. -/
theorem closing?_spec {cs content rest : List Char} (h : closing? cs = some (content, rest)) :
    (∃ t, content = doubleQuotes t) ∨ ∃ tail, rest = '\'' :: tail ∧ '\'' ∉ tail := by
  fun_induction closing? cs generalizing content rest with
  | case1 => simp at h
  | case2 cs found hfound ih =>
      obtain ⟨rfl, rfl⟩ := Prod.mk.inj (Option.some.inj h)
      rcases ih hfound with ⟨t, ht⟩ | hlone
      · exact .inl ⟨'\'' :: t, by rw [ht]; rfl⟩
      · exact .inr hlone
  | case3 cs hnone ih =>
      obtain ⟨rfl, rfl⟩ := Prod.mk.inj (Option.some.inj h)
      exact .inr ⟨cs, rfl, closing?_eq_none hnone⟩
  | case4 cs =>
      obtain ⟨rfl, rfl⟩ := Prod.mk.inj (Option.some.inj h)
      exact .inl ⟨[], rfl⟩
  | case5 c cs _ hc ih =>
      obtain ⟨found, hfound, heq⟩ := Option.map_eq_some_iff.mp h
      obtain ⟨rfl, rfl⟩ := Prod.mk.inj heq
      rcases ih hfound with ⟨t, ht⟩ | hlone
      · exact .inl ⟨c :: t, by rw [ht, doubleQuotes_cons hc]; rfl⟩
      · exact .inr hlone

/-! ## One step of `items` -/

section Step

variable {cs rest : List Char} {c : Char}

theorem items_of_nil (h : cs.dropWhile isBlank = []) : items cs = [] := by
  rw [items]
  split
  · rfl
  · next heq => simp [h] at heq

@[simp] theorem items_nil : items [] = [] := items_of_nil rfl

theorem items_of_comma (h : cs.dropWhile isBlank = ',' :: rest) : items cs = items rest := by
  rw [items]
  split
  · next heq => simp [h] at heq
  · next heq =>
      rw [h] at heq
      obtain ⟨rfl, rfl⟩ := List.cons.inj heq
      rw [if_pos rfl]

theorem items_of_literal (h : cs.dropWhile isBlank = c :: rest) (hc : c ≠ ',')
    {literal behind : List Char} (hleading : leading? (c :: rest) = some (literal, behind)) :
    items cs = literal :: items behind := by
  rw [items]
  split
  · next heq => simp [h] at heq
  · next heq =>
      rw [h] at heq
      obtain ⟨rfl, rfl⟩ := List.cons.inj heq
      rw [if_neg hc]
      split
      · next hfound =>
          rw [hleading] at hfound
          obtain ⟨rfl, rfl⟩ := Prod.mk.inj (Option.some.inj hfound)
          rfl
      · next hfound => simp [hleading] at hfound

theorem items_of_run (h : cs.dropWhile isBlank = c :: rest) (hc : c ≠ ',')
    (hleading : leading? (c :: rest) = none) :
    items cs = trim (c :: rest.takeWhile (!isComma ·)) ::
      items (rest.dropWhile (!isComma ·)) := by
  rw [items]
  split
  · next heq => simp [h] at heq
  · next heq =>
      rw [h] at heq
      obtain ⟨rfl, rfl⟩ := List.cons.inj heq
      rw [if_neg hc]
      split
      · next hfound => simp [hleading] at hfound
      · rfl

/-- Blanks in front do not matter. -/
theorem items_blank {front : List Char} (hfront : ∀ d ∈ front, isBlank d = true) :
    items (front ++ cs) = items cs := by
  have hdrop : (front ++ cs).dropWhile isBlank = cs.dropWhile isBlank :=
    List.dropWhile_append_of_pos hfront
  cases h : cs.dropWhile isBlank with
  | nil => rw [items_of_nil h, items_of_nil (hdrop.trans h)]
  | cons c rest =>
      by_cases hc : c = ','
      · subst hc
        rw [items_of_comma h, items_of_comma (hdrop.trans h)]
      · cases hleading : leading? (c :: rest) with
        | none => rw [items_of_run h hc hleading, items_of_run (hdrop.trans h) hc hleading]
        | some found =>
            rw [items_of_literal h hc hleading, items_of_literal (hdrop.trans h) hc hleading]

end Step

/-! ## The items of a list of literals -/

/-- A place of a list that holds one literal: a text in quotes as SQL has them, or a number. -/
def IsLiteral (t : List Char) : Prop := (∃ s, t = quote s) ∨ isNumeric t = true

theorem isQuoted_trim_cons {c : Char} (hblank : isBlank c = false) (hc : c ≠ '\'')
    (cs : List Char) : isQuoted (trim (c :: cs)) = false := by
  rw [Bool.eq_false_iff]
  intro hquoted
  obtain ⟨inner, hinner⟩ := isQuoted_iff.mp hquoted
  have hhead := head?_trim_cons hblank cs
  rw [hinner] at hhead
  exact hc (Option.some.inj hhead).symm

theorem isNumeric_trim_cons {c : Char} (hblank : isBlank c = false)
    (hc : isNumberChar c = false) (cs : List Char) : isNumeric (trim (c :: cs)) = false := by
  rw [Bool.eq_false_iff]
  intro hnumeric
  obtain ⟨p, -, hp⟩ := exists_parts (trim_trim _) hnumeric
  exact hp.notMem hc (List.mem_of_mem_head? (head?_trim_cons hblank cs))

/-- A text with a quote in front and no other is no literal. -/
theorem not_literal_of_lone_quote {cs : List Char} (h : '\'' ∉ cs) :
    isQuoted (trim ('\'' :: cs)) = false ∧ isNumeric (trim ('\'' :: cs)) = false := by
  refine ⟨?_, isNumeric_trim_cons (by decide) (by decide) cs⟩
  rw [Bool.eq_false_iff]
  intro hquoted
  obtain ⟨inner, hinner⟩ := isQuoted_iff.mp hquoted
  have hle := (trim_sublist ('\'' :: cs)).count_le '\''
  rw [hinner, List.count_cons_self, List.count_eq_zero_of_not_mem h] at hle
  simp at hle

theorem leading?_eq_some {cs literal behind : List Char}
    (h : leading? cs = some (literal, behind)) :
    ∃ rest content, cs = '\'' :: rest ∧ closing? rest = some (content, behind) ∧
      literal = '\'' :: content ++ ['\''] := by
  unfold leading? at h
  split at h
  · next rest =>
      obtain ⟨⟨content, rest'⟩, hclosing, heq⟩ := Option.map_eq_some_iff.mp h
      obtain ⟨rfl, rfl⟩ := Prod.mk.inj heq
      exact ⟨rest, content, rfl, hclosing, rfl⟩
  · simp at h

theorem leading?_quote_eq_none {cs : List Char} (h : '\'' ∉ cs) : leading? ('\'' :: cs) = none := by
  rw [leading?, closing?_of_notMem h]
  rfl

/-- What a broken pair of quotes leaves behind starts with an item that is no literal. -/
theorem items_lone_quote {cs : List Char} (h : '\'' ∉ cs) :
    ∃ t ∈ items ('\'' :: cs), isQuoted t = false ∧ isNumeric t = false := by
  have hblank : ('\'' :: cs).dropWhile isBlank = '\'' :: cs := rfl
  rw [items_of_run hblank (by decide) (leading?_quote_eq_none h)]
  refine ⟨_, List.mem_cons_self, not_literal_of_lone_quote ?_⟩
  exact fun hmem => h ((List.takeWhile_sublist _).subset hmem)

/-- In a list of literals an item in quotes is a literal of SQL. -/
theorem quoted_item {cs : List Char}
    (h : ∀ t ∈ items cs, isQuoted t = true ∨ isNumeric t = true) :
    ∀ t ∈ items cs, IsLiteral t := by
  fun_induction items cs with
  | case1 => simp
  | case2 cs rest hcs ih => exact ih h
  | case3 cs c rest hcs hc literal behind hleading ih =>
      rw [List.forall_mem_cons] at h ⊢
      refine ⟨?_, ih h.2⟩
      obtain ⟨rest', content, -, hclosing, rfl⟩ := leading?_eq_some hleading
      rcases closing?_spec hclosing with ⟨s, rfl⟩ | ⟨tail, rfl, htail⟩
      · exact .inl ⟨s, rfl⟩
      · -- the pair was broken, and what is left behind it is no literal
        obtain ⟨t, ht, hquoted, hnumeric⟩ := items_lone_quote htail
        have hliteral := h.2 t ht
        simp [hquoted, hnumeric] at hliteral
  | case4 cs c rest hcs hc hleading ih =>
      rw [List.forall_mem_cons] at h ⊢
      refine ⟨?_, ih h.2⟩
      by_cases hquote : c = '\''
      · subst hquote
        have hrest : '\'' ∉ rest := by
          rw [leading?, Option.map_eq_none_iff] at hleading
          exact closing?_eq_none hleading
        have hrun : '\'' ∉ rest.takeWhile (!isComma ·) :=
          fun hmem => hrest ((List.takeWhile_sublist _).subset hmem)
        have hliteral := h.1
        simp [not_literal_of_lone_quote hrun] at hliteral
      · have hblank : isBlank c = false := by
          have hnot := List.head?_dropWhile_not isBlank cs
          rw [hcs] at hnot
          exact hnot
        refine .inr (h.1.resolve_left ?_)
        rw [isQuoted_trim_cons hblank hquote]
        decide

/-- A literal of SQL in front of a text is found as a whole. -/
theorem leading?_quote (s : List Char) {rest : List Char} (h : rest.head? ≠ some '\'') :
    leading? (quote s ++ rest) = some (quote s, rest) := by
  have htext : quote s ++ rest = '\'' :: (doubleQuotes s ++ '\'' :: rest) := by simp [quote]
  rw [htext, leading?, closing?_doubleQuotes s h]
  rfl

theorem items_quote (s : List Char) {rest : List Char} (h : rest.head? ≠ some '\'') :
    items (quote s ++ rest) = quote s :: items rest :=
  items_of_literal rfl (by decide) (leading?_quote s h)

/-- A number with blanks behind it goes up to the next comma. -/
theorem items_number {t back rest : List Char} {p : NumberParts} (hp : p.Of t)
    (hhead : ∀ c ∈ t.head?, isBlank c = false) (hback : ∀ c ∈ back, isBlank c = true)
    (hrest : ∀ c ∈ rest.head?, c = ',') :
    items (t ++ back ++ rest) = trim (t ++ back) :: items rest := by
  cases t with
  | nil => exact absurd rfl hp.ne_nil
  | cons d ds =>
      have hd : isBlank d = false := hhead d rfl
      have hcomma : ',' ∉ d :: ds := hp.notMem (by decide)
      have hquote : '\'' ∉ d :: ds := hp.notMem (by decide)
      rw [List.mem_cons, not_or] at hcomma hquote
      have hrun : ∀ c ∈ ds ++ back, (!isComma c) = true := by
        intro c hc
        rw [Bool.not_eq_true', isComma, beq_eq_false_iff_ne]
        rintro rfl
        rcases List.mem_append.mp hc with hc | hc
        · exact hcomma.2 hc
        · exact absurd (hback ',' hc) (by decide)
      have hstop : ∀ c ∈ rest.head?, (!isComma c) = false := by
        intro c hc
        rw [hrest c hc]
        rfl
      have hdrop : (d :: ds ++ back ++ rest).dropWhile isBlank = d :: (ds ++ back ++ rest) := by
        simp [hd]
      have hleading : leading? (d :: (ds ++ back ++ rest)) = none := by
        simp [leading?, Ne.symm hquote.1]
      rw [items_of_run hdrop (Ne.symm hcomma.1) hleading, takeWhile_run hrun hstop,
        dropWhile_run hrun hstop]
      rfl

/-- A place with one literal, up to the next comma, is one item. -/
theorem items_place {place rest : List Char} (h : IsLiteral (trim place))
    (hrest : ∀ c ∈ rest.head?, c = ',') : items (place ++ rest) = trim place :: items rest := by
  obtain ⟨front, back, heq, hfront, hback⟩ := exists_trim place
  have htrim : trim (trim place ++ back) = trim place := by
    conv_rhs => rw [heq, trim_append hfront]
  have hitems : items (place ++ rest) = items (trim place ++ back ++ rest) := by
    conv_lhs => rw [heq, List.append_assoc, items_blank hfront]
  rw [hitems]
  rcases h with ⟨s, hs⟩ | hnumeric
  -- blanks or a comma follow, so the closing quote is not one of a pair
  · have hnext : (back ++ rest).head? ≠ some '\'' := by
      intro h
      cases back with
      | nil => exact absurd (hrest '\'' h) (by decide)
      | cons b back =>
          obtain rfl : b = '\'' := by simpa using h
          exact absurd (hback '\'' List.mem_cons_self) (by decide)
    rw [hs, List.append_assoc, items_quote s hnext, items_blank hback]
  · obtain ⟨p, -, hp⟩ := exists_parts (trim_trim place) hnumeric
    rw [items_number hp (head?_trim place) hback hrest, htrim]

/-- Places with one literal each are the items. -/
theorem items_intercalate {places : List (List Char)}
    (h : ∀ place ∈ places, IsLiteral (trim place)) :
    items ([','].intercalate places) = places.map trim := by
  induction places with
  | nil => exact items_nil
  | cons place places ih =>
      rw [List.forall_mem_cons] at h
      cases places with
      | nil =>
          have hplace : items (place ++ []) = trim place :: items [] := items_place h.1 (by simp)
          rw [List.append_nil] at hplace
          rw [List.intercalate_singleton, hplace, items_nil]
          rfl
      | cons next places =>
          rw [List.intercalate_cons_cons, List.append_assoc, items_place h.1 (by simp),
            List.singleton_append, items_of_comma rfl, ih h.2]
          rfl

/-! ## Lists -/

section Lists

variable {op : ConditionOperator} {raw : List Char}

theorem withoutParens_parens (body : List Char) :
    withoutParens ('(' :: (body ++ [')'])) = body := by
  rw [withoutParens, ← List.cons_append, List.getLast?_concat]
  simp

/-- Text in parentheses is trimmed. -/
theorem trim_parens (body : List Char) :
    trim ('(' :: (body ++ [')'])) = '(' :: (body ++ [')']) := by
  refine trim_eq_self ?_ ?_
  · rintro c ⟨⟩
    decide
  · intro c hc
    rw [← List.cons_append, List.getLast?_concat] at hc
    obtain rfl := Option.some.inj hc
    decide

/-- A list that is not blank is written in parentheses, its own ones or new ones. -/
theorem format_membership (hmember : op.isMembership = true) (hne : trim raw ≠ []) :
    format (some op) raw = some (if (trim raw).head? == some '(' then trim raw
      else '(' :: (trim raw ++ [')'])) := by
  simp [format, hne, isMembership_only hmember, hmember]

theorem scalars_membership (hmember : op.isMembership = true) (hne : trim raw ≠ []) :
    scalars op raw = items (withoutParens (trim raw)) := by
  simp [scalars, hne, isMembership_only hmember, hmember, splitList]

theorem isLiteralList_iff : isLiteralList raw = true ↔ splitList raw ≠ [] ∧
    ∀ t ∈ splitList raw, isQuoted t = true ∨ isNumeric t = true := by
  simp [isLiteralList]

/-- A parenthesis that is opened in front of a list of literals is closed behind it. -/
theorem eq_parens {rest : List Char} (hlist : isLiteralList raw = true)
    (htrim : trim raw = '(' :: rest) : ∃ body, rest = body ++ [')'] := by
  -- otherwise the parenthesis belongs to the first item, which is then no literal
  by_cases hlast : (trim raw).getLast? = some ')'
  · obtain ⟨init, hinit⟩ := List.getLast?_eq_some_iff.mp hlast
    rw [htrim] at hinit
    cases init with
    | nil => simp at hinit
    | cons c body => exact ⟨body, (List.cons.inj hinit).2⟩
  · exfalso
    have hbody : withoutParens (trim raw) = '(' :: rest := by
      rw [withoutParens, if_neg (by simp [hlast]), htrim]
    have hitems : splitList raw = trim ('(' :: rest.takeWhile (!isComma ·)) ::
        items (rest.dropWhile (!isComma ·)) := by
      rw [splitList, hbody]
      exact items_of_run rfl (by decide) rfl
    have hfirst := (isLiteralList_iff.mp hlist).2 _ (hitems ▸ List.mem_cons_self)
    rw [isQuoted_trim_cons (by decide) (by decide),
      isNumeric_trim_cons (by decide) (by decide)] at hfirst
    simp at hfirst

/-- A list of literals is written in one pair of parentheses. -/
theorem format_list (hmember : op.isMembership = true) (hlist : isLiteralList raw = true) :
    format (some op) raw = some ('(' :: (withoutParens (trim raw) ++ [')'])) := by
  obtain ⟨-, -, hne⟩ := scalars_of_isLiteralList hmember hlist
  rw [format_membership hmember hne]
  by_cases hhead : (trim raw).head? = some '('
  · obtain ⟨rest, hrest⟩ := List.head?_eq_some_iff.mp hhead
    obtain ⟨body, rfl⟩ := eq_parens hlist hrest
    rw [hrest, withoutParens_parens]
    rfl
  · have hbody : withoutParens (trim raw) = trim raw := by simp [withoutParens, hhead]
    simp [hhead, hbody]

/-- The places of a list in parentheses are the pieces of what stands between them. -/
theorem list?_parens (body : List Char) :
    list? ('(' :: (body ++ [')'])) = some ((cutAtCommas false body).map trim) := by
  rw [list?, List.getLast?_concat, List.dropLast_concat]
  rfl

/-- For `IN` and `NOT IN` and a list of literals: what is written into the query is a list in
SQL. Its places are the items whose values are handed over, and none of the values is refused,
if and only if every place holds one literal and no integer has too many digits. -/
theorem list?_format_iff (hmember : op.isMembership = true) (hlist : isLiteralList raw = true) :
    ∃ text places, format (some op) raw = some text ∧ list? text = some places ∧
      ((excess? op raw = none ∧ places = scalars op raw ∧
          values op raw = places.map readScalar) ↔
        ∀ place ∈ places, IsLiteral place ∧ excessDigits? place = none) := by
  obtain ⟨hscalars, -, -⟩ := scalars_of_isLiteralList hmember hlist
  have hpattern := (isMembership_only hmember).2
  refine ⟨_, _, format_list hmember hlist, list?_parens _, ?_⟩
  rw [excess?_eq_none, hscalars]
  constructor
  · rintro ⟨hexcess, hplaces, -⟩ place hplace
    rw [hplaces] at hplace
    exact ⟨quoted_item (isLiteralList_iff.mp hlist).2 place hplace,
      hexcess place hplace hpattern⟩
  · intro h
    rw [List.forall_mem_map] at h
    have hplaces := items_intercalate fun place hplace => (h place hplace).1
    rw [intercalate_cutAtCommas] at hplaces
    refine ⟨?_, hplaces.symm, ?_⟩
    · intro t ht _
      rw [splitList, hplaces, List.mem_map] at ht
      obtain ⟨place, hplace, rfl⟩ := ht
      exact (h place hplace).2
    · rw [values, hpattern, hscalars, splitList, hplaces]
      rfl

theorem list?_format_iff_pair :
    ConditionOperator.isMembership .isIn = true ∧ isLiteralList "('a,b', 1)".toList = true ∧
    ∃ text places, format (some .isIn) "('a,b', 1)".toList = some text ∧
      list? text = some places ∧
      ((excess? .isIn "('a,b', 1)".toList = none ∧ places = scalars .isIn "('a,b', 1)".toList ∧
          values .isIn "('a,b', 1)".toList = places.map readScalar) ↔
        ∀ place ∈ places, IsLiteral place ∧ excessDigits? place = none) := by
  have hquote : IsLiteral (trim "'a,b'".toList) := .inl ⟨"a,b".toList, by decide⟩
  have hnumber : IsLiteral (trim " 1".toList) := .inr (by decide)
  have hitems : splitList "('a,b', 1)".toList = ["'a,b'".toList, "1".toList] :=
    @items_intercalate ["'a,b'".toList, " 1".toList]
      (List.forall_mem_cons.mpr ⟨hquote, List.forall_mem_singleton.mpr hnumber⟩)
  have hlist : isLiteralList "('a,b', 1)".toList = true := by
    rw [isLiteralList, hitems]
    decide
  exact ⟨rfl, hlist, list?_format_iff rfl hlist⟩

/-- Two items without a comma between them are written as one place of the list. -/
theorem list?_format_missing_comma :
    isLiteralList "'a' 'b'".toList = true ∧
    values .isIn "'a' 'b'".toList = [.text "a", .text "b"] ∧
    format (some .isIn) "'a' 'b'".toList = some "('a' 'b')".toList ∧
    list? "('a' 'b')".toList = some ["'a' 'b'".toList] ∧
    list? "('a' 'b')".toList ≠ some (scalars .isIn "'a' 'b'".toList) := by
  have hitems : splitList "'a' 'b'".toList = ["'a'".toList, "'b'".toList] := by
    have hfirst : items "'a' 'b'".toList = "'a'".toList :: items " 'b'".toList :=
      @items_quote ['a'] " 'b'".toList (by decide)
    have hblank : items " 'b'".toList = items "'b'".toList :=
      @items_blank "'b'".toList [' '] (List.forall_mem_singleton.mpr rfl)
    have hsecond : items "'b'".toList = "'b'".toList :: items [] :=
      @items_quote ['b'] [] (by decide)
    rw [hblank, hsecond, items_nil] at hfirst
    exact hfirst
  have hlist : isLiteralList "'a' 'b'".toList = true := by
    rw [isLiteralList, hitems]
    decide
  have hplaces : list? "('a' 'b')".toList = some ["'a' 'b'".toList] := by decide
  have hscalars := (@scalars_of_isLiteralList .isIn _ rfl hlist).1.trans hitems
  refine ⟨hlist, ?_, by decide, hplaces, ?_⟩
  · rw [values, hscalars]
    decide
  · rw [hplaces, hscalars]
    decide

end Lists

end Literal
end SelectQuery
