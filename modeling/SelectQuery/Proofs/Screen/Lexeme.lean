import Mathlib.Data.List.Infix
import SelectQuery.Proofs.Screen.Tame
import SelectQuery.Screen.Script.Select

/-!
# Lexemes of tame text

The first screen cuts a tame text at the places where its pieces meet, as long as no literal
has a backslash in front of a quote (`Closes`): behind a backslash a quote does not close a
literal for this screen, and what follows is read as if it stood in the text. For each piece
the first rule that fits is found (`rule_word`, `rule_symbol`, `rule_number`). None of the
lexemes ends a statement, so a tame text that begins with `SELECT` is one statement, and it
selects (`isSelect_of_tame`).
-/

namespace SelectQuery.Screen

namespace Script

open Text

variable {c : Char} {cs ds w rest : List Char} {before : Option Char}

/-- No quote in the literal of a text stands behind a backslash. -/
def Closes (t : List Char) : Prop := ¬['\\', '\''] <:+: Literal.quote t

instance (t : List Char) : Decidable (Closes t) :=
  inferInstanceAs (Decidable (¬['\\', '\''] <:+: Literal.quote t))

/-- A lexeme that ends no statement, and behind which no word turns out to be a name. -/
def Lexeme.IsQuiet (l : Lexeme) : Prop :=
  l.isMark ";" = false ∧ l.isMark "::" = false ∧ l.isMark ":=" = false ∧ l.isGo = false

instance (l : Lexeme) : Decidable l.IsQuiet := inferInstanceAs (Decidable (_ ∧ _))

/-- A lexeme with a whole piece of the text. -/
theorem lexemesFrom_append {kind : LexemeKind} (hne : w ≠ [])
    (hrule : rule before (w ++ cs) = some (kind, cs)) :
    lexemesFrom before (w ++ cs) = ⟨kind, w⟩ :: lexemesFrom w.getLast? cs := by
  cases w with
  | nil => exact absurd rfl hne
  | cons c w =>
      rw [List.cons_append] at hrule ⊢
      rw [lexemesFrom, hrule]
      simp

/-! ## Words in other letter case -/

theorem upperText_cons (hc : c.toNat < 128) (cs : List Char) :
    (upperText (c :: cs)).toList = c.toUpper :: (upperText cs).toList := by
  simp [upperText, upper, upperChar, hc]

theorem upperText_plain (hcs : IsPlain cs) : (upperText cs).toList = cs.map Char.toUpper := by
  induction cs with
  | nil => rfl
  | cons c cs ih =>
      obtain ⟨hc, hcs⟩ := List.forall_mem_cons.mp hcs
      rw [upperText_cons hc, ih hcs, List.map_cons]

theorem mem_upperText (cs : List Char) (hc : c.toNat < 128) (hmem : c ∈ cs) :
    c.toUpper ∈ (upperText cs).toList := by
  obtain ⟨front, back, rfl⟩ := List.append_of_mem hmem
  simp [upperText, upper, upperChar, hc]

/-- What two words have in common in upper case, they have in lower case too. -/
theorem lower_of_upperText {word : String} (hcs : IsPlain cs) (hword : IsPlain word.toList)
    (h : upperText cs = word) : lower (String.ofList cs) = lower word := by
  have htwice (c : Char) (hc : c.toNat < 128) : c.toUpper.toLower = c.toLower :=
    forall_ascii (p := fun c => c.toUpper.toLower = c.toLower) (by decide +kernel) hc
  have hlower {ds : List Char} (hds : IsPlain ds) : lowerFrom [] ds = ds.map Char.toLower := by
    have happend := lowerFrom_plain_append hds [] []
    rwa [List.append_nil, lowerFrom, List.append_nil] at happend
  have hmap : cs.map Char.toLower = word.toList.map Char.toLower := by
    rw [← h, upperText_plain hcs, List.map_map]
    exact List.map_congr_left fun c hc => (htwice c (hcs c hc)).symm
  rw [lower, lower, String.toList_ofList, hlower hcs, hlower hword, hmap]

/-! ## What no rule of its own begins with -/

/-- The characters that comments, placeholders, and quoted, signed or bracketed names begin
with. -/
def openers : List Char := ['-', '#', '/', ':', '*', '\x60', '´', '$', '?', '%', '\\', '@', '[']

theorem afterLineEnd?_cons (hblank : isBlank c = false) : afterLineEnd? (c :: cs) = none := by
  have hreturn : c ≠ '\r' := by rintro rfl; exact absurd hblank (by decide)
  have hfeed : c ≠ '\n' := by rintro rfl; exact absurd hblank (by decide)
  simp [afterLineEnd?, hreturn, hfeed]

theorem placeholder_eq_none (hc : c ∉ openers) (before : Option Char) (cs : List Char) :
    placeholder before (c :: cs) = none := by
  simp only [openers, List.mem_cons, List.not_mem_nil, or_false, not_or] at hc
  obtain ⟨-, -, -, hcolon, -, -, -, hdollar, hquestion, hpercent, -⟩ := hc
  have hsign : (c == '$' || c == ':') = false := by simp [hdollar, hcolon]
  rw [placeholder.eq_def]
  split
  · next h => exact absurd (List.cons.inj h).1 hquestion
  · next h => exact absurd (List.cons.inj h).1 hpercent
  · next h =>
      obtain ⟨rfl, -⟩ := List.cons.inj h
      rw [hsign, Bool.false_and, Bool.false_and, if_neg Bool.false_ne_true]
  · rfl

/-- The rules that are left for any other character. -/
theorem rule_cons (hblank : isBlank c = false) (hc : c ∉ openers) (before : Option Char) :
    rule before (c :: cs) = (reservedWord (c :: cs) <|> nameWord before (c :: cs) <|>
      (afterNumber? (c :: cs)).map (.other, ·) <|> quotedText (c :: cs) <|> endWord (c :: cs) <|>
      goWord (c :: cs) <|> plainWord (c :: cs) <|> sign (c :: cs)) := by
  have hplaceholder := placeholder_eq_none hc before cs
  simp only [openers, List.mem_cons, List.not_mem_nil, or_false, not_or] at hc
  have hcomment : comment (c :: cs) = none := by simp [comment, hc]
  have hspace : space (c :: cs) = none := by
    rw [space.eq_def, afterLineEnd?_cons hblank]
    exact if_neg (by simp [hblank])
  have hdouble : doubleMark (c :: cs) = none := by simp [doubleMark, hc]
  have hquoted : quotedName (c :: cs) = none := by simp [quotedName, hc]
  have hdollar : dollarText before (c :: cs) = none := by simp [dollarText, hc]
  have hescaped : escapedWord (c :: cs) = none := by simp [escapedWord, hc]
  have hsigned : signedName (c :: cs) = none := by simp [signedName, hc]
  have hbracket : bracketName before (c :: cs) = none := by simp [bracketName, hc]
  simp only [rule, hcomment, hspace, hdouble, hquoted, hdollar, hplaceholder, hescaped, hsigned,
    hbracket, Option.orElse_eq_or, Option.orElse_eq_orElse, Option.none_or]

/-! ## Marks and signs -/

/-- A word is not read where a character stands that it does not have. -/
theorem afterWord?_eq_none {word : String} (hc : c.toNat < 128) (hword : c.toUpper ∉ word.toList)
    (hin : c ∈ cs.take word.length) : afterWord? word cs = none := by
  have hne : (upperText (cs.take word.length) == word) = false := by
    rw [beq_eq_false_iff_ne]
    intro h
    exact hword (h ▸ mem_upperText _ hc hin)
  simp [afterWord?, hne]

/-- Characters that are a lexeme of their own, or begin an operator or a quoted text. -/
def symbols : List Char := ['(', ')', ',', '.', '=', '!', '<', '>', '\'']

/-- What no word, no number and no blank has. -/
theorem symbol_facts : ∀ c ∈ symbols, c.toNat < 128 ∧ isBlank c = false ∧ c ∉ openers ∧
    isWord c = false ∧ isLetter c = false ∧ isDigit c = false ∧ c.toUpper = c ∧
    c ∉ "END".toList ∧ c ∉ "GO".toList ∧ c ≠ '0' :=
  forall_mem_of_all (by decide)

/-- No number begins with a symbol, except with a point. -/
theorem afterNumber?_symbol (hc : c ∈ symbols)
    (hpoint : c = '.' → ∀ d ∈ cs.head?, isDigit d = false) : afterNumber? (c :: cs) = none := by
  obtain ⟨-, -, hopener, hword, hletter, hdigit, -, -, -, hzero⟩ := symbol_facts c hc
  have hminus : c ≠ '-' := by rintro rfl; exact hopener (by decide)
  have hplain : withoutMinus (c :: cs) = c :: cs := by simp [withoutMinus, hminus]
  have hdigits : digits (c :: cs) = ([], c :: cs) := by
    simp [digits, List.span_eq_takeWhile_dropWhile, hdigit]
  have hhex : afterHex? (c :: cs) = none := by simp [afterHex?, hplain, hzero]
  have hscientific : afterScientific? (c :: cs) = none := by
    simp [afterScientific?, hplain, hdigits]
  have hwhole : afterWhole? (c :: cs) = none := by simp [afterWhole?, hplain, hdigits, giveBack?]
  have hafter : afterPoint? (c :: cs) = none := by
    rw [afterPoint?, hplain, hdigits]
    by_cases hc : c = '.'
    · subst hc
      have hrun : digits cs = ([], cs) := by
        cases cs with
        | nil => rfl
        | cons d cs => simp [digits, List.span_eq_takeWhile_dropWhile, hpoint rfl d rfl]
      simp [hrun, giveBack?]
    · simp [hc]
  rw [afterNumber?, hhex, hscientific, hafter, hwhole]
  simp

/-- No rule for words and numbers fits a symbol. -/
theorem rule_symbol (hc : c ∈ symbols) (hpoint : c = '.' → ∀ d ∈ cs.head?, isDigit d = false)
    (before : Option Char) :
    rule before (c :: cs) = (quotedText (c :: cs) <|> sign (c :: cs)) := by
  obtain ⟨hascii, hblank, hopener, hword, hletter, -, hupper, hend, hgo, -⟩ := symbol_facts c hc
  have hreserved : reservedWord (c :: cs) = none := by
    have hnone : (c :: cs).takeWhile isWord = [] := by simp [hword]
    rw [reservedWord, hnone, if_neg (by decide)]
  have hname : nameWord before (c :: cs) = none := by simp [nameWord, hletter]
  have hends : endWord (c :: cs) = none := by
    rw [endWord, afterWord?_eq_none hascii (by rwa [hupper]) (List.mem_cons_self ..)]
  have hgoes : goWord (c :: cs) = none := by
    rw [goWord, afterWord?_eq_none hascii (by rwa [hupper]) (List.mem_cons_self ..)]
  have hplain : plainWord (c :: cs) = none := by simp [plainWord, hword]
  rw [rule_cons hblank hopener, hreserved, hname, afterNumber?_symbol hc hpoint, hends, hgoes,
    hplain]
  cases quotedText (c :: cs) <;> rfl

theorem rule_mark (hc : c ∈ ['(', ')', ',', '.'])
    (hpoint : c = '.' → ∀ d ∈ cs.head?, isDigit d = false) (before : Option Char) :
    rule before (c :: cs) = some (.mark, cs) := by
  have hsymbol : c ∈ symbols := List.mem_append_left _ hc
  rw [rule_symbol hsymbol hpoint]
  simp only [List.mem_cons, List.not_mem_nil, or_false] at hc
  rcases hc with rfl | rfl | rfl | rfl <;> rfl

/-- A blank or a mark is a lexeme of its own. -/
theorem rule_separator (hc : c ∈ separators) (before : Option Char) :
    ∃ kind, rule before (c :: cs) = some (kind, cs) ∧ (⟨kind, [c]⟩ : Lexeme).IsQuiet := by
  simp only [separators, List.mem_cons, List.not_mem_nil, or_false] at hc
  rcases hc with rfl | rfl | hmark
  · exact ⟨.blank, rfl, by decide⟩
  · exact ⟨.lineEnd, rfl, by decide⟩
  · rcases hmark with rfl | rfl | rfl | rfl
    · exact ⟨.mark, rule_mark (by decide) (by simp) before, by decide⟩
    · exact ⟨.mark, rule_mark (by decide) (by simp) before, by decide⟩
    · exact ⟨.mark, rule_mark (by decide) (by simp) before, by decide⟩
    · exact ⟨.other, rfl, by decide⟩

theorem rule_sign {s : String} (hs : s ∈ comparisons) (before : Option Char) :
    rule before (s.toList ++ ' ' :: cs) = some (.other, ' ' :: cs) := by
  have hsymbol (c : Char) (hc : c ∈ ['=', '!', '<', '>']) (ds : List Char) :
      rule before (c :: ds) = sign (c :: ds) := by
    rw [rule_symbol (List.mem_append_right ['(', ')', ',', '.'] (List.mem_append_left _ hc))]
    · simp only [List.mem_cons, List.not_mem_nil, or_false] at hc
      rcases hc with rfl | rfl | rfl | rfl <;> rfl
    · rintro rfl
      exact absurd hc (by decide)
  simp only [comparisons, List.mem_cons, List.not_mem_nil, or_false] at hs
  rcases hs with rfl | rfl | rfl | rfl | rfl | rfl | rfl <;>
    exact (hsymbol _ (by decide) _).trans rfl

/-! ## Literals -/

/-- The quote behind a text closes its literal. -/
theorem afterQuote?_literal {t : List Char}
    (ht : ¬['\\', '\''] <:+: Literal.doubleQuotes t ++ ['\'']) (hsep : cs.head? ≠ some '\'') :
    afterQuote? '\'' true (Literal.doubleQuotes t ++ '\'' :: cs) = some cs := by
  induction t with
  | nil =>
      cases cs with
      | nil => rfl
      | cons c cs =>
          have hc : c ≠ '\'' := by simpa using hsep
          simp [afterQuote?, hc]
  | cons c t ih =>
      by_cases hc : c = '\''
      · subst hc
        rw [Literal.doubleQuotes_quote] at ht ⊢
        have hrest := ih fun h => ht (h.trans ⟨['\'', '\''], [], by simp⟩)
        rw [List.cons_append, List.cons_append, afterQuote?]
        simp [hrest]
      · rw [Literal.doubleQuotes_cons hc] at ht ⊢
        have hrest := ih fun h => ht (h.trans ⟨[c], [], by simp⟩)
        obtain ⟨d, more, hmore⟩ : ∃ d more, Literal.doubleQuotes t ++ ['\''] = d :: more :=
          List.exists_cons_of_ne_nil (by simp)
        have hopens : Literal.doubleQuotes t ++ '\'' :: cs = d :: (more ++ cs) := by
          rw [← List.singleton_append, ← List.append_assoc, hmore, List.cons_append]
        have hslash : ¬(c = '\\' ∧ d = '\'') := by
          rintro ⟨rfl, rfl⟩
          exact ht ⟨[], more, by simp [hmore]⟩
        rw [List.cons_append, hopens, afterQuote?, ← hopens, hrest]
        simp [hc, hslash]

theorem rule_literal {t : List Char} (ht : Closes t) (hsep : cs.head? ≠ some '\'')
    (before : Option Char) :
    rule before (Literal.quote t ++ cs) = some (.other, cs) := by
  have hsplit : Literal.quote t ++ cs = '\'' :: (Literal.doubleQuotes t ++ '\'' :: cs) := by
    simp [Literal.quote]
  have hinside : ¬['\\', '\''] <:+: Literal.doubleQuotes t ++ ['\''] :=
    fun h => ht (h.trans (⟨['\''], [], by simp [Literal.quote]⟩))
  have hquoted :
      quotedText ('\'' :: (Literal.doubleQuotes t ++ '\'' :: cs)) = some (.other, cs) := by
    simp [quotedText, afterQuote?_literal hinside hsep]
  rw [hsplit, rule_symbol (by decide) (by simp), hquoted]
  rfl

/-! ## Words -/

/-- What may stand behind a word. -/
def Behind (cs : List Char) : Prop := ∀ c ∈ cs.head?, c = '.' ∨ c ∈ separators

theorem behind_facts : ∀ c ∈ '.' :: separators, c.toNat < 128 ∧ c.toUpper = c ∧
    continuesWord c = false ∧ isWord c = false :=
  forall_mem_of_all (by decide)

/-- In front of a plain word no other word is read, unless the plain word goes on behind it. -/
theorem afterWord?_word {word : String} (hw : ∀ c ∈ w, isNameChar c = true)
    (hne : upperText w ≠ word) (hbehind : ∀ c ∈ cs.head?, c.toNat < 128 ∧ c.toUpper ∉ word.toList) :
    ∀ rest ∈ afterWord? word (w ++ cs), ∃ d ∈ rest.head?, isNameChar d = true := by
  intro rest hrest
  rw [Option.mem_def, afterWord?] at hrest
  split at hrest
  · next hword =>
      obtain rfl := Option.some.inj hrest
      rw [beq_iff_eq] at hword
      rcases Nat.lt_or_ge word.length w.length with hshort | hlong
      · rw [List.drop_append_of_le_length hshort.le]
        obtain ⟨d, back, hback⟩ := List.exists_cons_of_ne_nil
          (List.ne_nil_of_length_pos (by rw [List.length_drop]; omega) : w.drop word.length ≠ [])
        exact ⟨d, by simp [hback], hw d (List.mem_of_mem_drop (hback ▸ List.mem_cons_self))⟩
      · -- the text goes on behind the word with a character that the other word does not have
        rw [List.take_append, List.take_of_length_le hlong] at hword
        cases cs with
        | nil => rw [List.take_nil, List.append_nil] at hword; exact absurd hword hne
        | cons c cs =>
            cases hmore : word.length - w.length with
            | zero => rw [hmore, List.take_zero, List.append_nil] at hword; exact absurd hword hne
            | succ k =>
                obtain ⟨hascii, hout⟩ := hbehind c rfl
                rw [hmore, List.take_succ_cons] at hword
                exact absurd (hword ▸ mem_upperText _ hascii (by simp)) hout
  · cases hrest

theorem nameChar_facts (h : isNameChar c = true) :
    isWord c = true ∧ continuesWord c = true ∧ isBlank c = false :=
  forall_ascii (p := fun c => isNameChar c = true →
    isWord c = true ∧ continuesWord c = true ∧ isBlank c = false) (by decide +kernel)
    (lt_of_isNameChar h) h

theorem initial_facts (h : ColumnPath.isInitial c = true) :
    c ∉ openers ∧ stopsNumber c = true ∧ isDigit c = false ∧ c ∉ ['0', '-', '\'', '"'] :=
  forall_ascii (p := fun c => ColumnPath.isInitial c = true → c ∉ openers ∧
    stopsNumber c = true ∧ isDigit c = false ∧ c ∉ ['0', '-', '\'', '"']) (by decide +kernel)
    (lt_of_isNameChar (isInitial_facts h).1) h

/-- A plain word is none of the words that end something. -/
theorem upperText_ne (hw : isPlainWord w = true) (word : String) (hword : IsPlain word.toList)
    (hwatched : lower word ∈ watchedWords) : upperText w ≠ word := by
  obtain ⟨c, rest, rfl, -, hchars, hnot⟩ := isPlainWord_cons hw
  intro h
  exact hnot (lower_of_upperText (fun d hd => lt_of_isNameChar (hchars d hd)) hword h ▸ hwatched)

theorem isQuiet_word (hw : isPlainWord w = true) {kind : LexemeKind}
    (hkind : kind = .word ∨ kind = .name) : (⟨kind, w⟩ : Lexeme).IsQuiet := by
  obtain ⟨c, rest, rfl, -, hchars, -⟩ := isPlainWord_cons hw
  rcases hkind with rfl | rfl
  · refine ⟨rfl, rfl, rfl, ?_⟩
    have hrun : (c :: rest).takeWhile (!isBlank ·) = c :: rest :=
      List.takeWhile_eq_self_iff.mpr fun d hd => by rw [(nameChar_facts (hchars d hd)).2.2]; rfl
    have hgo : upperText ['G', 'O'] = "GO" := by decide
    have hne : c :: rest ≠ ['G', 'O'] := fun h =>
      upperText_ne hw "GO" (by simp [IsPlain]) (by decide) (h ▸ hgo)
    rw [Lexeme.isGo, hrun, beq_eq_false_iff_ne.mpr hne, Bool.and_false]
  · exact ⟨rfl, rfl, rfl, rfl⟩

/-- A watched word is not read at the start of a plain word, unless that goes on behind it. -/
theorem afterWord?_watched (hw : isPlainWord w = true) (hcs : Behind cs) (word : String)
    (hword : IsPlain word.toList) (hwatched : lower word ∈ watchedWords)
    (hout : ∀ c ∈ '.' :: separators, c ∉ word.toList) :
    ∀ rest ∈ afterWord? word (w ++ cs), ∃ d more, rest = d :: more ∧ isNameChar d = true := by
  intro rest hrest
  have hne := upperText_ne hw word hword hwatched
  obtain ⟨c, front, rfl, -, hchars, -⟩ := isPlainWord_cons hw
  have hbehind : ∀ d ∈ cs.head?, d.toNat < 128 ∧ d.toUpper ∉ word.toList := by
    intro d hd
    have hmem := List.mem_cons.mpr (hcs d hd)
    obtain ⟨hascii, hupper, -⟩ := behind_facts d hmem
    exact ⟨hascii, hupper.symm ▸ hout d hmem⟩
  obtain ⟨d, hd, hname⟩ := afterWord?_word hchars hne hbehind rest hrest
  obtain ⟨more, rfl⟩ := List.head?_eq_some_iff.mp hd
  exact ⟨d, more, rfl, hname⟩

theorem endWord_word (hw : isPlainWord w = true) (hcs : Behind cs) : endWord (w ++ cs) = none := by
  have hafter := afterWord?_watched hw hcs "END" (by simp [IsPlain]) (by decide)
    (forall_mem_of_all (by decide))
  rw [endWord]
  cases hrest : afterWord? "END" (w ++ cs) with
  | none => rfl
  | some behind =>
      obtain ⟨d, more, rfl, hname⟩ := hafter behind hrest
      obtain ⟨hword, -, hblank⟩ := nameChar_facts hname
      simp [wordEnds, hword, hblank]

theorem goWord_word (hw : isPlainWord w = true) (hcs : Behind cs) : goWord (w ++ cs) = none := by
  have hafter := afterWord?_watched hw hcs "GO" (by simp [IsPlain]) (by decide)
    (forall_mem_of_all (by decide))
  rw [goWord]
  cases hrest : afterWord? "GO" (w ++ cs) with
  | none => rfl
  | some behind =>
      obtain ⟨d, more, rfl, hname⟩ := hafter behind hrest
      simp [(nameChar_facts hname).2.2]

theorem afterNumber?_eq_none (hc : stopsNumber c = true) (hdigit : isDigit c = false)
    (hnot : c ∉ ['0', '-', '\'', '"']) : afterNumber? (c :: cs) = none := by
  simp only [List.mem_cons, List.not_mem_nil, or_false, not_or] at hnot
  have hplain : withoutMinus (c :: cs) = c :: cs := by simp [withoutMinus, hnot]
  have hdigits : digits (c :: cs) = ([], c :: cs) := by
    simp [digits, List.span_eq_takeWhile_dropWhile, hdigit]
  have hhex : afterHex? (c :: cs) = none := by simp [afterHex?, hplain, hnot]
  have hscientific : afterScientific? (c :: cs) = none := by
    simp [afterScientific?, hplain, hdigits]
  simp [afterNumber?, hhex, hscientific, runsOn, hc]

/-- A plain word is one lexeme. -/
theorem rule_word (hw : isPlainWord w = true) (hcs : Behind cs) (before : Option Char) :
    ∃ kind, rule before (w ++ cs) = some (kind, cs) ∧ (kind = .word ∨ kind = .name) ∧
      (pointFollows cs = false → before ≠ some '.' → cs.head? ≠ some '(' → kind = .word) := by
  have hends := endWord_word hw hcs
  have hgoes := goWord_word hw hcs
  obtain ⟨c, rest, rfl, hinitial, hchars, -⟩ := isPlainWord_cons hw
  obtain ⟨hopener, hstops, hdigit, hnot⟩ := initial_facts hinitial
  obtain ⟨hword, -, hblank⟩ := nameChar_facts (hchars c List.mem_cons_self)
  have hrest : ∀ d ∈ rest, isNameChar d = true := fun d hd => hchars d (List.mem_cons_of_mem c hd)
  have hstop : ∀ d ∈ cs.head?, isWord d = false := fun d hd =>
    (behind_facts d (List.mem_cons.mpr (hcs d hd))).2.2.2
  have htake : (c :: rest ++ cs).takeWhile isWord = c :: rest :=
    takeWhile_run (fun d hd => (nameChar_facts (hchars d hd)).1) hstop
  have hdrop : (rest ++ cs).dropWhile isWord = cs :=
    dropWhile_run (fun d hd => (nameChar_facts (hrest d hd)).1) hstop
  have hcontinue : (rest ++ cs).dropWhile continuesWord = cs :=
    dropWhile_run (fun d hd => (nameChar_facts (hrest d hd)).2.1) fun d hd =>
      (behind_facts d (List.mem_cons.mpr (hcs d hd))).2.2.1
  have hquoted : quotedText (c :: (rest ++ cs)) = none := by
    simp only [List.mem_cons, List.not_mem_nil, or_false, not_or] at hnot
    simp [quotedText, hnot]
  have hplain : plainWord (c :: (rest ++ cs)) = some (.word, cs) := by
    rw [plainWord, if_pos hword, hcontinue]
  rw [List.cons_append] at hends hgoes htake ⊢
  have hreserved : reservedWord (c :: (rest ++ cs)) = none ∨
      reservedWord (c :: (rest ++ cs)) = some (.word, cs) := by
    rw [reservedWord, List.dropWhile_cons, if_pos hword, hdrop]
    split
    · exact .inr rfl
    · exact .inl rfl
  have hname : nameWord before (c :: (rest ++ cs)) = none ∨
      nameWord before (c :: (rest ++ cs)) = some (.name, cs) ∧
        ¬(pointFollows cs = false ∧ before ≠ some '.' ∧ cs.head? ≠ some '(') := by
    simp only [nameWord, hdrop]
    split
    · next hcalled =>
        refine .inr ⟨rfl, ?_⟩
        rintro ⟨hpoint, hbefore, hparen⟩
        simp [hpoint, hbefore, hparen] at hcalled
    · exact .inl rfl
  rw [rule_cons hblank hopener, afterNumber?_eq_none hstops hdigit hnot, hquoted, hends, hgoes,
    hplain]
  rcases hreserved with hreserved | hreserved
  · rcases hname with hname | ⟨hname, hcalled⟩
    · exact ⟨.word, by rw [hreserved, hname]; rfl, .inl rfl, fun _ _ _ => rfl⟩
    · refine ⟨.name, by rw [hreserved, hname]; rfl, .inr rfl, fun hpoint hbefore hparen => ?_⟩
      exact absurd ⟨hpoint, hbefore, hparen⟩ hcalled
  · exact ⟨.word, by rw [hreserved]; rfl, .inl rfl, fun _ _ _ => rfl⟩

/-! ## Numbers -/

theorem digit_facts (h : c.isDigit = true) : isDigit c = true ∧ isBlank c = false ∧
    c ∉ openers ∧ isWord c = true ∧ c.toUpper = c ∧ stopsNumber c = false ∧
    c ∉ ['x', 'X'] ∧ c ∉ ['\'', '"'] ∧ ∀ word ∈ reserved, c ∉ word.toList :=
  forall_ascii (p := fun c => c.isDigit = true → isDigit c = true ∧ isBlank c = false ∧
    c ∉ openers ∧ isWord c = true ∧ c.toUpper = c ∧ stopsNumber c = false ∧
    c ∉ ['x', 'X'] ∧ c ∉ ['\'', '"'] ∧ ∀ word ∈ reserved, c ∉ word.toList) (by decide +kernel)
    (lt_of_isNameChar (by simp [isNameChar, Char.isAlphanum, h])) h

theorem separator_numbers : ∀ c ∈ separators, isDigit c = false ∧ isWord c = false ∧
    stopsNumber c = false ∧ c ∉ ['e', 'E', '.', 'x', 'X'] :=
  forall_mem_of_all (by decide)

theorem digits_run (hne : ds ≠ []) (hds : ∀ d ∈ ds, d.isDigit = true) (hsep : Separated cs) :
    withoutMinus (ds ++ cs) = ds ++ cs ∧ digits (ds ++ cs) = (ds, cs) := by
  constructor
  · obtain ⟨d, more, rfl⟩ := List.exists_cons_of_ne_nil hne
    have hminus : d ≠ '-' := by
      rintro rfl
      exact absurd (hds '-' List.mem_cons_self) (by decide)
    simp [withoutMinus, hminus]
  · have hrun : ∀ d ∈ ds, isDigit d = true := fun d hd => (digit_facts (hds d hd)).1
    have hstop : ∀ c ∈ cs.head?, isDigit c = false := fun c hc =>
      (separator_numbers c (hsep c hc)).1
    rw [digits, List.span_eq_takeWhile_dropWhile, takeWhile_run hrun hstop,
      dropWhile_run hrun hstop]

theorem afterHex?_digits (hne : ds ≠ []) (hds : ∀ d ∈ ds, d.isDigit = true) (hsep : Separated cs) :
    afterHex? (ds ++ cs) = none := by
  obtain ⟨d, more, rfl⟩ := List.exists_cons_of_ne_nil hne
  have hnext : ∀ x ∈ (more ++ cs).head?, x ≠ 'x' ∧ x ≠ 'X' := by
    intro x hx
    cases more with
    | nil =>
        have hout := (separator_numbers x (hsep x hx)).2.2.2
        simp only [List.mem_cons, List.not_mem_nil, or_false, not_or] at hout
        exact hout.2.2.2
    | cons y more =>
        obtain rfl : y = x := by simpa using hx
        have hout := (digit_facts (hds y (by simp))).2.2.2.2.2.2.1
        simpa using hout
  rw [afterHex?, (digits_run hne hds hsep).1, List.cons_append]
  cases hbehind : more ++ cs with
  | nil => simp
  | cons x behind =>
      have hx := hnext x (by simp [hbehind])
      cases behind with
      | nil => simp
      | cons y behind => by_cases hd : d = '0' <;> simp [hd, hx]

/-- Some digits in front of a separator are a number. -/
theorem afterNumber?_digits (hne : ds ≠ []) (hds : ∀ d ∈ ds, d.isDigit = true)
    (hsep : Separated cs) : afterNumber? (ds ++ cs) = some cs := by
  obtain ⟨hplain, hrun⟩ := digits_run hne hds hsep
  have hnext : ∀ c ∈ cs.head?, stopsNumber c = false ∧ c ≠ 'e' ∧ c ≠ 'E' ∧ c ≠ '.' := by
    intro c hc
    obtain ⟨-, -, hstops, hout⟩ := separator_numbers c (hsep c hc)
    simp only [List.mem_cons, List.not_mem_nil, or_false, not_or] at hout
    exact ⟨hstops, hout.1, hout.2.1, hout.2.2.1⟩
  have hfraction : afterFraction cs = cs := by
    cases cs with
    | nil => rfl
    | cons c cs => simp [afterFraction, hnext c rfl]
  have hexponent : afterExponent? cs = none := by
    cases cs with
    | nil => rfl
    | cons c cs => simp [afterExponent?, hnext c rfl]
  have hpoint : afterPoint? (ds ++ cs) = none := by
    rw [afterPoint?, hplain, hrun]
    cases cs with
    | nil => rfl
    | cons c cs => simp [hnext c rfl]
  have hwhole : afterWhole? (ds ++ cs) = some cs := by
    have hends : runsOn cs = false := by
      cases cs with
      | nil => rfl
      | cons c cs => simp [runsOn, hnext c rfl]
    obtain ⟨d, more, hmore⟩ := List.exists_cons_of_ne_nil (List.reverse_ne_nil_iff.mpr hne)
    simp [afterWhole?, hplain, hrun, hmore, giveBack?, hends]
  have hscientific : afterScientific? (ds ++ cs) = none := by
    simp [afterScientific?, hplain, hrun, hne, hfraction, hexponent]
  have hstops : runsOn (ds ++ cs) = false := by
    obtain ⟨d, more, rfl⟩ := List.exists_cons_of_ne_nil hne
    simp [runsOn, (digit_facts (hds d List.mem_cons_self)).2.2.2.2.2.1]
  simp [afterNumber?, afterHex?_digits hne hds hsep, hscientific, hstops, hpoint, hwhole]

theorem rule_number (hne : ds ≠ []) (hds : ∀ d ∈ ds, d.isDigit = true) (hsep : Separated cs)
    (before : Option Char) : rule before (ds ++ cs) = some (.other, cs) := by
  have hafter := afterNumber?_digits hne hds hsep
  have htake : (ds ++ cs).takeWhile isWord = ds :=
    takeWhile_run (fun d hd => (digit_facts (hds d hd)).2.2.2.1) fun c hc =>
      (separator_numbers c (hsep c hc)).2.1
  obtain ⟨d, more, rfl⟩ := List.exists_cons_of_ne_nil hne
  have hdigit := hds d List.mem_cons_self
  obtain ⟨-, hblank, hopener, -, hupper, hstops, -, -, hreserved⟩ := digit_facts hdigit
  have hword : reservedWord (d :: more ++ cs) = none := by
    have hnot : ¬reserved.contains (upperText (d :: more)) = true := fun h =>
      hreserved _ (List.contains_iff_mem.mp h) (by
        simpa [hupper] using mem_upperText (d :: more)
          (lt_of_isNameChar (by simp [isNameChar, Char.isAlphanum, hdigit])) List.mem_cons_self)
    rw [reservedWord, htake, if_neg hnot]
  have hname : nameWord before (d :: more ++ cs) = none := by
    obtain ⟨hletter, -⟩ : isLetter d = false ∧ d ≠ '_' := by simpa [stopsNumber] using hstops
    simp [nameWord, hletter]
  rw [List.cons_append] at hword hname hafter ⊢
  rw [rule_cons hblank hopener, hword, hname, hafter]
  rfl

/-! ## Statements -/

/-- Text without a lexeme that ends a statement. -/
def Quiet (cs : List Char) : Prop := ∀ before, ∀ l ∈ lexemesFrom before cs, l.IsQuiet

theorem Quiet.append (hne : w ≠ []) (hrule : ∀ before, ∃ kind,
    rule before (w ++ cs) = some (kind, cs) ∧ (⟨kind, w⟩ : Lexeme).IsQuiet) (h : Quiet cs) :
    Quiet (w ++ cs) := by
  intro before
  obtain ⟨kind, hkind, hquiet⟩ := hrule before
  rw [lexemesFrom_append hne hkind]
  exact List.forall_mem_cons.mpr ⟨hquiet, h _⟩

theorem Quiet.separator (hc : c ∈ separators) (h : Quiet cs) : Quiet (c :: cs) :=
  h.append (List.cons_ne_nil c []) (rule_separator hc)

theorem Quiet.word (hw : isPlainWord w = true) (hcs : Behind cs) (h : Quiet cs) :
    Quiet (w ++ cs) := by
  refine h.append (by rintro rfl; exact absurd hw (by decide)) fun before => ?_
  obtain ⟨kind, hrule, hkind, -⟩ := rule_word hw hcs before
  exact ⟨kind, hrule, isQuiet_word hw hkind⟩

theorem isQuiet_other (cs : List Char) : (⟨.other, cs⟩ : Lexeme).IsQuiet := ⟨rfl, rfl, rfl, rfl⟩

end Script

open Script

/-- No blank, no digit and no point. -/
def Starts (c : Char) : Prop := Text.isBlank c = false ∧ Text.isDigit c = false ∧ c ≠ '.'

theorem starts_word (hw : isPlainWord w = true) : ∀ c ∈ (w ++ cs).head?, Starts c := by
  obtain ⟨c, rest, rfl, hinitial, -⟩ := isPlainWord_cons hw
  rintro d ⟨⟩
  refine ⟨(nameChar_facts (isInitial_facts hinitial).1).2.2, (initial_facts hinitial).2.2.1, ?_⟩
  rintro rfl
  exact absurd hinitial (by decide)

theorem starts_sign {s : String} (hs : s ∈ comparisons) :
    ∀ c ∈ (s.toList ++ cs).head?, Starts c := by
  simp only [comparisons, List.mem_cons, List.not_mem_nil, or_false] at hs
  rcases hs with rfl | rfl | rfl | rfl | rfl | rfl | rfl <;>
    (rintro c ⟨⟩; exact ⟨by decide, by decide, by decide⟩)

theorem starts_literal (t : List Char) : ∀ c ∈ (Literal.quote t ++ cs).head?, Starts c := by
  rintro c ⟨⟩
  exact ⟨by decide, by decide, by decide⟩

/-- A tame text begins with no digit. -/
theorem Tame.head?_not_digit {ok : List Char → Prop} (h : Tame ok cs) :
    ∀ c ∈ cs.head?, Text.isDigit c = false := by
  intro d hd
  cases h with
  | nil => cases hd
  | separator hc => exact Option.some.inj hd ▸ (separator_numbers _ hc).1
  | number => exact Option.some.inj hd ▸ (separator_numbers ' ' (by decide)).1
  | sign hs => exact (starts_sign hs d hd).2.1
  | word hw => exact (starts_word hw d hd).2.1
  | qualified hw => exact (starts_word hw d hd).2.1
  | literal => exact (starts_literal _ d hd).2.1

/-- No lexeme of a tame text ends a statement. -/
theorem Tame.quiet (h : Tame Closes cs) : Quiet cs := by
  have hspace : ' ' ∈ separators := by decide
  induction h with
  | nil => intro before l hl; simp [lexemesFrom] at hl
  | separator hc _ ih => exact ih.separator hc
  | @sign s cs hs _ ih =>
      exact (ih.separator hspace).append (by revert s; decide) fun before =>
        ⟨.other, rule_sign hs before, isQuiet_other _⟩
  | @number run cs hne hds hsep _ ih =>
      have hnumber := ih.append hne fun before =>
        ⟨.other, rule_number hne hds hsep before, isQuiet_other run⟩
      exact hnumber.separator hspace
  | word hw hsep _ ih => exact ih.word hw fun c hc => .inr (hsep c hc)
  | @qualified w cs hw hcs ih =>
      refine Quiet.word hw (by rintro c ⟨⟩; exact .inl rfl) ?_
      exact ih.append (w := ['.']) (by simp) fun before =>
        ⟨.mark, rule_mark (by decide) (fun _ => hcs.head?_not_digit) before, by decide⟩
  | @literal t cs ht hsep _ ih =>
      refine ih.append (by simp [Literal.quote]) fun before =>
        ⟨.other, rule_literal ht (fun hquote => ?_) before, isQuiet_other _⟩
      exact (separator_facts _ (hsep _ hquote)).2.2.2.1 rfl

theorem pointFollows_of_head (h : ∀ c ∈ cs.head?, Text.isBlank c = false ∧ c ≠ '.') :
    pointFollows cs = false := by
  cases cs with
  | nil => rfl
  | cons c cs => simp [pointFollows, h c rfl]

theorem pointFollows_blank (hc : Text.isBlank c = true) :
    pointFollows (c :: cs) = pointFollows cs := by
  rw [pointFollows, List.dropWhile_cons, if_pos hc, pointFollows]

/-- In a tame text a point stands behind a word, and never behind blanks. -/
theorem Tame.pointFollows_eq_false {ok : List Char → Prop} (h : Tame ok cs) :
    pointFollows cs = false := by
  induction h with
  | nil => rfl
  | @separator c cs hc _ ih =>
      by_cases hblank : Text.isBlank c = true
      · rwa [pointFollows_blank hblank]
      · refine pointFollows_of_head ?_
        rintro d ⟨⟩
        exact ⟨eq_false_of_ne_true hblank, (separator_facts _ hc).2.2.2.2⟩
  | @number ds cs hne hds =>
      obtain ⟨d, more, rfl⟩ := List.exists_cons_of_ne_nil hne
      rw [pointFollows_blank (by decide)]
      refine pointFollows_of_head ?_
      rintro c ⟨⟩
      refine ⟨(digit_facts (hds d List.mem_cons_self)).2.1, ?_⟩
      rintro rfl
      exact absurd (hds '.' List.mem_cons_self) (by decide)
  | sign hs => exact pointFollows_of_head fun c hc => (starts_sign hs c hc).imp_right And.right
  | word hw => exact pointFollows_of_head fun c hc => (starts_word hw c hc).imp_right And.right
  | qualified hw => exact pointFollows_of_head fun c hc => (starts_word hw c hc).imp_right And.right
  | literal => exact pointFollows_of_head fun c hc => (starts_literal _ c hc).imp_right And.right

/-- Lexemes that end no statement are one statement. -/
theorem splitFrom_quiet {ls part : List Lexeme} (hls : ∀ l ∈ ls, l.IsQuiet) (hne : part ++ ls ≠ [])
    (d : Depth) : splitFrom part false d ls = [part.reverse ++ ls] := by
  induction ls generalizing part d with
  | nil =>
      have hpart : part ≠ [] := by simpa using hne
      simp [splitFrom, hpart]
  | cons l ls ih =>
      obtain ⟨⟨hmark, -, -, hgo⟩, hls⟩ := List.forall_mem_cons.mp hls
      have hends : endsStatement (d.after l) l = false := by simp [endsStatement, hmark, hgo]
      simp only [splitFrom, hends, Bool.false_and, Bool.or_false, Bool.false_eq_true, if_false]
      rw [ih hls (by simp)]
      simp

/-- A tame text behind `SELECT` makes one statement with it, and that selects. -/
theorem isSelect_of_tame {s : String} {back : List Char} (hs : s.toList = "SELECT".toList ++ back)
    (hback : Tame Closes back) (hsep : Separated back) (hparen : back.head? ≠ some '(') :
    isSelect s = true := by
  have hplain : isPlainWord "SELECT".toList = true := by decide
  obtain ⟨kind, hrule, -, hkind⟩ := rule_word hplain (fun c hc => .inr (hsep c hc)) none
  obtain rfl := hkind hback.pointFollows_eq_false (by simp) hparen
  have hlexemes : lexemes s = ⟨.word, "SELECT".toList⟩ :: lexemesFrom (some 'T') back := by
    rw [lexemes, hs, lexemesFrom_append (by decide) hrule]
    rfl
  have hquiet := hback.quiet (some 'T')
  have hstatements : statements s = [lexemes s] := by
    rw [statements, splitFrom_quiet _ (by simp [hlexemes])]
    · rfl
    · rw [hlexemes]
      exact List.forall_mem_cons.mpr ⟨by decide, hquiet⟩
  have hset : isCastOrSet (lexemesFrom (some 'T') back) = false := by
    rw [isCastOrSet]
    cases hskip : skipSpace (lexemesFrom (some 'T') back) with
    | nil => rfl
    | cons l rest =>
        have hl := hquiet l ((List.dropWhile_sublist _).subset (hskip ▸ List.mem_cons_self))
        simp [hl.2.1, hl.2.2.1]
  have hbody : body (lexemes s) = lexemes s := by
    rw [hlexemes]
    rfl
  have hselects : selects (lexemes s) = true := by
    rw [hlexemes, selects, hset, if_neg (by decide), Bool.not_false, Bool.and_true]
    decide
  have hne : lexemes s ≠ [] := by simp [hlexemes]
  simp [isSelect, hstatements, hbody, hselects, hne]

end SelectQuery.Screen
