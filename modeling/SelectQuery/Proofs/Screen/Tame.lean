import SelectQuery.ColumnPath
import SelectQuery.Proofs.Literal.Sql
import SelectQuery.Proofs.Screen.Check
import SelectQuery.Proofs.Screen.Token

/-!
# Tame text

A tame text is made of words, literals, numbers, comparison signs and marks, in such a way
that no two of them run into each other (`Tame`). Both screens cut such a text into the pieces
that it was made of. Here this is shown for the tokens: every literal is a token of its own,
so the words among the tokens are the words of the text (`Tame.lexes`), and none of them is
forbidden (`Tame.findForbidden_eq_nil`).

The screens see the words and marks of a tame text, and nothing of what is in its literals.
-/

namespace SelectQuery

open Text

/-! ## Plain words -/

namespace Text

/-- A property of the characters of ASCII. -/
theorem forall_ascii {p : Char → Prop} (h : ∀ n ∈ List.range 128, p (Char.ofNat n)) {c : Char}
    (hc : c.toNat < 128) : p c := by
  have hchar := h c.toNat (List.mem_range.mpr hc)
  rwa [Char.ofNat_toNat] at hchar

/-- A property that is checked of the characters of a text, one after the other. -/
theorem forall_mem_of_all {p : Char → Prop} [DecidablePred p] {cs : List Char}
    (h : cs.all (p ·) = true) : ∀ c ∈ cs, p c := by
  simpa using h

/-- A letter, a digit or an underscore. -/
def isNameChar (c : Char) : Bool := c.isAlphanum || c == '_'

theorem lt_of_isNameChar {c : Char} (h : isNameChar c = true) : c.toNat < 128 := by
  have hbound {top : UInt32} (hle : c.val ≤ top) (htop : top.toNat < 128) : c.toNat < 128 :=
    Nat.lt_of_le_of_lt (UInt32.le_iff_toNat_le.mp hle) htop
  rw [isNameChar, Bool.or_eq_true, beq_iff_eq, Char.isAlphanum, Bool.or_eq_true] at h
  rcases h with (hletter | hdigit) | rfl
  · rcases Bool.or_eq_true_iff.mp (show (c.isUpper || c.isLower) = true from hletter) with h | h
    · exact hbound (of_decide_eq_true h).2 (by decide)
    · exact hbound (of_decide_eq_true (Bool.and_eq_true_iff.mp h).2) (by decide)
  · exact hbound (of_decide_eq_true (Bool.and_eq_true_iff.mp hdigit).2) (by decide)
  · decide

end Text

namespace Screen

/-- The words that a screen acts on. -/
def watchedWords : List String := forbiddenKeywords ++ ["go", "end"]

/-- A letter or an underscore, and then letters, digits and underscores. No screen acts on the
word. -/
def isPlainWord (cs : List Char) : Bool :=
  match cs with
  | [] => false
  | c :: rest =>
    ColumnPath.isInitial c && rest.all isNameChar &&
      !watchedWords.contains (lower (String.ofList (c :: rest)))

variable {c : Char} {cs ds w rest : List Char}

/-- What a word may begin with is no digit, no mark and no blank. -/
theorem isInitial_facts (h : ColumnPath.isInitial c = true) :
    isNameChar c = true ∧ c.isDigit = false ∧ endsWord c = false := by
  have hname : isNameChar c = true := by
    rw [ColumnPath.isInitial, Bool.or_eq_true] at h
    rcases h with hletter | hunderscore
    · simp [isNameChar, Char.isAlphanum, hletter]
    · simp [isNameChar, hunderscore]
  have hall : ∀ n ∈ List.range 128, ColumnPath.isInitial (Char.ofNat n) = true →
      (Char.ofNat n).isDigit = false ∧ endsWord (Char.ofNat n) = false := by decide +kernel
  exact ⟨hname, forall_ascii (p := fun c => ColumnPath.isInitial c = true →
    c.isDigit = false ∧ endsWord c = false) hall (lt_of_isNameChar hname) h⟩

theorem endsWord_of_isNameChar (h : isNameChar c = true) : endsWord c = false :=
  forall_ascii (p := fun c => isNameChar c = true → endsWord c = false) (by decide +kernel)
    (lt_of_isNameChar h) h

theorem isPlainWord_cons (h : isPlainWord w = true) : ∃ c rest, w = c :: rest ∧
    ColumnPath.isInitial c = true ∧ (∀ d ∈ c :: rest, isNameChar d = true) ∧
    lower (String.ofList w) ∉ watchedWords := by
  cases w with
  | nil => simp [isPlainWord] at h
  | cons c rest =>
      simp only [isPlainWord, Bool.and_eq_true, Bool.not_eq_true', List.all_eq_true] at h
      obtain ⟨⟨hinitial, hrest⟩, hwatched⟩ := h
      refine ⟨c, rest, rfl, hinitial, List.forall_mem_cons.mpr
        ⟨(isInitial_facts hinitial).1, hrest⟩, ?_⟩
      rw [← List.contains_iff_mem, Bool.not_eq_true]
      exact hwatched

/-! ## Tame text -/

/-- The signs that compare. -/
def comparisons : List String := ["=", "!=", "<>", "<", ">", "<=", ">="]

/-- The characters that separate what is in front of them from what is behind them. -/
def separators : List Char := [' ', '\n', '(', ')', ',', '*']

/-- Text of separators alone. -/
def Separates (cs : List Char) : Prop := ∀ c ∈ cs, c ∈ separators

instance (cs : List Char) : Decidable (Separates cs) := List.decidableBAll (· ∈ separators) cs

/-- Text that begins with a separator, if with anything. -/
def Separated (cs : List Char) : Prop := ∀ c ∈ cs.head?, c ∈ separators

/-- Text in which words, literals, numbers and signs are separated from each other. Of a
literal it is asked what stands in it. -/
inductive Tame (ok : List Char → Prop) : List Char → Prop
  | nil : Tame ok []
  | separator {c : Char} {cs : List Char} (hc : c ∈ separators) (hcs : Tame ok cs) :
      Tame ok (c :: cs)
  | sign {s : String} {cs : List Char} (hs : s ∈ comparisons) (hcs : Tame ok cs) :
      Tame ok (s.toList ++ ' ' :: cs)
  | number {ds cs : List Char} (hne : ds ≠ []) (hds : ∀ d ∈ ds, d.isDigit = true)
      (hsep : Separated cs) (hcs : Tame ok cs) : Tame ok (' ' :: (ds ++ cs))
  | word {w cs : List Char} (hw : isPlainWord w = true) (hsep : Separated cs)
      (hcs : Tame ok cs) : Tame ok (w ++ cs)
  | qualified {w cs : List Char} (hw : isPlainWord w = true) (hcs : Tame ok cs) :
      Tame ok (w ++ '.' :: cs)
  | literal {t cs : List Char} (ht : ok t) (hsep : Separated cs) (hcs : Tame ok cs) :
      Tame ok (Literal.quote t ++ cs)

theorem separated_nil : Separated [] := by simp [Separated]

theorem Separated.cons (hc : c ∈ separators) (cs : List Char) : Separated (c :: cs) := by
  simpa [Separated] using hc

/-- What separates ends words, and is part of nothing else. -/
theorem separator_facts : ∀ c ∈ separators,
    endsWord c = true ∧ isNameChar c = false ∧ c.isDigit = false ∧ c ≠ '\'' ∧ c ≠ '.' :=
  forall_mem_of_all (by decide)

/-! ## Pieces side by side -/

namespace Tame

variable {ok : List Char → Prop}

/-- A text ends in a blank or a mark, so that anything may follow. -/
def EndsOpen (cs : List Char) : Prop := ∀ c ∈ cs.getLast?, c ∈ separators

theorem EndsOpen.tail (front : List Char) (h : EndsOpen (front ++ cs)) : EndsOpen cs := by
  intro c hc
  refine h c ?_
  rw [List.getLast?_append, hc]
  rfl

/-- Behind what does not end open there has to be a separator. -/
theorem separated_append {front : List Char} (hne : front ≠ [])
    (hfront : ∀ c ∈ front.getLast?, c ∉ separators) (hcs : Separated cs)
    (hfits : Separated ds ∨ EndsOpen (front ++ cs)) : Separated (cs ++ ds) := by
  cases cs with
  | cons c cs => exact fun d hd => hcs d hd
  | nil =>
      rcases hfits with hds | hopen
      · exact hds
      · rw [List.append_nil] at hopen
        have hlast := List.getLast?_eq_some_getLast hne
        exact absurd (hopen _ hlast) (hfront _ hlast)

theorem getLast?_of_isPlainWord (hw : isPlainWord w = true) :
    w ≠ [] ∧ ∀ c ∈ w.getLast?, c ∉ separators := by
  obtain ⟨c, rest, rfl, -, hchars, -⟩ := isPlainWord_cons hw
  refine ⟨List.cons_ne_nil c rest, fun d hd hsep => ?_⟩
  have hname := hchars d (List.mem_of_getLast? hd)
  rw [(separator_facts d hsep).2.1] at hname
  exact absurd hname (by decide)

/-- One tame text stands behind another, with a separator between them. -/
theorem append (hcs : Tame ok cs) (hds : Tame ok ds) (hfits : Separated ds ∨ EndsOpen cs) :
    Tame ok (cs ++ ds) := by
  induction hcs with
  | nil => exact hds
  | separator hc _ ih => exact .separator hc (ih (hfits.imp_right (EndsOpen.tail [_])))
  | sign hs _ ih =>
      rw [List.append_assoc]
      exact .sign hs (ih (hfits.imp_right fun h => (h.tail _).tail [_]))
  | @number run cs hne hrun hsep _ ih =>
      rw [List.cons_append, List.append_assoc]
      have hlast : ∀ c ∈ run.getLast?, c ∉ separators := by
        intro c hc hopen
        have hdigit := hrun c (List.mem_of_getLast? hc)
        rw [(separator_facts c hopen).2.2.1] at hdigit
        exact absurd hdigit (by decide)
      have hfits' := hfits.imp_right (EndsOpen.tail [' '])
      exact .number hne hrun (separated_append hne hlast hsep hfits')
        (ih (hfits'.imp_right (EndsOpen.tail _)))
  | word hw hsep _ ih =>
      rw [List.append_assoc]
      obtain ⟨hne, hlast⟩ := getLast?_of_isPlainWord hw
      exact .word hw (separated_append hne hlast hsep hfits)
        (ih (hfits.imp_right (EndsOpen.tail _)))
  | qualified hw _ ih =>
      rw [List.append_assoc]
      exact .qualified hw (ih (hfits.imp_right fun h => (h.tail _).tail [_]))
  | @literal t cs ht hsep _ ih =>
      rw [List.append_assoc]
      have hlast : ∀ c ∈ (Literal.quote t).getLast?, c ∉ separators := by
        rw [Literal.quote, List.getLast?_concat]
        rintro c ⟨⟩
        decide
      exact .literal ht (separated_append (by simp [Literal.quote]) hlast hsep hfits)
        (ih (hfits.imp_right (EndsOpen.tail _)))

end Tame

namespace Tame

variable {ok : List Char → Prop}

theorem plainWord (hw : isPlainWord w = true) : Tame ok w := by
  have hword : Tame ok (w ++ []) := .word hw separated_nil .nil
  rwa [List.append_nil] at hword

theorem separators_append (hds : Separates ds) (h : Tame ok cs) : Tame ok (ds ++ cs) := by
  induction ds with
  | nil => exact h
  | cons d ds ih =>
      obtain ⟨hd, hds⟩ := List.forall_mem_cons.mp hds
      exact .separator hd (ih hds)

/-- Tame texts with separators between them. -/
theorem intercalate {separator : String} (hne : separator.toList ≠ [])
    (hseparator : Separates separator.toList) {parts : List String}
    (hparts : ∀ s ∈ parts, Tame ok s.toList) : Tame ok (separator.intercalate parts).toList := by
  induction parts with
  | nil => exact .nil
  | cons part rest ih =>
      obtain ⟨hpart, hrest⟩ := List.forall_mem_cons.mp hparts
      cases rest with
      | nil => simpa using hpart
      | cons next rest =>
          rw [String.intercalate_cons_cons, String.toList_append, String.toList_append,
            List.append_assoc]
          refine hpart.append (separators_append hseparator (ih hrest)) (.inl fun c hc => ?_)
          rw [List.head?_append_of_ne_nil _ hne] at hc
          exact hseparator c (List.mem_of_mem_head? hc)

theorem plainWords {words : List String} (hwords : ∀ s ∈ words, isPlainWord s.toList = true) :
    Tame ok (" ".intercalate words).toList :=
  .intercalate (by decide) (by decide) fun s hs => plainWord (hwords s hs)

end Tame

/-! ## Tokens -/

/-- Text that has tokens, and no words among them but plain ones. -/
def Lexes (cs : List Char) : Prop := ∃ tokens, tokensFrom false cs = some tokens ∧
  ∀ t ∈ tokens, t.kind = .word → isPlainWord t.text = true

theorem lexes_nil : Lexes [] := ⟨[], tokensFrom_nil false, by simp⟩

/-- A token in front of other text. -/
theorem Lexes.cons {kind : TokenKind} {more : ℕ} (hscan : scan? false c rest = some (kind, more))
    (hkind : kind ≠ .atSign) (hword : kind = .word → isPlainWord (c :: rest.take more) = true)
    (h : Lexes (rest.drop more)) : Lexes (c :: rest) := by
  obtain ⟨tokens, htokens, hwords⟩ := h
  have hbehind : (if kind == .skipped then false else kind == .atSign) = false := by
    simp [hkind]
  refine ⟨_, tokensFrom_cons_eq_some.mpr ⟨kind, more, tokens, hscan, ?_, rfl⟩, ?_⟩
  · rwa [hbehind]
  · exact List.forall_mem_cons.mpr ⟨hword, hwords⟩

theorem Lexes.separator (hc : c ∈ separators) (h : Lexes cs) : Lexes (c :: cs) := by
  have hscan : ∃ kind, scan? false c cs = some (kind, 0) ∧ kind ≠ .atSign ∧ kind ≠ .word := by
    simp only [separators, List.mem_cons, List.not_mem_nil, or_false] at hc
    rcases hc with rfl | rfl | hmark
    · exact ⟨.skipped, rfl, by decide, by decide⟩
    · exact ⟨.skipped, rfl, by decide, by decide⟩
    · rcases hmark with rfl | rfl | rfl | rfl <;> exact ⟨.mark, rfl, by decide, by decide⟩
  obtain ⟨kind, hscan, hat, hword⟩ := hscan
  exact .cons hscan hat (fun h => absurd h hword) h

/-- A point, or a character of a sign. -/
theorem Lexes.mark (hc : c ∈ ['<', '>', '=', '!', '.']) (h : Lexes cs) : Lexes (c :: cs) := by
  have hscan : scan? false c cs = some (.mark, 0) := by
    simp only [List.mem_cons, List.not_mem_nil, or_false] at hc
    rcases hc with rfl | rfl | rfl | rfl | rfl <;> rfl
  exact .cons hscan (by decide) (fun h => by cases h) h

theorem Lexes.sign {s : String} (hs : s ∈ comparisons) (h : Lexes cs) : Lexes (s.toList ++ cs) := by
  have hsigns : comparisons.all (·.toList.all (['<', '>', '=', '!', '.'].contains ·)) = true := by
    decide
  have hchars : ∀ c ∈ s.toList, c ∈ ['<', '>', '=', '!', '.'] := fun c hc =>
    List.contains_iff_mem.mp (List.all_eq_true.mp (List.all_eq_true.mp hsigns s hs) c hc)
  generalize s.toList = signs at hchars
  induction signs with
  | nil => exact h
  | cons c signs ih =>
      obtain ⟨hc, hsigns⟩ := List.forall_mem_cons.mp hchars
      exact (ih hsigns).mark hc

theorem numberLength_run (pointLeft : Bool) (hds : ∀ d ∈ ds, d.isDigit = true)
    (hsep : Separated cs) : numberLength pointLeft 0 (ds ++ cs) = ds.length := by
  induction ds with
  | nil =>
      cases cs with
      | nil => rfl
      | cons c cs =>
          have hc := hsep c rfl
          simp only [separators, List.mem_cons, List.not_mem_nil, or_false] at hc
          rcases hc with rfl | rfl | rfl | rfl | rfl | rfl <;> rfl
  | cons d ds ih =>
      obtain ⟨hd, hds⟩ := List.forall_mem_cons.mp hds
      rw [List.cons_append, numberLength, if_pos (show isPlainDigit d = true from hd), ih hds,
        List.length_cons, Nat.add_comm]

theorem Lexes.number (hne : ds ≠ []) (hds : ∀ d ∈ ds, d.isDigit = true) (hsep : Separated cs)
    (h : Lexes cs) : Lexes (ds ++ cs) := by
  cases ds with
  | nil => exact absurd rfl hne
  | cons d ds =>
      obtain ⟨hd, hds⟩ := List.forall_mem_cons.mp hds
      have hblank : isBlank d = false :=
        forall_ascii (p := fun c => c.isDigit = true → isBlank c = false) (by decide +kernel)
          (lt_of_isNameChar (by simp [isNameChar, Char.isAlphanum, hd])) hd
      have hscan : scan? false d (ds ++ cs) = some (.number, ds.length) := by
        rw [scan?, hblank, if_neg Bool.false_ne_true, if_pos (show isPlainDigit d = true from hd),
          numberLength_run _ hds hsep]
      rw [List.cons_append]
      refine .cons hscan (by decide) (fun h => by cases h) ?_
      rwa [List.drop_left]

/-- A word is followed by what ends words and is no quote. -/
theorem Lexes.word (hw : isPlainWord w = true)
    (hend : ∀ c ∈ cs.head?, endsWord c = true ∧ c ≠ '\'') (h : Lexes cs) : Lexes (w ++ cs) := by
  obtain ⟨c, rest, rfl, hinitial, hchars, -⟩ := isPlainWord_cons hw
  obtain ⟨-, hdigit, hends⟩ := isInitial_facts hinitial
  obtain ⟨hblank, hmark⟩ : isBlank c = false ∧ marks.contains c = false := by
    simpa [endsWord] using hends
  have hne : ∀ m ∈ marks, c ≠ m := by
    rintro m hm rfl
    rw [List.contains_iff_mem.mpr hm] at hmark
    exact absurd hmark (by decide)
  have hrun : ∀ d ∈ rest, (!endsWord d) = true := fun d hd => by
    rw [endsWord_of_isNameChar (hchars d (List.mem_cons_of_mem c hd))]
    rfl
  have hstop : ∀ d ∈ cs.head?, (!endsWord d) = false := fun d hd => by
    rw [(hend d hd).1]
    rfl
  have hquote : ((rest ++ cs).head? == some '\'') = false := by
    rw [beq_eq_false_iff_ne]
    cases rest with
    | nil => exact fun h => (hend _ h).2 rfl
    | cons d rest =>
        intro hd
        obtain rfl : d = '\'' := by simpa using hd
        exact absurd (hchars '\'' (by simp)) (by decide)
  have hscan : scan? false c (rest ++ cs) = some (.word, rest.length) := by
    have hcomments : (commentMarks.find? fun m => m.opening.isPrefixOf (c :: (rest ++ cs))) =
        none := by
      have h1 := hne '/' (by decide)
      have h2 := hne '\x7b' (by decide)
      simp [commentMarks, List.isPrefixOf, Ne.symm h1, Ne.symm h2]
    have hdashed : (dashedMarks.any (·.isPrefixOf (c :: (rest ++ cs)))) = false := by
      have h1 := hne '-' (by decide)
      have h2 := hne '\x7b' (by decide)
      simp [dashedMarks, List.isPrefixOf, Ne.symm h1, Ne.symm h2]
    have h1 := hne '"' (by decide)
    have h2 := hne '\'' (by decide)
    have h3 := hne '-' (by decide)
    have h4 := hne ';' (by decide)
    have h5 := hne '@' (by decide)
    simp only [scan?, hblank, isPlainDigit, hdigit, h1, h2, h3, h4, h5, hcomments, hdashed, hmark,
      hquote, takeWhile_run hrun hstop, decide_false, Bool.or_self, Bool.false_and, Bool.and_false,
      Bool.false_eq_true, if_false]
  rw [List.cons_append]
  refine .cons hscan (by decide) (fun _ => ?_) ?_
  · rwa [List.take_left]
  · rwa [List.drop_left]

theorem quotedLength?_literal (t : List Char) (hsep : cs.head? ≠ some '\'') :
    quotedLength? '\'' (Literal.doubleQuotes t ++ '\'' :: cs) =
      some ((Literal.doubleQuotes t).length + 1) := by
  induction t with
  | nil =>
      cases cs with
      | nil => rfl
      | cons c cs =>
          have hc : c ≠ '\'' := by simpa using hsep
          simp [quotedLength?, hc]
  | cons c t ih =>
      by_cases hc : c = '\''
      · subst hc
        rw [Literal.doubleQuotes_quote, List.cons_append, List.cons_append, quotedLength?, ih]
        simp
        omega
      · obtain ⟨d, rest, hrest⟩ : ∃ d rest, Literal.doubleQuotes t ++ '\'' :: cs = d :: rest := by
          cases h : Literal.doubleQuotes t with
          | nil => exact ⟨_, _, rfl⟩
          | cons d rest => exact ⟨_, _, rfl⟩
        rw [Literal.doubleQuotes_cons hc, List.cons_append, hrest, quotedLength?, if_neg hc,
          ← hrest, ih]
        simp
        omega

/-- A literal is one token. -/
theorem Lexes.literal (t : List Char) (hsep : cs.head? ≠ some '\'') (h : Lexes cs) :
    Lexes (Literal.quote t ++ cs) := by
  have hsplit : Literal.quote t ++ cs =
      '\'' :: (Literal.doubleQuotes t ++ ['\''] ++ cs) := by simp [Literal.quote]
  have hscan : scan? false '\'' (Literal.doubleQuotes t ++ ['\''] ++ cs) =
      some (.quoted, (Literal.doubleQuotes t ++ ['\'']).length) := by
    have hlength := quotedLength?_literal t hsep
    rw [← List.singleton_append, ← List.append_assoc] at hlength
    have hopens : scan? false '\'' (Literal.doubleQuotes t ++ ['\''] ++ cs) =
        (quotedLength? '\'' (Literal.doubleQuotes t ++ ['\''] ++ cs)).map (.quoted, ·) := rfl
    rw [hopens, hlength]
    simp
  rw [hsplit]
  refine .cons hscan (by decide) (fun h => by cases h) ?_
  rwa [List.drop_left]

/-- The words of a tame text are plain. -/
theorem Tame.lexes {ok : List Char → Prop} (h : Tame ok cs) : Lexes cs := by
  have hend {cs : List Char} (hsep : Separated cs) :
      ∀ c ∈ cs.head?, endsWord c = true ∧ c ≠ '\'' := fun c hc =>
    have hfacts := separator_facts c (hsep c hc)
    ⟨hfacts.1, hfacts.2.2.2.1⟩
  have hspace : ' ' ∈ separators := by decide
  induction h with
  | nil => exact lexes_nil
  | separator hc _ ih => exact ih.separator hc
  | sign hs _ ih => exact (ih.separator hspace).sign hs
  | number hne hds hsep _ ih => exact (ih.number hne hds hsep).separator hspace
  | word hw hsep _ ih => exact ih.word hw (hend hsep)
  | qualified hw _ ih => exact (ih.mark (by decide)).word hw (by rintro c ⟨⟩; decide)
  | literal _ hsep _ ih => exact ih.literal _ fun hquote => (hend hsep _ hquote).2 rfl

theorem mem_of_mem_outsideArguments {p : Position} {tokens : List Token} {t : Token}
    (h : t ∈ outsideArguments p tokens) : t ∈ tokens := by
  induction tokens generalizing p with
  | nil => cases p <;> simp [outsideArguments] at h
  | cons u tokens ih =>
      cases p with
      | argument =>
          rw [outsideArguments] at h
          split at h
          · exact (List.mem_cons.mp h).elim (fun hu => hu ▸ List.mem_cons_self ..)
              fun hmem => List.mem_cons_of_mem u (ih hmem)
          · exact List.mem_cons_of_mem u (ih h)
      | _ =>
          rw [outsideArguments] at h
          · exact (List.mem_cons.mp h).elim (fun hu => hu ▸ List.mem_cons_self ..)
              fun hmem => List.mem_cons_of_mem u (ih hmem)
          · simp

/-- There is no forbidden word in a tame text. -/
theorem Tame.findForbidden_eq_nil {ok : List Char → Prop} {s : String} (h : Tame ok s.toList) :
    findForbidden s = [] := by
  obtain ⟨tokens, htokens, hplain⟩ := h.lexes
  have hwords :
      words s = wordsOf (outsideArguments .start (tokens.filter (·.kind != .skipped))) := by
    rw [words, tokens?, htokens]
    rfl
  have hnone : (words s).filter forbiddenKeywords.contains = [] := by
    rw [List.filter_eq_nil_iff, hwords]
    intro word hword hforbidden
    obtain ⟨t, ht, rfl⟩ := List.mem_map.mp hword
    obtain ⟨hmem, hkind⟩ := List.mem_filter.mp ht
    have htoken := (List.mem_filter.mp (mem_of_mem_outsideArguments hmem)).1
    obtain ⟨c, rest, -, -, -, hwatched⟩ :=
      isPlainWord_cons (hplain t htoken (beq_iff_eq.mp hkind))
    exact hwatched (List.mem_append_left _ (List.contains_iff_mem.mp hforbidden))
  rw [findForbidden, hnone]
  rfl

end Screen
end SelectQuery
