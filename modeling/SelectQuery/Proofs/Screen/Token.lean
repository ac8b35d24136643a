import SelectQuery.Proofs.Number.Digits
import SelectQuery.Proofs.Text.Blank
import SelectQuery.Screen.Token

/-!
# The pieces of a text

The tokens of a text, with the blanks and comments between them, are consecutive pieces of it
(`flatMap_text_tokensFrom`). So every character lies in one piece (`exists_piece`), and what
follows from that is about its kind only. Letters stand in quoted texts, in comments and in
words, and elsewhere only as the mark of an exponent (`Scanned.isOperatorChar`). A word is a
run of characters that end no word, and it goes on as far as it can (`Scanned.word_run`).

So a run of letters between two ends of words is a piece of its own, unless it lies in a quoted
text or a comment (`word_of_standing`).
-/

namespace SelectQuery.Screen

open Text

/-! ## Scanning -/

variable {afterAt : Bool} {c : Char} {rest : List Char} {kind : TokenKind} {more : ℕ}

/-- What a token can be that begins with a character, and how long it is then. -/
inductive Scanned (afterAt : Bool) (c : Char) (rest : List Char) : TokenKind → ℕ → Prop
  | hidden {kind : TokenKind} {more : ℕ} (hkind : kind = .quoted ∨ kind = .skipped) :
      Scanned afterAt c rest kind more
  | number (hc : isPlainDigit c = true) :
      Scanned afterAt c rest .number (numberLength (!afterAt) 0 rest)
  | dashed {m : List Char} (hm : m ∈ dashedMarks) (hbegins : m <+: c :: rest) :
      Scanned afterAt c rest .mark 2
  | mark {kind : TokenKind} (hkind : kind ≠ .word) (hc : endsWord c = true) :
      Scanned afterAt c rest kind 0
  | word (hc : endsWord c = false) :
      Scanned afterAt c rest .word (rest.takeWhile (!endsWord ·)).length

theorem scanned_of_scan? (h : scan? afterAt c rest = some (kind, more)) :
    Scanned afterAt c rest kind more := by
  have hhidden {kind' : TokenKind} (hkind : kind' = .quoted ∨ kind' = .skipped) {f : ℕ → ℕ}
      {length? : Option ℕ} (h : length?.map (fun n => (kind', f n)) = some (kind, more)) :
      Scanned afterAt c rest kind more := by
    obtain ⟨n, -, hn⟩ := Option.map_eq_some_iff.mp h
    exact .hidden ((Prod.mk.inj hn).1 ▸ hkind)
  revert h
  fun_cases scan? afterAt c rest <;> intro h
  case case1 | case5 =>
    obtain ⟨rfl, rfl⟩ := Prod.mk.inj (Option.some.inj h)
    exact .hidden (.inr rfl)
  case case2 hdigit =>
    obtain ⟨rfl, rfl⟩ := Prod.mk.inj (Option.some.inj h)
    exact .number hdigit
  case case3 | case4 => exact hhidden (.inl rfl) h
  case case6 => exact hhidden (.inr rfl) h
  case case7 hdashed =>
    obtain ⟨rfl, rfl⟩ := Prod.mk.inj (Option.some.inj h)
    obtain ⟨m, hm, hbegins⟩ := List.any_eq_true.mp hdashed
    exact .dashed hm (List.isPrefixOf_iff_prefix.mp hbegins)
  case case8 hc | case9 hc =>
    obtain ⟨rfl, rfl⟩ := Prod.mk.inj (Option.some.inj h)
    exact .mark (by decide) (by rw [hc]; decide)
  case case10 hc =>
    obtain ⟨rfl, rfl⟩ := Prod.mk.inj (Option.some.inj h)
    exact .mark (by decide) (by rw [endsWord, hc, Bool.or_true])
  case case11 hblank _ _ _ _ _ _ _ _ hc =>
    obtain ⟨rfl, rfl⟩ := Prod.mk.inj (Option.some.inj h)
    exact .word
      (by rw [endsWord, eq_false_of_ne_true hblank, eq_false_of_ne_true hc, Bool.or_false])

/-- A character that numbers and marks are made of. -/
def isOperatorChar (c : Char) : Bool := endsWord c || c.isDigit || c = 'e' || c = 'E'

theorem isOperatorChar_of_numberLength (pointLeft : Bool) (exponents : ℕ) (cs : List Char) :
    ∀ d ∈ cs.take (numberLength pointLeft exponents cs), isOperatorChar d = true := by
  induction cs generalizing pointLeft exponents with
  | nil => simp
  | cons c cs ih =>
      -- a further character is a digit, a point, a sign or the mark of an exponent
      have hcons (hc : isOperatorChar c = true) (pointLeft : Bool) (exponents : ℕ) :
          ∀ d ∈ (c :: cs).take (1 + numberLength pointLeft exponents cs),
            isOperatorChar d = true := by
        rw [Nat.add_comm, List.take_succ_cons]
        exact List.forall_mem_cons.mpr ⟨hc, ih pointLeft exponents⟩
      rw [numberLength]
      split_ifs with hdigit hpoint hsign hfollowed hexponent
      · rw [isPlainDigit] at hdigit
        exact hcons (by simp [isOperatorChar, hdigit]) _ _
      · obtain rfl : c = '.' := by simpa using (Bool.and_eq_true_iff.mp hpoint).1
        exact hcons (by decide) _ _
      · have hc : c = '+' ∨ c = '-' := by simpa using (Bool.and_eq_true_iff.mp hsign).1
        refine hcons ?_ _ _
        rcases hc with rfl | rfl <;> decide
      · simp
      · have hc : c = 'e' ∨ c = 'E' := by simpa using (Bool.and_eq_true_iff.mp hexponent).1
        refine hcons ?_ _ _
        rcases hc with rfl | rfl <;> decide
      · simp

namespace Scanned

variable (h : Scanned afterAt c rest kind more)

include h

/-- A piece that is neither a word nor hides anything has no letters but those of exponents. -/
theorem isOperatorChar (hword : kind ≠ .word) (hhidden : ¬(kind = .quoted ∨ kind = .skipped)) :
    ∀ d ∈ c :: rest.take more, isOperatorChar d = true := by
  cases h with
  | hidden hkind => exact absurd hkind hhidden
  | number hc =>
      rw [isPlainDigit] at hc
      exact List.forall_mem_cons.mpr
        ⟨by simp [Screen.isOperatorChar, hc], isOperatorChar_of_numberLength _ _ _⟩
  | @dashed m hm hbegins =>
      have hall : dashedMarks.all
          (fun m => m.length == 3 && m.all Screen.isOperatorChar) = true := by decide
      obtain ⟨hlength, hchars⟩ := Bool.and_eq_true_iff.mp (List.all_eq_true.mp hall m hm)
      have htake : c :: rest.take 2 = m := by
        rw [List.prefix_iff_eq_take.mp hbegins, beq_iff_eq.mp hlength]
        rfl
      rw [htake]
      exact List.all_eq_true.mp hchars
  | mark hkind hc => simp [Screen.isOperatorChar, hc]
  | word hc => exact absurd rfl hword

/-- A word goes on up to the next character that ends words. -/
theorem word_run (hword : kind = .word) : (∀ d ∈ c :: rest.take more, endsWord d = false) ∧
    ∀ d ∈ (rest.drop more).head?, endsWord d = true := by
  cases h with
  | hidden hkind => rcases hkind with rfl | rfl <;> cases hword
  | number => cases hword
  | dashed => cases hword
  | mark hkind => exact absurd hword hkind
  | word hc =>
      have htake : rest.take (rest.takeWhile (!endsWord ·)).length =
          rest.takeWhile (!endsWord ·) :=
        (List.prefix_iff_eq_take.mp (List.takeWhile_prefix _)).symm
      have hdrop : rest.drop (rest.takeWhile (!endsWord ·)).length =
          rest.dropWhile (!endsWord ·) := by
        have hsplit := (List.take_append_drop (rest.takeWhile (!endsWord ·)).length rest).trans
          (List.takeWhile_append_dropWhile (p := (!endsWord ·)) (l := rest)).symm
        rw [htake] at hsplit
        exact List.append_cancel_left hsplit
      rw [htake, hdrop]
      constructor
      · refine List.forall_mem_cons.mpr ⟨hc, fun d hd => ?_⟩
        simpa using List.mem_takeWhile_imp hd
      · intro d hd
        have hnot := List.head?_dropWhile_not (!endsWord ·) rest
        rw [hd] at hnot
        simpa using hnot

end Scanned

/-! ## Pieces -/

@[simp] theorem tokensFrom_nil (afterAt : Bool) : tokensFrom afterAt [] = some [] := by
  rw [tokensFrom.eq_def]

theorem tokensFrom_cons_eq_some {tokens : List Token} :
    tokensFrom afterAt (c :: rest) = some tokens ↔ ∃ kind more later,
      scan? afterAt c rest = some (kind, more) ∧
      tokensFrom (if kind == .skipped then afterAt else kind == .atSign) (rest.drop more) =
        some later ∧
      tokens = ⟨kind, c :: rest.take more, (rest.drop more).head? == some ';'⟩ :: later := by
  rw [tokensFrom.eq_def]
  dsimp only
  cases hscan : scan? afterAt c rest with
  | none => simp
  | some found =>
      obtain ⟨kind, more⟩ := found
      simp only [Option.map_eq_some_iff, Option.some.injEq, Prod.mk.injEq]
      constructor
      · rintro ⟨later, hlater, rfl⟩
        exact ⟨kind, more, later, ⟨rfl, rfl⟩, hlater, rfl⟩
      · rintro ⟨kind', more', later, ⟨rfl, rfl⟩, hlater, rfl⟩
        exact ⟨later, hlater, rfl⟩

variable {cs : List Char} {tokens before after : List Token} {t : Token}

/-- The pieces make up the text. -/
theorem flatMap_text_tokensFrom (h : tokensFrom afterAt cs = some tokens) :
    tokens.flatMap Token.text = cs := by
  induction tokens generalizing afterAt cs with
  | nil =>
      cases cs with
      | nil => rfl
      | cons c rest =>
          obtain ⟨kind, more, later, -, -, htokens⟩ := tokensFrom_cons_eq_some.mp h
          exact absurd htokens (List.cons_ne_nil _ _).symm
  | cons t tokens ih =>
      cases cs with
      | nil => simp at h
      | cons c rest =>
          obtain ⟨kind, more, later, -, hlater, htokens⟩ := tokensFrom_cons_eq_some.mp h
          obtain ⟨rfl, rfl⟩ := List.cons.inj htokens
          rw [List.flatMap_cons, ih hlater, List.cons_append, List.take_append_drop]

/-- Behind some pieces a text is cut as if it began there. -/
theorem tokensFrom_append (h : tokensFrom afterAt cs = some (before ++ after)) :
    ∃ afterAt, tokensFrom afterAt (after.flatMap Token.text) = some after := by
  induction before generalizing afterAt cs with
  | nil =>
      rw [List.nil_append] at h
      rw [flatMap_text_tokensFrom h]
      exact ⟨_, h⟩
  | cons t before ih =>
      cases cs with
      | nil => simp at h
      | cons c rest =>
          obtain ⟨kind, more, later, -, hlater, htokens⟩ := tokensFrom_cons_eq_some.mp h
          obtain ⟨rfl, rfl⟩ := List.cons.inj htokens
          exact ih hlater

/-- A piece is a first character and some further ones, as they are scanned. -/
theorem scanned_of_tokensFrom (h : tokensFrom afterAt cs = some (before ++ t :: after)) :
    ∃ afterAt c rest more, Scanned afterAt c rest t.kind more ∧ t.text = c :: rest.take more ∧
      after.flatMap Token.text = rest.drop more := by
  obtain ⟨afterAt, h⟩ := tokensFrom_append h
  cases hchars : (t :: after).flatMap Token.text with
  | nil =>
      rw [hchars] at h
      simp at h
  | cons c rest =>
      rw [hchars] at h
      obtain ⟨kind, more, later, hscan, hlater, htokens⟩ := tokensFrom_cons_eq_some.mp h
      obtain ⟨rfl, rfl⟩ := List.cons.inj htokens
      exact ⟨afterAt, c, rest, more, scanned_of_scan? hscan, rfl, flatMap_text_tokensFrom hlater⟩

/-! ## Places -/

/-- The characters that some pieces take up. -/
def extent (pieces : List Token) : ℕ := (pieces.flatMap Token.text).length

theorem extent_append (before after : List Token) :
    extent (before ++ after) = extent before + extent after := by
  rw [extent, List.flatMap_append, List.length_append]
  rfl

theorem extent_cons (t : Token) (after : List Token) :
    extent (t :: after) = t.text.length + extent after := by
  rw [extent, List.flatMap_cons, List.length_append]
  rfl

/-- A place lies in the piece that stands behind some others. -/
def Covers (before : List Token) (t : Token) (i : ℕ) : Prop :=
  extent before ≤ i ∧ i < extent before + t.text.length

/-- Every place lies in a piece. -/
theorem exists_piece {i : ℕ} (hi : i < extent tokens) :
    ∃ before t after, tokens = before ++ t :: after ∧ Covers before t i := by
  induction tokens generalizing i with
  | nil => exact absurd hi (Nat.not_lt_zero i)
  | cons t tokens ih =>
      rw [extent_cons] at hi
      by_cases hfirst : i < t.text.length
      · exact ⟨[], t, tokens, rfl, Nat.zero_le i, by simpa [extent] using hfirst⟩
      · obtain ⟨before, u, after, rfl, hlow, hhigh⟩ := ih (i := i - t.text.length) (by omega)
        refine ⟨t :: before, u, after, rfl, ?_, ?_⟩
        · rw [extent_cons]
          omega
        · rw [extent_cons]
          omega

/-- No place lies in two pieces. -/
theorem eq_of_covers {before' after' : List Token} {t' : Token} {i : ℕ}
    (hsame : before ++ t :: after = before' ++ t' :: after') (h : Covers before t i)
    (h' : Covers before' t' i) : before = before' ∧ t = t' := by
  -- a piece that stands before another one ends where that one begins, or earlier
  have hends {before before' after after' : List Token} {t t' : Token}
      (hsame : before ++ t :: after = before' ++ t' :: after') (h : Covers before t i)
      (h' : Covers before' t' i) : before'.length ≤ before.length := by
    by_contra hlt
    have hpre : before ++ [t] <+: before ++ t :: after := ⟨after, by simp⟩
    have hpre' : before' <+: before ++ t :: after := ⟨t' :: after', hsame.symm⟩
    obtain ⟨between, rfl⟩ : before ++ [t] <+: before' := by
      refine List.prefix_of_prefix_length_le hpre hpre' ?_
      rw [List.length_append, List.length_singleton]
      omega
    have hlow := h'.1
    have hhigh := h.2
    rw [extent_append, extent_append, extent_cons] at hlow
    omega
  have hlength : before.length = before'.length :=
    Nat.le_antisymm (hends hsame.symm h' h) (hends hsame h h')
  obtain ⟨hbefore, hrest⟩ := List.append_inj hsame hlength
  exact ⟨hbefore, (List.cons.inj hrest).1⟩

/-- A run of characters stands at a place, between two ends of words. -/
def StandsAt (cs : List Char) (i : ℕ) (word : List Char) : Prop :=
  ∃ front back, cs = front ++ (word ++ back) ∧ front.length = i ∧
    (∀ c ∈ front.getLast?, endsWord c = true) ∧ ∀ c ∈ back.head?, endsWord c = true

/-- One list begins inside a part of another. -/
theorem exists_overlap {α : Type} {pre piece post front back : List α}
    (hsame : pre ++ (piece ++ post) = front ++ back) (hlow : pre.length ≤ front.length)
    (hhigh : front.length < pre.length + piece.length) : ∃ inside d own,
      front = pre ++ inside ∧ piece = inside ++ d :: own ∧ d :: own ++ post = back := by
  have hpre : pre <+: front ++ back := ⟨_, hsame⟩
  obtain ⟨inside, rfl⟩ : pre <+: front :=
    List.prefix_of_prefix_length_le hpre (List.prefix_append ..) hlow
  rw [List.length_append] at hhigh
  rw [List.append_assoc] at hsame
  have hpiece := List.append_cancel_left hsame
  have hinside : inside <+: piece ++ post := ⟨_, hpiece.symm⟩
  obtain ⟨own, rfl⟩ : inside <+: piece :=
    List.prefix_of_prefix_length_le hinside (List.prefix_append ..) (by omega)
  rw [List.append_assoc] at hpiece
  cases own with
  | nil =>
      rw [List.append_nil] at hhigh
      omega
  | cons d own => exact ⟨inside, d, own, rfl, rfl, List.append_cancel_left hpiece⟩

/-- A run of letters between two ends of words is a piece of its own, if the place where it
begins is not hidden. -/
theorem word_of_standing {i : ℕ} {d : Char} {letters : List Char}
    (hcut : tokensFrom afterAt cs = some (before ++ t :: after)) (hcovers : Covers before t i)
    (hshown : ¬(t.kind = .quoted ∨ t.kind = .skipped)) (hstands : StandsAt cs i (d :: letters))
    (hoperator : isOperatorChar d = false)
    (hletters : ∀ c ∈ d :: letters, endsWord c = false) :
    t.kind = .word ∧ extent before = i ∧ t.text = d :: letters := by
  obtain ⟨front, back, hsplit, rfl, hfront, hback⟩ := hstands
  obtain ⟨afterAt, c, rest, more, hscanned, htext, hafter⟩ := scanned_of_tokensFrom hcut
  have hchars : before.flatMap Token.text ++ (t.text ++ after.flatMap Token.text) =
      front ++ (d :: letters ++ back) := by
    rw [← hsplit, ← flatMap_text_tokensFrom hcut, List.flatMap_append, List.flatMap_cons]
  obtain ⟨inside, e, own, rfl, hown, hrest⟩ := exists_overlap hchars hcovers.1 hcovers.2
  obtain ⟨rfl, -⟩ := List.cons.inj hrest
  have hword : t.kind = .word := by
    by_contra hkind
    have hall := hscanned.isOperatorChar hkind hshown
    rw [← htext] at hall
    rw [hall e (by simp [hown])] at hoperator
    exact absurd hoperator (by decide)
  obtain ⟨hrun, hend⟩ := hscanned.word_run hword
  rw [← htext] at hrun
  rw [← hafter] at hend
  -- the piece begins with the run, because no character of a word ends words
  obtain rfl : inside = [] := by
    by_contra hinside
    have hlast := hfront (inside.getLast hinside) (by
      rw [List.getLast?_append_of_ne_nil _ hinside, List.getLast?_eq_some_getLast hinside]
      rfl)
    have hinner := hrun (inside.getLast hinside) (by
      rw [hown]
      exact List.mem_append_left _ (List.getLast_mem hinside))
    rw [hlast] at hinner
    exact absurd hinner (by decide)
  rw [List.nil_append] at hown
  refine ⟨hword, by simp [extent], ?_⟩
  calc t.text = (t.text ++ after.flatMap Token.text).takeWhile (!endsWord ·) :=
        (takeWhile_run (by simpa using hrun) (by simpa using hend)).symm
    _ = (e :: letters ++ back).takeWhile (!endsWord ·) := by rw [hown, hrest]
    _ = e :: letters := takeWhile_run (by simpa using hletters) (by simpa using hback)

end SelectQuery.Screen
