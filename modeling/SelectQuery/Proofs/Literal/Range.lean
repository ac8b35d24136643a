import SelectQuery.Proofs.Literal.Items

/-!
# Where a range is cut

A range is cut behind a quoted literal in front if `AND` follows it, and otherwise at the
first `AND` that has something in front of it. Two bounds with `AND` between them are found
again if there is no earlier place to cut, that is if the low bound is a literal of SQL or has
no blank in it (`splitRange?_and`). A text without two bounds has none as a literal either
(`splitRange?_quote`): its quotes are no letters of `AND`, and behind the last character
stands the closing quote.
-/

namespace SelectQuery.Literal

open Text

variable {cs low high : List Char}

/-! ## The word between the bounds -/

/-- The letters of `AND` in either case, and a blank behind them. -/
def isAnd (a n d b : Char) : Bool :=
  (a == 'a' || a == 'A') && (n == 'n' || n == 'N') && (d == 'd' || d == 'D') && isBlank b

theorem isAnd_ne_quote {a n d b : Char} (h : isAnd a n d b = true) :
    a ≠ '\'' ∧ n ≠ '\'' ∧ d ≠ '\'' ∧ b ≠ '\'' := by
  refine ⟨?_, ?_, ?_, ?_⟩
  all_goals
    rintro rfl
    simp [isAnd, isBlank, isBlankCode] at h

/-- `AND` between blanks, with something behind it. -/
theorem afterAnd?_eq_some : afterAnd? cs = some high ↔
    (∃ c ∈ cs.head?, isBlank c = true) ∧ ∃ a n d b rest,
      cs.dropWhile isBlank = a :: n :: d :: b :: rest ∧ isAnd a n d b = true ∧
        rest.dropWhile isBlank = high ∧ high ≠ [] := by
  constructor
  · intro h
    unfold afterAnd? at h
    split at h
    · simp at h
    · next first cs =>
        split at h
        · next hfirst =>
            refine ⟨⟨first, rfl, hfirst⟩, ?_⟩
            split at h
            · next a n d b rest hdrop =>
                split at h
                · next hand =>
                    dsimp only at h
                    split at h
                    · simp at h
                    · next hhigh =>
                        obtain rfl := Option.some.inj h
                        exact ⟨a, n, d, b, rest, hdrop, hand, rfl,
                          fun hnil => hhigh (List.isEmpty_iff.mpr hnil)⟩
                · simp at h
            · simp at h
        · simp at h
  · rintro ⟨⟨first, hfirst, hblank⟩, a, n, d, b, rest, hdrop, hand, rfl, hhigh⟩
    obtain ⟨tail, rfl⟩ := List.head?_eq_some_iff.mp hfirst
    unfold isAnd at hand
    simp only [afterAnd?, if_pos hblank, hdrop, if_pos hand, List.isEmpty_iff, if_neg hhigh]

/-- Only a blank in front of `AND` separates it. -/
theorem afterAnd?_eq_none (h : ∀ c ∈ cs.head?, isBlank c = false) : afterAnd? cs = none := by
  rw [Option.eq_none_iff_forall_ne_some]
  intro high hhigh
  obtain ⟨⟨c, hc, hblank⟩, -⟩ := afterAnd?_eq_some.mp hhigh
  rw [h c hc] at hblank
  exact absurd hblank (by decide)

theorem afterAnd?_and (hne : high ≠ []) (hhead : ∀ c ∈ high.head?, isBlank c = false) :
    afterAnd? (" AND ".toList ++ high) = some high := by
  refine afterAnd?_eq_some.mpr ⟨⟨' ', rfl, rfl⟩, 'A', 'N', 'D', ' ', high, rfl, rfl, ?_, hne⟩
  cases high with
  | nil => rfl
  | cons c high => simp [hhead c rfl]

/-! ## Two bounds -/

/-- A text without blanks is not cut before its end. -/
theorem cutAtAnd?_append (hne : low ≠ []) (hblank : ∀ c ∈ low, isBlank c = false)
    {rest : List Char} (hrest : afterAnd? rest = some high) :
    cutAtAnd? (low ++ rest) = some (low, high) := by
  induction low with
  | nil => exact absurd rfl hne
  | cons c low ih =>
      rw [List.forall_mem_cons] at hblank
      cases low with
      | nil => simp [cutAtAnd?, hrest]
      | cons d low =>
          have hnone : afterAnd? (d :: low ++ rest) = none :=
            afterAnd?_eq_none fun e he => by
              obtain rfl : d = e := by simpa using he
              exact hblank.2 d List.mem_cons_self
          have hcut := ih (by simp) hblank.2
          rw [List.cons_append, cutAtAnd?, hnone, hcut]
          rfl

/-- A low bound that is found again in front of `AND`. -/
def IsBound (low : List Char) : Prop :=
  (∃ s, low = quote s) ∨ (low ≠ [] ∧ low.head? ≠ some '\'' ∧ ∀ c ∈ low, isBlank c = false)

theorem isQuoted_quote (s : List Char) : isQuoted (quote s) = true :=
  isQuoted_iff.mpr ⟨doubleQuotes s, rfl⟩

theorem quote_ne_nil (s : List Char) : quote s ≠ [] := by simp [quote]

theorem trim_quote (s : List Char) : trim (quote s) = quote s := by
  refine trim_eq_self ?_ ?_
  · rintro c ⟨⟩
    decide
  · intro c hc
    rw [quote, List.getLast?_concat] at hc
    obtain rfl := Option.some.inj hc
    decide

theorem IsBound.trim_eq (h : IsBound low) : trim low = low := by
  rcases h with ⟨s, rfl⟩ | ⟨-, -, hblank⟩
  · exact trim_quote s
  · exact trim_eq_self (fun c hc => hblank c (List.mem_of_mem_head? hc))
      fun c hc => hblank c (List.mem_of_getLast? hc)

theorem IsBound.ne_nil (h : IsBound low) : low ≠ [] := by
  rcases h with ⟨s, rfl⟩ | ⟨hne, -⟩
  · exact quote_ne_nil s
  · exact hne

theorem isBlank_of_isDigit {c : Char} (h : isDigit c = true) : isBlank c = false := by
  have htable : ∀ z ∈ digitZeros, ∀ k ∈ List.range 10, isBlankCode (z + k) = false := by decide
  obtain ⟨v, hv⟩ := Option.isSome_iff_exists.mp h
  rw [digitValue?, Option.map_eq_some_iff] at hv
  obtain ⟨z, hfound, -⟩ := hv
  have hrange := List.find?_some hfound
  simp only [Bool.and_eq_true, decide_eq_true_eq] at hrange
  obtain ⟨k, hk⟩ := Nat.exists_eq_add_of_le hrange.1
  rw [isBlank, hk]
  exact htable z (List.mem_of_find?_eq_some hfound) k (List.mem_range.mpr (by omega))

theorem isBlank_of_isNumberChar {c : Char} (h : isNumberChar c = true) : isBlank c = false := by
  rcases Bool.or_eq_true_iff.mp h with hdigit | hsign
  · exact isBlank_of_isDigit hdigit
  · simp only [List.contains_iff_mem, List.mem_cons, List.not_mem_nil, or_false] at hsign
    rcases hsign with rfl | rfl | rfl | rfl | rfl <;> decide

/-- A number has no blank in it. -/
theorem NumberParts.Of.isBound {p : NumberParts} (hp : p.Of low) : IsBound low := by
  refine .inr ⟨hp.ne_nil, fun hhead => ?_, fun c hc => isBlank_of_isNumberChar (hp.chars c hc)⟩
  exact hp.notMem (by decide) (List.mem_of_mem_head? hhead)

/-- Two trimmed texts are trimmed with anything between them. -/
theorem trim_between {between : List Char} (hlow : trim low = low) (hlow' : low ≠ [])
    (hhigh : trim high = high) (hhigh' : high ≠ []) :
    trim (low ++ between ++ high) = low ++ between ++ high := by
  refine trim_eq_self ?_ ?_
  · rw [List.append_assoc, List.head?_append_of_ne_nil _ hlow', ← hlow]
    exact head?_trim low
  · rw [List.getLast?_append_of_ne_nil _ hhigh', ← hhigh]
    exact getLast?_trim high

/-- Two bounds with `AND` between them. -/
theorem splitRange?_and (hlow : IsBound low) (hhigh : trim high = high) (hne : high ≠ []) :
    splitRange? (low ++ " AND ".toList ++ high) = some (low, high) := by
  have hand : afterAnd? (" AND ".toList ++ high) = some high :=
    afterAnd?_and hne (hhigh ▸ head?_trim high)
  have hspace : ∀ c ∈ (" AND ".toList ++ high).head?, c = ' ' := by simp
  have htrim := @trim_between low high " AND ".toList hlow.trim_eq hlow.ne_nil hhigh hne
  rw [splitRange?, htrim, List.append_assoc]
  rcases id hlow with ⟨s, rfl⟩ | ⟨hlow', hhead, hblank⟩
  · have hquoted : quotedRange? (quote s ++ (" AND ".toList ++ high)) = some (quote s, high) := by
      simp only [quotedRange?, leading?_quote s (head?_ne_quote hspace), hand, Option.map_some]
    simp only [hquoted, hlow.trim_eq, hhigh]
  · have hleading : leading? (low ++ (" AND ".toList ++ high)) = none := by
      cases low with
      | nil => exact absurd rfl hlow'
      | cons c low =>
          have hc : c ≠ '\'' := by simpa using hhead
          simp [leading?, hc]
    simp only [quotedRange?, hleading, cutAtAnd?_append hlow' hblank hand, Option.map_some,
      hlow.trim_eq, hhigh]

theorem takesTwo_and {op : ConditionOperator} (hrange : op.isRange = true) (hlow : IsBound low)
    (hhigh : trim high = high) (hne : high ≠ []) :
    TakesTwo op (low ++ " AND ".toList ++ high) low high := by
  refine ⟨?_, hrange, splitRange?_and hlow hhigh hne⟩
  rw [trim_between hlow.trim_eq hlow.ne_nil hhigh hne]
  exact List.append_ne_nil_of_right_ne_nil _ hne

/-! ## No bounds inside of a literal -/

/-- Blanks are written as they are. -/
theorem dropWhile_doubleQuotes (t rest : List Char) :
    (doubleQuotes t ++ '\'' :: rest).dropWhile isBlank =
      doubleQuotes (t.dropWhile isBlank) ++ '\'' :: rest := by
  have hquote : isBlank '\'' = false := by decide
  induction t with
  | nil => simp [hquote]
  | cons c t ih =>
      by_cases hc : c = '\''
      · subst hc
        simp [hquote]
      · rw [doubleQuotes_cons hc, List.cons_append]
        cases hblank : isBlank c with
        | true => simp [hblank, ih]
        | false => simp [hblank, doubleQuotes_cons hc]

/-- A character other than a quote is written as it is. -/
theorem eq_cons_of_doubleQuotes {t rest tail : List Char} {c : Char} (hc : c ≠ '\'')
    (h : doubleQuotes t ++ '\'' :: rest = c :: tail) :
    ∃ t', t = c :: t' ∧ doubleQuotes t' ++ '\'' :: rest = tail := by
  cases t with
  | nil => exact absurd (List.cons.inj h).1.symm hc
  | cons d t =>
      by_cases hd : d = '\''
      · subst hd
        exact absurd (List.cons.inj h).1.symm hc
      · rw [doubleQuotes_cons hd] at h
        obtain ⟨rfl, htail⟩ := List.cons.inj h
        exact ⟨t, rfl, htail⟩

/-- What is left at the end of a text that does not end in a blank is not all blank. -/
theorem exists_not_blank {t tail : List Char} (hlast : ∀ c ∈ t.getLast?, isBlank c = false)
    (htail : tail <:+ t) (hne : tail ≠ []) : ∃ c ∈ tail, isBlank c = false := by
  obtain ⟨front, rfl⟩ := htail
  refine ⟨tail.getLast hne, List.getLast_mem hne, hlast _ ?_⟩
  rw [List.getLast?_append_of_ne_nil _ hne]
  exact List.getLast?_eq_some_getLast hne

/-- Where `AND` between blanks stands in a literal, it stands in its text with something
behind it. -/
theorem afterAnd?_doubleQuotes {t : List Char} (hlast : ∀ c ∈ t.getLast?, isBlank c = false)
    (h : afterAnd? t = none) : afterAnd? (doubleQuotes t ++ ['\'']) = none := by
  rw [Option.eq_none_iff_forall_ne_some] at h ⊢
  intro high hhigh
  obtain ⟨⟨c, hc, hblank⟩, a, n, d, b, rest, hdrop, hand, -, -⟩ := afterAnd?_eq_some.mp hhigh
  have hfirst : ∃ c ∈ t.head?, isBlank c = true := by
    have hquote : c ≠ '\'' := by
      rintro rfl
      exact absurd hblank (by decide)
    obtain ⟨tail, htail⟩ := List.head?_eq_some_iff.mp hc
    obtain ⟨t', rfl, -⟩ := eq_cons_of_doubleQuotes hquote htail
    exact ⟨c, rfl, hblank⟩
  obtain ⟨ha, hn, hd, hb⟩ := isAnd_ne_quote hand
  rw [dropWhile_doubleQuotes] at hdrop
  obtain ⟨t₁, ht, hdrop₁⟩ := eq_cons_of_doubleQuotes ha hdrop
  obtain ⟨t₂, rfl, hdrop₂⟩ := eq_cons_of_doubleQuotes hn hdrop₁
  obtain ⟨t₃, rfl, hdrop₃⟩ := eq_cons_of_doubleQuotes hd hdrop₂
  obtain ⟨t₄, rfl, -⟩ := eq_cons_of_doubleQuotes hb hdrop₃
  have htail : b :: t₄ <:+ t := by
    have hsuffix : b :: t₄ <:+ t.dropWhile isBlank := ht ▸ List.suffix_append [a, n, d] (b :: t₄)
    exact hsuffix.trans (List.dropWhile_suffix isBlank)
  have hbehind : t₄.dropWhile isBlank ≠ [] := by
    intro hnil
    obtain ⟨e, he, hnot⟩ := exists_not_blank hlast htail (by simp)
    have hall : ∀ e ∈ b :: t₄, isBlank e = true :=
      List.forall_mem_cons.mpr ⟨(Bool.and_eq_true_iff.mp hand).2, List.dropWhile_eq_nil_iff.mp hnil⟩
    rw [hall e he] at hnot
    exact absurd hnot (by decide)
  exact h _ (afterAnd?_eq_some.mpr ⟨hfirst, a, n, d, b, t₄, ht, hand, rfl, hbehind⟩)

theorem cutAtAnd?_cons_eq_none {c : Char} :
    cutAtAnd? (c :: cs) = none ↔ afterAnd? cs = none ∧ cutAtAnd? cs = none := by
  rw [cutAtAnd?]
  cases afterAnd? cs <;> simp

theorem cutAtAnd?_doubleQuotes {t : List Char} (hlast : ∀ c ∈ t.getLast?, isBlank c = false)
    (h : cutAtAnd? t = none) : cutAtAnd? (doubleQuotes t ++ ['\'']) = none := by
  induction t with
  | nil => decide
  | cons c t ih =>
      rw [cutAtAnd?_cons_eq_none] at h
      have hlast' : ∀ e ∈ t.getLast?, isBlank e = false := by
        intro e he
        refine hlast e ?_
        rw [List.getLast?_cons, he]
        rfl
      have hafter := afterAnd?_doubleQuotes hlast' h.1
      have hrest (d : Char) : cutAtAnd? (d :: (doubleQuotes t ++ ['\''])) = none :=
        cutAtAnd?_cons_eq_none.mpr ⟨hafter, ih hlast' h.2⟩
      by_cases hc : c = '\''
      · subst hc
        rw [doubleQuotes_quote, List.cons_append, List.cons_append, cutAtAnd?_cons_eq_none]
        refine ⟨afterAnd?_eq_none ?_, hrest '\''⟩
        rintro d ⟨⟩
        decide
      · rw [doubleQuotes_cons hc]
        exact hrest c

/-- A text without two bounds has none as a literal. -/
theorem splitRange?_quote {t : List Char} (htrim : trim t = t) (h : splitRange? t = none) :
    splitRange? (quote t) = none := by
  have hcut : cutAtAnd? t = none := by
    simp only [splitRange?, htrim] at h
    split at h
    · simp at h
    · simpa using h
  have hleading : leading? (quote t) = some (quote t, []) := by
    simpa using @leading?_quote t [] (by simp)
  have hquoted : quotedRange? (quote t) = none := by
    rw [quotedRange?, hleading]
    rfl
  have hlast : ∀ c ∈ t.getLast?, isBlank c = false := htrim ▸ getLast?_trim t
  have hafter : afterAnd? t = none := afterAnd?_eq_none (htrim ▸ head?_trim t)
  have hnone : cutAtAnd? (quote t) = none := by
    rw [quote, List.cons_append, cutAtAnd?_cons_eq_none]
    exact ⟨afterAnd?_doubleQuotes hlast hafter, cutAtAnd?_doubleQuotes hlast hcut⟩
  simp only [splitRange?, trim_quote, hquoted, hnone]
  rfl

end SelectQuery.Literal
