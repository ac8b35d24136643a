import Mathlib.Data.List.TakeWhile
import SelectQuery.Proofs.Literal.Sql

/-!
# Numbers as the library and as SQL read them

A number that the library reads is taken apart once (`NumberParts.Of`). With digits of ASCII
it is the same number in SQL (`number?_eq`), and with any other digit it is none
(`number?_ascii`).
-/

namespace SelectQuery

open Literal Text

/-! ## The parts of a number -/

namespace Literal

/-- What is written at the end of a number for its exponent. -/
inductive ExponentEnd : Option (Bool × List Char) → List Char → Prop
  | absent : ExponentEnd none []
  | present {mark : Char} {negative : Bool} {run tail : List Char}
      (hmark : mark = 'e' ∨ mark = 'E') (hsign : Integer.splitSign tail = (negative, run))
      (hne : run ≠ []) (hrun : ∀ c ∈ run, isDigit c = true) :
      ExponentEnd (some (negative, run)) (mark :: tail)

theorem splitSign_suffix {cs rest : List Char} {negative : Bool}
    (h : Integer.splitSign cs = (negative, rest)) : rest <:+ cs := by
  unfold Integer.splitSign at h
  split at h
  · obtain ⟨-, rfl⟩ := Prod.mk.inj h
    exact List.suffix_cons _ _
  · obtain ⟨-, rfl⟩ := Prod.mk.inj h
    exact List.suffix_cons _ _
  · obtain ⟨-, rfl⟩ := Prod.mk.inj h
    exact List.suffix_refl _

theorem mem_splitSign {cs rest : List Char} {negative : Bool}
    (h : Integer.splitSign cs = (negative, rest)) : ∀ c ∈ cs, c ∈ rest ∨ c = '-' ∨ c = '+' := by
  intro c hc
  unfold Integer.splitSign at h
  split at h
  · obtain ⟨-, rfl⟩ := Prod.mk.inj h
    rcases List.mem_cons.mp hc with rfl | hc
    · exact .inr (.inl rfl)
    · exact .inl hc
  · obtain ⟨-, rfl⟩ := Prod.mk.inj h
    rcases List.mem_cons.mp hc with rfl | hc
    · exact .inr (.inr rfl)
    · exact .inl hc
  · obtain ⟨-, rfl⟩ := Prod.mk.inj h
    exact .inl hc

theorem exponentEnd?_spec {cs : List Char} {exponent : Option (Bool × List Char)}
    (h : exponentEnd? cs = some exponent) (hlast : cs.getLast? ≠ some '\n') :
    ExponentEnd exponent cs := by
  unfold exponentEnd? at h
  split at h
  · obtain rfl := Option.some.inj h
    exact .absent
  · simp at hlast
  · next c rest _ =>
      split at h
      · next hmark =>
          cases hsign : Integer.splitSign rest with
          | mk negative digits =>
              rw [hsign] at h
              dsimp only at h
              -- the line feed that may follow would be the last character of the number
              have hfeed : digits.dropWhile isDigit ≠ ['\n'] := by
                intro hfeed
                obtain ⟨front, hfront⟩ :=
                  (List.dropWhile_suffix isDigit).trans (splitSign_suffix hsign)
                rw [hfeed] at hfront
                rw [← hfront, ← List.cons_append, List.getLast?_concat] at hlast
                exact hlast rfl
              have hsplit := List.takeWhile_append_dropWhile (p := isDigit) (l := digits)
              split at h
              · next hrun =>
                  obtain rfl := Option.some.inj h
                  simp only [Bool.and_eq_true, Bool.or_eq_true, Bool.not_eq_true',
                    List.isEmpty_iff, beq_iff_eq, hfeed, or_false, List.isEmpty_eq_false_iff] at hrun
                  rw [hrun.2, List.append_nil] at hsplit
                  rw [hsplit] at hrun ⊢
                  refine .present hmark hsign hrun.1 ?_
                  rw [← hsplit]
                  exact fun c hc => List.mem_takeWhile_imp hc
              · simp at h
      · simp at h

/-- The parts that a number was read into. -/
structure NumberParts.Of (p : NumberParts) (cs : List Char) : Prop where
  digits : ∀ c ∈ p.whole ++ p.fraction, isDigit c = true
  nonempty : p.whole ++ p.fraction ≠ []
  fraction : p.hasPoint = false → p.fraction = []
  split : ∃ tail, ExponentEnd p.exponent tail ∧ Integer.splitSign cs =
    (p.negative, p.whole ++ (if p.hasPoint then '.' :: p.fraction else []) ++ tail)

theorem numberParts?_spec {cs : List Char} {p : NumberParts} (h : numberParts? cs = some p)
    (hlast : cs.getLast? ≠ some '\n') : p.Of cs := by
  unfold numberParts? at h
  cases hsign : Integer.splitSign cs with
  | mk negative unsigned =>
      rw [hsign] at h
      dsimp only at h
      have hsplit := List.takeWhile_append_dropWhile (p := isDigit) (l := unsigned)
      have hlast' {tail : List Char} (htail : tail <:+ unsigned) : tail.getLast? ≠ some '\n' := by
        intro hfeed
        obtain ⟨front, hfront⟩ := htail.trans (splitSign_suffix hsign)
        obtain ⟨before, rfl⟩ := List.getLast?_eq_some_iff.mp hfeed
        rw [← hfront, ← List.append_assoc, List.getLast?_concat] at hlast
        exact hlast rfl
      by_cases hpoint : ∃ behind, unsigned.dropWhile isDigit = '.' :: behind
      · obtain ⟨behind, hrest⟩ := hpoint
        have hbehind : behind <:+ unsigned :=
          (hrest ▸ List.suffix_cons '.' behind).trans (List.dropWhile_suffix isDigit)
        have hsplit' := List.takeWhile_append_dropWhile (p := isDigit) (l := behind)
        simp only [hrest, if_true] at h hsplit
        split at h
        · simp at h
        · next hne =>
            obtain ⟨exponent, hexponent, rfl⟩ := Option.map_eq_some_iff.mp h
            refine ⟨?_, ?_, by simp, behind.dropWhile isDigit, ?_, ?_⟩
            · simp only [List.forall_mem_append]
              exact ⟨fun c hc => List.mem_takeWhile_imp hc, fun c hc => List.mem_takeWhile_imp hc⟩
            · simpa using hne
            · exact exponentEnd?_spec hexponent (hlast' ((List.dropWhile_suffix _).trans hbehind))
            · rw [hsign, if_pos rfl, List.append_assoc, List.cons_append, hsplit', hsplit]
      · have hnone : ∀ behind, ¬ unsigned.dropWhile isDigit = '.' :: behind :=
          fun behind hrest => hpoint ⟨behind, hrest⟩
        simp only [if_false, Bool.false_eq_true] at h
        split at h
        · simp at h
        · next hne =>
            obtain ⟨exponent, hexponent, rfl⟩ := Option.map_eq_some_iff.mp h
            refine ⟨?_, ?_, fun _ => rfl, unsigned.dropWhile isDigit, ?_, ?_⟩
            · simpa using fun c hc => List.mem_takeWhile_imp hc
            · simpa using hne
            · exact exponentEnd?_spec hexponent (hlast' (List.dropWhile_suffix _))
            · simp [hsign, hsplit]

/-- The characters that a number is written with. -/
def isNumberChar (c : Char) : Bool := isDigit c || ['+', '-', '.', 'e', 'E'].contains c

theorem NumberParts.Of.chars {cs : List Char} {p : NumberParts} (hp : p.Of cs) :
    ∀ c ∈ cs, isNumberChar c = true := by
  intro c hc
  have hdigit (hc : c ∈ p.whole ++ p.fraction) : isNumberChar c = true := by
    simp [isNumberChar, hp.digits c hc]
  obtain ⟨tail, htail, hsign⟩ := hp.split
  rcases mem_splitSign hsign c hc with hc | rfl | rfl
  · rcases List.mem_append.mp hc with hc | hc
    · rcases List.mem_append.mp hc with hc | hc
      · exact hdigit (List.mem_append_left _ hc)
      · split at hc
        · rcases List.mem_cons.mp hc with rfl | hc
          · decide
          · exact hdigit (List.mem_append_right _ hc)
        · simp at hc
    · generalize p.exponent = exponent at htail
      cases htail with
      | absent => simp at hc
      | present hmark hdown hne hrun =>
          rcases List.mem_cons.mp hc with rfl | hc
          · rcases hmark with rfl | rfl <;> decide
          · rcases mem_splitSign hdown c hc with hc | rfl | rfl
            · simp [isNumberChar, hrun c hc]
            · decide
            · decide
  · decide
  · decide

theorem NumberParts.Of.ne_nil {cs : List Char} {p : NumberParts} (hp : p.Of cs) : cs ≠ [] := by
  rintro rfl
  obtain ⟨tail, -, hsign⟩ := hp.split
  obtain ⟨-, hsplit⟩ := Prod.mk.inj hsign
  rw [eq_comm, List.append_eq_nil_iff, List.append_eq_nil_iff] at hsplit
  refine hp.nonempty (List.append_eq_nil_iff.mpr ⟨hsplit.1.1, ?_⟩)
  refine hp.fraction ?_
  cases hpoint : p.hasPoint with
  | false => rfl
  | true => simp [hpoint] at hsplit

end Literal

/-! ## Numbers in SQL -/

namespace Sql

theorem digits?_eq {cs : List Char} (hne : cs ≠ []) (h : ∀ c ∈ cs, c.isDigit = true) :
    digits? cs = some (digitsValue cs) := by
  have hall : cs.all Char.isDigit = true := List.all_eq_true.mpr h
  simp [digits?, hne, hall, digitsValue_eq_ofDigitChars h]

variable {cs : List Char} {p : NumberParts}

/-- The part of a number in front of its exponent. -/
def mantissaChars (p : NumberParts) : List Char :=
  p.whole ++ if p.hasPoint then '.' :: p.fraction else []

theorem ne_of_isDigit {c d : Char} (hc : c.isDigit = true) (hd : d.isDigit = false) : c ≠ d := by
  rintro rfl
  rw [hc] at hd
  exact absurd hd (by decide)

/-- How a number is taken apart if its digits are those of ASCII. -/
theorem mantissaChars_split (hwhole : ∀ c ∈ p.whole, c.isDigit = true)
    (hfraction : p.hasPoint = false → p.fraction = []) :
    (mantissaChars p).takeWhile (· != '.') = p.whole ∧
    ((mantissaChars p).dropWhile (· != '.')).drop 1 = p.fraction := by
  have hrun : ∀ c ∈ p.whole, (c != '.') = true := fun c hc =>
    bne_iff_ne.mpr (ne_of_isDigit (hwhole c hc) (by decide))
  cases hpoint : p.hasPoint with
  | true =>
      have hrest : ∀ c ∈ ('.' :: p.fraction).head?, (c != '.') = false := by simp
      simp only [mantissaChars, hpoint, if_true]
      rw [takeWhile_run hrun hrest, dropWhile_run hrun hrest]
      exact ⟨rfl, rfl⟩
  | false =>
      have hrest : ∀ c ∈ ([] : List Char).head?, (c != '.') = false := by simp
      simp only [mantissaChars, hpoint, Bool.false_eq_true, if_false]
      rw [takeWhile_run hrun hrest, dropWhile_run hrun hrest, hfraction hpoint]
      exact ⟨rfl, rfl⟩

theorem contains_mantissaChars (hwhole : ∀ c ∈ p.whole, c.isDigit = true) :
    (mantissaChars p).contains '.' = p.hasPoint := by
  have hnone : '.' ∉ p.whole := fun h => absurd (hwhole '.' h) (by decide)
  cases hpoint : p.hasPoint <;> simp [mantissaChars, hpoint, hnone]

theorem head?_exponentEnd {exponent : Option (Bool × List Char)} {tail : List Char}
    (h : ExponentEnd exponent tail) : ∀ c ∈ tail.head?, (!isExponentMark c) = false := by
  cases h with
  | absent => simp
  | present hmark => rcases hmark with rfl | rfl <;> simp [isExponentMark]

theorem mem_mantissaChars {c : Char} (hc : c ∈ mantissaChars p) :
    c ∈ p.whole ++ p.fraction ∨ c = '.' := by
  rw [mantissaChars] at hc
  split at hc
  · simpa [or_assoc, or_comm, or_left_comm] using hc
  · exact .inl (List.mem_append_left _ (by simpa using hc))

theorem isExponentMark_mantissaChars (h : ∀ c ∈ p.whole ++ p.fraction, c.isDigit = true) :
    ∀ c ∈ mantissaChars p, (!isExponentMark c) = true := by
  intro c hc
  rcases mem_mantissaChars hc with hc | rfl
  · have he := ne_of_isDigit (h c hc) (by decide : Char.isDigit 'e' = false)
    have hE := ne_of_isDigit (h c hc) (by decide : Char.isDigit 'E' = false)
    simp [isExponentMark, he, hE]
  · rfl

/-- A number with digits of ASCII is read as its own value. -/
theorem number?_eq (hp : p.Of cs) (hascii : ∀ c ∈ cs, isDigit c = true → c.isDigit = true) :
    number? cs = some p.value := by
  obtain ⟨tail, htail, hsign⟩ := hp.split
  change _ = (p.negative, mantissaChars p ++ tail) at hsign
  have hmem : ∀ c ∈ mantissaChars p ++ tail, c ∈ cs := (splitSign_suffix hsign).subset
  have hdigits : ∀ c ∈ p.whole ++ p.fraction, c.isDigit = true := by
    intro c hc
    refine hascii c (hmem c (List.mem_append_left _ ?_)) (hp.digits c hc)
    rw [mantissaChars]
    cases hpoint : p.hasPoint with
    | true => rcases List.mem_append.mp hc with hc | hc <;> simp [hc]
    | false => simpa [hp.fraction hpoint] using hc
  have hmark := isExponentMark_mantissaChars hdigits
  obtain ⟨hwhole, hfraction⟩ := mantissaChars_split
    (fun c hc => hdigits c (List.mem_append_left _ hc)) hp.fraction
  have hpoint := contains_mantissaChars fun c hc => hdigits c (List.mem_append_left p.fraction hc)
  have hn := digits?_eq hp.nonempty hdigits
  simp only [number?, hsign, takeWhile_run hmark (head?_exponentEnd htail),
    dropWhile_run hmark (head?_exponentEnd htail), hwhole, hfraction, hpoint, hn]
  -- the digits are the same, and the exponent decides which power of ten they stand with
  cases hexponent : p.exponent with
  | none =>
      rw [hexponent] at htail
      cases htail
      cases hpoint' : p.hasPoint with
      | true =>
          simp [NumberParts.value, NumberParts.isInteger, NumberParts.power, hpoint', hexponent,
            Binary64.ofDecimal_eq_nearest]
      | false =>
          simp [NumberParts.value, NumberParts.isInteger, hpoint', hexponent,
            hp.fraction hpoint', signed]
  | some found =>
      rw [hexponent] at htail
      cases htail with
      | @present mark down run tail hmark hsign' hne hrun =>
          have hrun' : ∀ c ∈ run, c.isDigit = true := by
            intro c hc
            refine hascii c (hmem c (List.mem_append_right _ (List.mem_cons_of_mem mark ?_)))
              (hrun c hc)
            exact (splitSign_suffix hsign').subset hc
          simp [hsign', digits?_eq hne hrun', NumberParts.value, NumberParts.isInteger,
            NumberParts.power, hexponent, signed, Binary64.ofDecimal_eq_nearest]

theorem digits?_isDigit {n : ℕ} (h : digits? cs = some n) : ∀ c ∈ cs, c.isDigit = true := by
  rw [digits?] at h
  split at h
  · simp at h
  · next hne =>
      rw [Bool.or_eq_true, not_or] at hne
      simpa using hne.2

/-- A character of a text stands before the first mark, is a mark, or stands behind it. -/
theorem mem_cut (q : Char → Bool) {c : Char} (h : c ∈ cs) :
    c ∈ cs.takeWhile q ∨ q c = false ∨ c ∈ (cs.dropWhile q).drop 1 := by
  rw [← List.takeWhile_append_dropWhile (p := q) (l := cs), List.mem_append] at h
  rcases h with h | h
  · exact .inl h
  · right
    have hnot := List.head?_dropWhile_not q cs
    cases hrest : cs.dropWhile q with
    | nil => simp [hrest] at h
    | cons d rest =>
        rw [hrest] at h hnot
        rcases List.mem_cons.mp h with rfl | h
        · exact .inl hnot
        · exact .inr h

theorem mem_splitSign_of_isDigit {rest : List Char} {negative : Bool} {c : Char}
    (h : Integer.splitSign cs = (negative, rest)) (hc : c ∈ cs) (hdigit : isDigit c = true) :
    c ∈ rest := by
  rcases mem_splitSign h c hc with hc | rfl | rfl
  · exact hc
  · exact absurd hdigit (by decide)
  · exact absurd hdigit (by decide)

/-- What is read as a number has digits of ASCII only. -/
theorem number?_ascii {v : Literal} (h : number? cs = some v) :
    ∀ c ∈ cs, isDigit c = true → c.isDigit = true := by
  intro c hc hdigit
  cases hsign : Integer.splitSign cs with
  | mk negative unsigned =>
      simp only [number?, hsign] at h
      obtain ⟨n, hn, h⟩ := Option.bind_eq_some_iff.mp h
      have hn := digits?_isDigit hn
      -- a digit is neither the point nor the mark, so it is in one of the three runs
      rcases mem_cut (!isExponentMark ·) (mem_splitSign_of_isDigit hsign hc hdigit) with
        hmantissa | hmark | hexponent
      · rcases mem_cut (· != '.') hmantissa with hwhole | hpoint | hfraction
        · exact hn c (List.mem_append_left _ hwhole)
        · obtain rfl : c = '.' := by simpa using hpoint
          exact absurd hdigit (by decide)
        · exact hn c (List.mem_append_right _ hfraction)
      · rw [Bool.not_eq_false', isExponentMark, Bool.or_eq_true, beq_iff_eq, beq_iff_eq] at hmark
        rcases hmark with rfl | rfl <;> exact absurd hdigit (by decide)
      · cases hrest : unsigned.dropWhile (!isExponentMark ·) with
        | nil => simp [hrest] at hexponent
        | cons d exponent =>
            rw [hrest, List.drop_succ_cons, List.drop_zero] at hexponent
            rw [hrest] at h
            cases hdown : Integer.splitSign exponent with
            | mk down run =>
                simp only [hdown] at h
                obtain ⟨power, hpower, -⟩ := Option.bind_eq_some_iff.mp h
                exact digits?_isDigit hpower c (mem_splitSign_of_isDigit hdown hexponent hdigit)

end Sql
end SelectQuery
