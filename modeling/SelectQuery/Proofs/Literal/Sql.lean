import SelectQuery.Literal.Basic
import SelectQuery.Proofs.Number.Digits
import SelectQuery.Proofs.Number.Nearest
import SelectQuery.Text.Scan

/-!
# Literals as SQL reads them

A string literal opens at a single quote; inside it a doubled quote stands for one quote, and
a quote on its own closes it. A number is written with digits of ASCII; one without point and
exponent is an integer, and any other is the double precision number nearest to it. Nothing
here looks at how the library reads a value.
-/

namespace SelectQuery

open Literal Text

namespace Sql

/-- From behind an opening quote: the text of a string literal, and what follows it. -/
def string? : List Char → Option (List Char × List Char)
  | [] => none
  | '\'' :: '\'' :: rest => (string? rest).map fun (t, behind) => ('\'' :: t, behind)
  | '\'' :: rest => some ([], rest)
  | c :: rest => (string? rest).map fun (t, behind) => (c :: t, behind)

/-- The value of some ASCII digits; nothing without a digit or with another character. -/
def digits? (cs : List Char) : Option ℕ :=
  if cs.isEmpty || !cs.all Char.isDigit then none else some (Nat.ofDigitChars 10 cs 0)

/-- An integer with its sign. -/
def signed (negative : Bool) (n : ℕ) : ℤ := if negative then -n else n

/-- Separates the exponent from what it belongs to. -/
def isExponentMark (c : Char) : Bool := c == 'e' || c == 'E'

/-- A number, if the whole text is one. -/
def number? (cs : List Char) : Option Literal := do
  let (negative, unsigned) := Integer.splitSign cs
  let mantissa := unsigned.takeWhile (!isExponentMark ·)
  let whole := mantissa.takeWhile (· != '.')
  let fraction := (mantissa.dropWhile (· != '.')).drop 1
  let n ← digits? (whole ++ fraction)
  let decimal (power : ℤ) : Literal :=
    .float (.nearest negative (n * 10 ^ (power - fraction.length)))
  match unsigned.dropWhile (!isExponentMark ·) with
  | [] => return if mantissa.contains '.' then decimal 0 else .integer (signed negative n)
  | _ :: exponent =>
    let (down, run) := Integer.splitSign exponent
    let power ← digits? run
    return decimal (signed down power)

/-- A literal in front of a text, and what follows it. A number goes up to the next space. -/
def literal? : List Char → Option (Literal × List Char)
  | '\'' :: cs => (string? cs).map fun (t, behind) => (.text (String.ofList t), behind)
  | cs => (number? (cs.takeWhile (· != ' '))).map fun v => (v, cs.dropWhile (· != ' '))

/-- The values of an operand: one literal, or two joined by `AND`. -/
def operand? (cs : List Char) : Option (List Literal) := do
  let (v, rest) ← literal? cs
  if rest.isEmpty then return [v]
  let rest ← after? " AND ".toList rest
  let (w, rest) ← literal? rest
  if rest.isEmpty then return [v, w] else none

end Sql

/-! ## Quotes -/

namespace Literal

@[simp] theorem doubleQuotes_nil : doubleQuotes [] = [] := rfl

@[simp] theorem doubleQuotes_quote (cs : List Char) :
    doubleQuotes ('\'' :: cs) = '\'' :: '\'' :: doubleQuotes cs := rfl

theorem doubleQuotes_cons {c : Char} (hc : c ≠ '\'') (cs : List Char) :
    doubleQuotes (c :: cs) = c :: doubleQuotes cs := by
  simp [doubleQuotes, hc]

theorem undoubleQuotes_cons {c : Char} (hc : c ≠ '\'') (cs : List Char) :
    undoubleQuotes (c :: cs) = c :: undoubleQuotes cs := by
  simp [undoubleQuotes, hc]

theorem undoubleQuotes_doubleQuotes (t : List Char) : undoubleQuotes (doubleQuotes t) = t := by
  induction t with
  | nil => rfl
  | cons c t ih =>
      by_cases hc : c = '\''
      · subst hc
        rw [doubleQuotes_quote, undoubleQuotes, ih]
      · rw [doubleQuotes_cons hc, undoubleQuotes_cons hc, ih]

@[simp] theorem unquote_quote (t : List Char) : unquote (quote t) = t := by
  rw [unquote, quote, List.cons_append, List.drop_succ_cons, List.drop_zero,
    List.dropLast_concat, undoubleQuotes_doubleQuotes]

theorem isQuoted_iff {cs : List Char} :
    isQuoted cs = true ↔ ∃ inner, cs = '\'' :: inner ++ ['\''] := by
  constructor
  · intro h
    simp only [isQuoted, Bool.and_eq_true, decide_eq_true_eq, beq_iff_eq] at h
    obtain ⟨⟨hlength, hhead⟩, hlast⟩ := h
    cases cs with
    | nil => simp at hhead
    | cons c cs =>
        obtain rfl : c = '\'' := by simpa using hhead
        have hne : cs ≠ [] := by
          rintro rfl
          simp at hlength
        obtain ⟨inner, hinner⟩ := List.getLast?_eq_some_iff.mp hlast
        cases inner with
        | nil => simp [hne] at hinner
        | cons d inner =>
            obtain ⟨rfl, rfl⟩ := List.cons.inj hinner
            exact ⟨inner, rfl⟩
  · rintro ⟨inner, rfl⟩
    rw [isQuoted, List.getLast?_concat]
    simp

/-- A text between quotes that goes on like its own literal is that literal, unless the quote
behind it is one of a pair. -/
theorem eq_doubleQuotes {inner tail rest : List Char}
    (h : inner ++ '\'' :: tail = doubleQuotes (undoubleQuotes inner) ++ '\'' :: rest)
    (htail : tail.head? ≠ some '\'') : inner = doubleQuotes (undoubleQuotes inner) := by
  fun_induction undoubleQuotes inner with
  | case1 inner ih =>
      simp only [doubleQuotes_quote, List.cons_append, List.cons.injEq, true_and] at h
      rw [doubleQuotes_quote, ← ih h]
  | case2 c inner hpair ih =>
      by_cases hc : c = '\''
      · -- a quote without a partner would have to be followed by one
        subst hc
        simp only [doubleQuotes_quote, List.cons_append, List.cons.injEq, true_and] at h
        cases inner with
        | nil =>
            rw [List.nil_append, List.cons.injEq] at h
            rw [h.2] at htail
            exact absurd rfl htail
        | cons d inner => exact (hpair inner rfl (by rw [(List.cons.inj h).1])).elim
      · simp only [doubleQuotes_cons hc, List.cons_append, List.cons.injEq, true_and] at h
        rw [doubleQuotes_cons hc, ← ih h]
  | case3 => rfl

end Literal

namespace Sql

/-- A quote with no other behind it closes. -/
theorem string?_close {rest : List Char} (h : rest.head? ≠ some '\'') :
    string? ('\'' :: rest) = some ([], rest) := by
  cases rest with
  | nil => rfl
  | cons c rest =>
      have hc : c ≠ '\'' := by simpa using h
      simp [string?, hc]

theorem string?_cons {c : Char} (hc : c ≠ '\'') (cs : List Char) :
    string? (c :: cs) = (string? cs).map fun (t, behind) => (c :: t, behind) := by
  simp [string?, hc]

theorem string?_doubleQuotes (t : List Char) {rest : List Char}
    (h : rest.head? ≠ some '\'') : string? (doubleQuotes t ++ '\'' :: rest) = some (t, rest) := by
  induction t with
  | nil => exact string?_close h
  | cons c t ih =>
      by_cases hc : c = '\''
      · subst hc
        rw [doubleQuotes_quote, List.cons_append, List.cons_append, string?, ih]
        rfl
      · rw [doubleQuotes_cons hc, List.cons_append, string?_cons hc, ih]
        rfl

theorem string?_eq_some {cs t rest : List Char} (h : string? cs = some (t, rest)) :
    cs = doubleQuotes t ++ '\'' :: rest ∧ rest.head? ≠ some '\'' := by
  fun_induction string? cs generalizing t rest with
  | case1 => simp at h
  | case2 cs ih =>
      obtain ⟨⟨t, behind⟩, hfound, heq⟩ := Option.map_eq_some_iff.mp h
      obtain ⟨rfl, rfl⟩ := Prod.mk.inj heq
      obtain ⟨hcs, hrest⟩ := ih hfound
      exact ⟨by rw [hcs]; rfl, hrest⟩
  | case3 cs hnext =>
      obtain ⟨rfl, rfl⟩ := Prod.mk.inj (Option.some.inj h)
      refine ⟨rfl, ?_⟩
      intro hquote
      obtain ⟨tail, rfl⟩ := List.head?_eq_some_iff.mp hquote
      exact hnext tail rfl
  | case4 c cs _ hc ih =>
      obtain ⟨⟨t, behind⟩, hfound, heq⟩ := Option.map_eq_some_iff.mp h
      obtain ⟨rfl, rfl⟩ := Prod.mk.inj heq
      obtain ⟨hcs, hrest⟩ := ih hfound
      exact ⟨by rw [doubleQuotes_cons hc, hcs]; rfl, hrest⟩

/-! ## Literals and operands -/

theorem literal?_quote (t : List Char) {tail : List Char} (htail : tail.head? ≠ some '\'') :
    literal? (quote t ++ tail) = some (.text (String.ofList t), tail) := by
  have hquote : quote t ++ tail = '\'' :: (doubleQuotes t ++ '\'' :: tail) := by simp [quote]
  rw [hquote, literal?, string?_doubleQuotes t htail]
  rfl

theorem literal?_run {cs tail : List Char} (hquote : cs.head? ≠ some '\'') (hne : cs ≠ [])
    (hrun : ' ' ∉ cs) (htail : ∀ c ∈ tail.head?, c = ' ') :
    literal? (cs ++ tail) = (number? cs).map fun v => (v, tail) := by
  have hrun' : ∀ c ∈ cs, (c != ' ') = true := by
    intro c hc
    rw [bne_iff_ne]
    rintro rfl
    exact hrun hc
  have htail' : ∀ c ∈ tail.head?, (c != ' ') = false := by
    intro c hc
    rw [htail c hc]
    rfl
  have hsplit := takeWhile_run hrun' htail'
  have hrest := dropWhile_run hrun' htail'
  cases cs with
  | nil => exact absurd rfl hne
  | cons c cs =>
      have hc : c ≠ '\'' := by simpa using hquote
      rw [List.cons_append] at hsplit hrest ⊢
      simp [literal?, hsplit, hrest, hc]

theorem after?_eq_some {beginning cs rest : List Char} :
    after? beginning cs = some rest ↔ cs = beginning ++ rest := by
  induction beginning generalizing cs with
  | nil => simp [after?]
  | cons b bs ih =>
      cases cs with
      | nil => simp [after?]
      | cons c cs =>
          by_cases h : b = c
          · simp [after?, h, ih]
          · simp [after?, h, Ne.symm h]

/-- How an operand is read, either way. -/
theorem operand?_eq_some {cs : List Char} {read : List Literal} :
    operand? cs = some read ↔
      (∃ v, read = [v] ∧ literal? cs = some (v, [])) ∨
      ∃ v w rest, read = [v, w] ∧ literal? cs = some (v, " AND ".toList ++ rest) ∧
        literal? rest = some (w, []) := by
  constructor
  · intro h
    obtain ⟨⟨v, rest⟩, hv, h⟩ := Option.bind_eq_some_iff.mp h
    dsimp only at h
    split at h
    · next hrest =>
        rw [List.isEmpty_iff.mp hrest] at hv
        exact .inl ⟨v, (Option.some.inj h).symm, hv⟩
    · obtain ⟨behind, hbehind, h⟩ := Option.bind_eq_some_iff.mp h
      obtain ⟨⟨w, last⟩, hw, h⟩ := Option.bind_eq_some_iff.mp h
      dsimp only at h
      split at h
      · next hlast =>
          rw [List.isEmpty_iff.mp hlast] at hw
          rw [after?_eq_some.mp hbehind] at hv
          exact .inr ⟨v, w, behind, (Option.some.inj h).symm, hv, hw⟩
      · simp at h
  · rintro (⟨v, rfl, hv⟩ | ⟨v, w, rest, rfl, hv, hw⟩)
    · exact Option.bind_eq_some_iff.mpr ⟨(v, []), hv, rfl⟩
    · refine Option.bind_eq_some_iff.mpr ⟨(v, _), hv, ?_⟩
      dsimp only
      rw [if_neg (by simp)]
      refine Option.bind_eq_some_iff.mpr ⟨rest, after?_eq_some.mpr rfl, ?_⟩
      exact Option.bind_eq_some_iff.mpr ⟨(w, []), hw, rfl⟩

end Sql
end SelectQuery
