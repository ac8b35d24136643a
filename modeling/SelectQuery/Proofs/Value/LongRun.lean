import SelectQuery.Literal.Operand
import SelectQuery.Proofs.Literal.Parts
import SelectQuery.Proofs.Number.Digits
import SelectQuery.Value.Reader

/-!
# Digits in a row

An integer is only read if it has no more than `digitLimit` digits. These stand in a row, so
that neither a document nor the value of a condition is refused for the length of an integer
unless it has more digits than that in a row (`HasLongRun`).

A reader of documents leaves the end of what it was given (`Reads`). That carries a run of
digits in what is left, where the next reader finds it, back to the document as a whole.
-/

namespace SelectQuery

open Text

namespace Text

/-- A text has more digits in a row than an integer may have. -/
def HasLongRun (cs : List Char) : Prop :=
  ∃ run, run <:+: cs ∧ (∀ c ∈ run, isDigit c = true) ∧ digitLimit < run.length

variable {cs ds : List Char}

theorem HasLongRun.mono (h : HasLongRun cs) (hcs : cs <:+: ds) : HasLongRun ds := by
  obtain ⟨run, hrun, hdigits, hlength⟩ := h
  exact ⟨run, hrun.trans hcs, hdigits, hlength⟩

theorem not_hasLongRun_of_length (h : cs.length ≤ digitLimit) : ¬ HasLongRun cs := by
  rintro ⟨run, hrun, -, hlength⟩
  have := hrun.length_le
  omega

theorem hasLongRun_takeWhile {p : Char → Bool} (hp : ∀ c, p c = true → isDigit c = true)
    (h : digitLimit < (cs.takeWhile p).length) : HasLongRun cs :=
  ⟨cs.takeWhile p, (List.takeWhile_prefix p).isInfix,
    fun c hc => hp c (List.mem_takeWhile_imp hc), h⟩

end Text

/-! ## Documents -/

namespace Json

variable {α β : Type} {cs ds : List Char}

/-- A reader leaves the end of what it was given, and complains of too many digits only if
there are that many in a row. -/
def Reads (cs : List Char) : Except Fault (α × List Char) → Prop
  | .ok (_, rest) => rest <:+ cs
  | .error fault => ∀ n, fault.problem = .tooManyDigits n → HasLongRun cs

theorem Reads.mono {r : Except Fault (α × List Char)} (h : Reads cs r) (hcs : cs <:+ ds) :
    Reads ds r :=
  match r with
  | .ok _ => h.trans hcs
  | .error _ => fun n hn => (h n hn).mono hcs.isInfix

theorem Reads.bind {r : Except Fault (α × List Char)}
    {f : α × List Char → Except Fault (β × List Char)} (hr : Reads cs r)
    (hf : ∀ x rest, Reads rest (f (x, rest))) : Reads cs (r >>= f) :=
  match r with
  | .ok (x, rest) => (hf x rest).mono hr
  | .error _ => hr

/-- Other problems than too many digits are no concern. -/
theorem reads_error {fault : Fault} (h : ∀ n, fault.problem ≠ .tooManyDigits n) :
    Reads cs (.error fault : Except Fault (α × List Char)) :=
  fun n hn => absurd hn (h n)

theorem skip_suffix (cs : List Char) : skip cs <:+ cs := List.dropWhile_suffix isSpace

theorem reads_textUnits (opened : ℕ) (cs : List Char) : Reads cs (textUnits opened cs) := by
  have hunit {n : ℕ} {ds es : List Char} (hds : ds <:+ es) (ih : Reads ds (textUnits opened ds)) :
      Reads es (consUnit n <$> textUnits opened ds) := by
    cases hread : textUnits opened ds with
    | ok found => exact (hread ▸ ih : Reads ds (.ok found)).trans hds
    | error fault => exact (hread ▸ ih : Reads ds (.error fault)).mono hds
  fun_induction textUnits opened cs with
  | case1 | case4 | case5 | case6 | case8 | case9 => exact reads_error (by simp)
  | case2 rest => exact List.suffix_cons _ _
  | case3 a b c d e rest n hn ih => exact hunit ⟨['\\', 'u', a, b, c, d], rfl⟩ ih
  | case7 c rest _ _ e he ih => exact hunit ⟨['\\', c], rfl⟩ ih
  | case10 c rest _ _ _ _ _ _ ih => exact hunit (List.suffix_cons _ _) ih

theorem reads_readText (cs : List Char) : Reads cs (readText cs) :=
  (reads_textUnits _ cs).bind fun _ rest => List.suffix_refl rest

theorem suffix_wholePart (cs : List Char) : (wholePart cs).2 <:+ cs := by
  unfold wholePart
  split
  · exact List.suffix_cons _ _
  · exact List.dropWhile_suffix _

theorem suffix_fractionPart (cs : List Char) : (fractionPart cs).2 <:+ cs := by
  unfold fractionPart
  split
  · dsimp only
    split
    · exact List.suffix_refl _
    · exact (List.dropWhile_suffix _).trans (List.suffix_cons _ _)
  · exact List.suffix_refl _

theorem suffix_exponentPart (cs : List Char) : (exponentPart cs).2 <:+ cs := by
  unfold exponentPart
  split
  · next e rest =>
      split
      · cases hsign : Integer.splitSign rest with
        | mk negative digits =>
            dsimp only
            split
            · exact List.suffix_refl _
            · exact ((List.dropWhile_suffix _).trans (Literal.splitSign_suffix hsign)).trans
                (List.suffix_cons _ _)
      · exact List.suffix_refl _
  · exact List.suffix_refl _

theorem hasLongRun_wholePart (h : digitLimit < (wholePart cs).1.length) : HasLongRun cs := by
  unfold wholePart at h
  split at h
  -- a zero in front is the whole part
  · simp [digitLimit] at h
  · exact hasLongRun_takeWhile (fun c hc => isDigit_of_ascii hc) h

theorem reads_readUnsigned (negative : Bool) (start : ℕ) (cs : List Char) :
    Reads cs (readUnsigned negative start cs) := by
  have hrest : (exponentPart (fractionPart (wholePart cs).2).2).2 <:+ cs :=
    (suffix_exponentPart _).trans ((suffix_fractionPart _).trans (suffix_wholePart cs))
  simp only [readUnsigned]
  split
  · exact reads_error (by simp)
  split
  · split
    · next hlength => exact fun _ _ => hasLongRun_wholePart hlength
    · exact hrest
  · exact hrest

theorem reads_readScalar (cs : List Char) : Reads cs (readScalar cs) := by
  simp only [readScalar]
  split
  · next found hfound =>
      obtain ⟨⟨name, y⟩, -, hafter⟩ := List.exists_of_findSome?_eq_some hfound
      obtain ⟨tail, htail, rfl⟩ := Option.map_eq_some_iff.mp hafter
      exact ⟨name.toList, (Sql.after?_eq_some.mp htail).symm⟩
  · split
    · exact (reads_readUnsigned _ _ _).mono (List.suffix_cons _ _)
    · exact reads_readUnsigned _ _ _

/-- With this much fuel the readers of values, items and fields leave the end of what they
were given, whatever the bound on the nesting. -/
structure AllRead (fuel : ℕ) : Prop where
  value (nesting : ℕ) (cs : List Char) : Reads cs (readValue fuel nesting cs)
  items (nesting : ℕ) (cs : List Char) : Reads cs (readItems fuel nesting cs)
  fields (nesting : ℕ) (before : List (String × Value)) (cs : List Char) :
    Reads cs (readFields fuel nesting before cs)

section Step

variable {fuel : ℕ} (ih : AllRead fuel)
include ih

theorem reads_readValue (nesting : ℕ) (cs : List Char) :
    Reads cs (readValue (fuel + 1) nesting cs) := by
  unfold readValue
  split
  · exact Reads.mono ((reads_readText _).bind fun _ rest => List.suffix_refl rest)
      (List.suffix_cons _ _)
  · next rest =>
      have hskip := (skip_suffix rest).trans (List.suffix_cons '[' rest)
      split
      · exact reads_error (by simp)
      · next heq => exact (List.suffix_cons _ _).trans (heq ▸ hskip)
      · exact Reads.mono ((ih.items _ _).bind fun _ rest => List.suffix_refl rest) hskip
  · next rest =>
      have hskip := (skip_suffix rest).trans (List.suffix_cons '\x7b' rest)
      split
      · exact reads_error (by simp)
      · next heq => exact (List.suffix_cons _ _).trans (heq ▸ hskip)
      · exact Reads.mono ((ih.fields _ _ _).bind fun _ rest => List.suffix_refl rest) hskip
  · exact reads_readScalar cs

theorem reads_readItems (nesting : ℕ) (cs : List Char) :
    Reads cs (readItems (fuel + 1) nesting cs) := by
  refine (ih.value nesting cs).bind fun x rest => ?_
  dsimp only
  split
  · next heq => exact (List.suffix_cons _ _).trans (heq ▸ skip_suffix rest)
  · next tail heq =>
      refine Reads.mono ((ih.items _ _).bind fun _ rest => List.suffix_refl rest) ?_
      exact (skip_suffix tail).trans ((List.suffix_cons _ _).trans (heq ▸ skip_suffix rest))
  · exact reads_error (by simp)

theorem reads_readFields (nesting : ℕ) (before : List (String × Value)) (cs : List Char) :
    Reads cs (readFields (fuel + 1) nesting before cs) := by
  unfold readFields
  split
  · refine Reads.mono ((reads_readText _).bind fun key rest => ?_) (List.suffix_cons _ _)
    dsimp only
    split
    · next tail heq =>
        have htail := (skip_suffix tail).trans
          ((List.suffix_cons ':' tail).trans (heq ▸ skip_suffix rest))
        refine Reads.mono ((ih.value _ _).bind fun x rest' => ?_) htail
        dsimp only
        split
        · next heq' => exact (List.suffix_cons _ _).trans (heq' ▸ skip_suffix rest')
        · next tail' heq' =>
            exact (ih.fields _ _ _).mono ((skip_suffix tail').trans
              ((List.suffix_cons _ _).trans (heq' ▸ skip_suffix rest')))
        · exact reads_error (by simp)
    · exact reads_error (by simp)
  · exact reads_error (by simp)

end Step

theorem allRead (fuel : ℕ) : AllRead fuel := by
  induction fuel with
  | zero =>
      exact ⟨fun _ _ => reads_error (by simp), fun _ _ => reads_error (by simp),
        fun _ _ _ => reads_error (by simp)⟩
  | succ fuel ih => exact ⟨reads_readValue ih, reads_readItems ih, reads_readFields ih⟩

/-- A document that is refused for the length of an integer has that many digits in a row. -/
theorem hasLongRun_of_readWithin {nesting n : ℕ} {s : String} {e : Error}
    (h : readWithin nesting s = .error e) (hproblem : e.problem = .tooManyDigits n) :
    HasLongRun s.toList := by
  rw [readWithin] at h
  split at h
  · simp at h
  · next fault hfault =>
      obtain rfl := Except.error.inj h
      unfold readDocument at hfault
      split at hfault
      · obtain rfl := Except.error.inj hfault
        cases hproblem
      · have hread := ((allRead (s.toList.length + 1)).value nesting (skip s.toList)).mono
          (skip_suffix _)
        cases hvalue : readValue (s.toList.length + 1) nesting (skip s.toList) with
        | ok found =>
            rw [hvalue] at hfault
            simp only [bind, Except.bind] at hfault
            split at hfault
            · simp at hfault
            · obtain rfl := Except.error.inj hfault
              cases hproblem
        | error fault' =>
            rw [hvalue] at hfault hread
            obtain rfl : fault' = fault := Except.error.inj hfault
            exact hread n hproblem

end Json

/-! ## Values of conditions -/

namespace Literal

variable {raw t : List Char}

theorem infix_wholePart {p : NumberParts} (h : numberParts? t = some p) :
    p.whole <:+: t ∧ ∀ c ∈ p.whole, isDigit c = true := by
  unfold numberParts? at h
  cases hsign : Integer.splitSign t with
  | mk negative unsigned =>
      rw [hsign] at h
      obtain ⟨exponent, -, rfl⟩ := Option.map_eq_some_iff.mp (Option.ite_none_left_eq_some.mp h).2
      exact ⟨(List.takeWhile_prefix isDigit).isInfix.trans (splitSign_suffix hsign).isInfix,
        fun c hc => List.mem_takeWhile_imp hc⟩

theorem hasLongRun_of_excessDigits? {n : ℕ} (h : excessDigits? t = some n) : HasLongRun t := by
  unfold excessDigits? at h
  split at h
  · simp at h
  split at h
  · next p hp =>
      split at h
      · next hlong =>
          obtain ⟨hwhole, hdigits⟩ := infix_wholePart hp
          rw [Bool.and_eq_true, decide_eq_true_eq] at hlong
          exact ⟨p.whole, hwhole, hdigits, hlong.2⟩
      · simp at h
  · simp at h

/-- A value with an integer of too many digits has that many digits in a row. -/
theorem hasLongRun_of_excess? {op : ConditionOperator} {n : ℕ} (h : excess? op raw = some n) :
    HasLongRun raw := by
  unfold excess? at h
  split at h
  · simp at h
  · obtain ⟨t, ht, hexcess⟩ := List.exists_of_findSome?_eq_some h
    exact (hasLongRun_of_excessDigits? hexcess).mono (infix_of_mem_scalars t ht)

end Literal
end SelectQuery
