import SelectQuery.Proofs.Value.Document

/-!
# Written documents are one line

Texts are written with their controls escaped, and nothing else in a document has any. So a
written document has no control characters at all (`visible_write`): it takes a single line,
and nothing in it can be taken for a sequence that controls a terminal.
-/

namespace SelectQuery.Json

/-- No character is a control. -/
def Visible (cs : List Char) : Prop := ∀ c ∈ cs, 0x20 ≤ c.toNat

instance (cs : List Char) : Decidable (Visible cs) :=
  List.decidableBAll (fun c : Char => 0x20 ≤ c.toNat) cs

variable {cs ds : List Char}

theorem visible_append : Visible (cs ++ ds) ↔ Visible cs ∧ Visible ds := List.forall_mem_append

theorem visible_of_isDigit (h : ∀ c ∈ cs, c.isDigit = true) : Visible cs := by
  intro c hc
  have hdigit := h c hc
  simp only [Char.isDigit, Bool.and_eq_true, decide_eq_true_eq, UInt32.le_iff_toNat_le] at hdigit
  exact le_trans (by decide) hdigit.1

/-! ## Texts -/

theorem visible_hexDigits (width n : ℕ) : Visible (Text.hexDigits width n) := by
  induction width generalizing n with
  | zero => exact List.forall_mem_nil _
  | succ width ih =>
      have hdigit : ∀ m < 16, 0x20 ≤ ((Nat.toDigits 16 m).headD '0').toNat := by decide
      exact visible_append.mpr ⟨ih _, List.forall_mem_singleton.mpr
        (hdigit (n % 16) (Nat.mod_lt n (by decide)))⟩

theorem visible_escapedChar (c : Char) : Visible (escapedChar c) := by
  unfold escapedChar
  split_ifs with _ _ _ _ _ _ _ hcontrol
  · decide
  · decide
  · decide
  · decide
  · decide
  · decide
  · decide
  · exact List.forall_mem_cons.mpr ⟨by decide, List.forall_mem_cons.mpr
      ⟨by decide, visible_hexDigits 4 _⟩⟩
  · exact List.forall_mem_singleton.mpr (not_lt.mp hcontrol)

theorem visible_textChars (cs : List Char) : Visible (textChars cs) := by
  refine List.forall_mem_cons.mpr ⟨by decide, visible_append.mpr ⟨?_, by decide⟩⟩
  intro d hd
  obtain ⟨c, -, hmem⟩ := List.mem_flatMap.mp hd
  exact visible_escapedChar c d hmem

/-! ## Numbers -/

theorem visible_sign (negative : Bool) : Visible (sign negative) := by
  cases negative <;> decide

theorem Numeral.visible_chars (n : Numeral) : Visible n.chars := by
  have hpoint : Visible (point n.fraction) := by
    unfold point
    split
    · exact List.forall_mem_nil _
    · exact List.forall_mem_cons.mpr ⟨by decide, visible_of_isDigit n.isDigit_fraction⟩
  have hpower : Visible (power n.exponent) := by
    unfold power
    split
    · next negative digits hexponent =>
        have hdigits := (n.isPower (negative, digits) hexponent).2
        refine List.forall_mem_cons.mpr ⟨by decide, List.forall_mem_cons.mpr
          ⟨?_, visible_of_isDigit hdigits⟩⟩
        cases negative <;> decide
    · exact List.forall_mem_nil _
  exact visible_append.mpr ⟨visible_of_isDigit n.isWhole.digits,
    visible_append.mpr ⟨hpoint, hpower⟩⟩

theorem visible_floatChars (x : Binary64) : Visible (floatChars x) := by
  cases x with
  | nan => decide
  | infinity negative => cases negative <;> decide
  | finite negative mantissa exponent form =>
      have hsign : ((if negative then "-" else "") : String).toList = sign negative := by
        cases negative <;> rfl
      by_cases hzero : mantissa = 0
      · have hchars : floatChars (.finite negative mantissa exponent form) =
            sign negative ++ "0.0".toList := by simp [floatChars, Binary64.textWith, hsign, hzero]
        rw [hchars]
        exact visible_append.mpr ⟨visible_sign negative, by decide⟩
      · obtain ⟨n, hn, -, -⟩ := exists_numeral_write
          (Binary64.digits_pos_of_nearest hzero (Binary64.nearest_shortest false form))
        have hchars : floatChars (.finite negative mantissa exponent form) =
            sign negative ++ n.chars := by simp [floatChars, Binary64.textWith, hsign, hn, hzero]
        rw [hchars]
        exact visible_append.mpr ⟨visible_sign negative, n.visible_chars⟩

/-! ## Values -/

theorem visible_separated {separator : List Char} (hseparator : Visible separator) :
    ∀ {parts : List (List Char)}, (∀ part ∈ parts, Visible part) →
      Visible (separated separator parts)
  | [], _ => List.forall_mem_nil _
  | [part], h => h part (List.mem_singleton_self part)
  | part :: next :: rest, h => by
      obtain ⟨hpart, hrest⟩ := List.forall_mem_cons.mp h
      rw [separated_cons]
      exact visible_append.mpr ⟨visible_append.mpr ⟨hpart, hseparator⟩,
        visible_separated hseparator hrest⟩

mutual

theorem visible_chars : ∀ x : Value, Visible (chars x)
  | .null => by rw [chars]; decide
  | .bool b => by cases b <;> rw [chars] <;> decide
  | .int n => by
      rw [chars, toList_toString_int]
      exact visible_append.mpr
        ⟨visible_sign _, visible_of_isDigit fun _ => Text.isDigit_of_mem_decimal⟩
  | .float x => by
      rw [chars]
      exact visible_floatChars x
  | .text s => by
      rw [chars]
      exact visible_textChars s.toList
  | .list items => by
      rw [chars]
      exact List.forall_mem_cons.mpr ⟨by decide, visible_append.mpr
        ⟨visible_separated (by decide) (visible_itemChars items), by decide⟩⟩
  | .object fields => by
      rw [chars]
      exact List.forall_mem_cons.mpr ⟨by decide, visible_append.mpr
        ⟨visible_separated (by decide) (visible_fieldChars fields), by decide⟩⟩

theorem visible_itemChars : ∀ items : List Value, ∀ part ∈ itemChars items, Visible part
  | [] => List.forall_mem_nil _
  | x :: rest => List.forall_mem_cons.mpr ⟨visible_chars x, visible_itemChars rest⟩

theorem visible_fieldChars : ∀ fields : List (String × Value), ∀ part ∈ fieldChars fields,
    Visible part
  | [] => List.forall_mem_nil _
  | (key, x) :: rest => List.forall_mem_cons.mpr
      ⟨visible_append.mpr ⟨visible_append.mpr ⟨visible_textChars key.toList, by decide⟩,
        visible_chars x⟩, visible_fieldChars rest⟩

end

/-- A written document has no control characters. -/
theorem visible_write (x : Value) : Visible (write x).toList := by
  rw [write, String.toList_ofList]
  exact visible_chars x

end SelectQuery.Json
