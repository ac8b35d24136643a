import SelectQuery.Text.Case

/-!
# The lower case of plain text

The lower case of a character depends on what stands around it, because of the final sigma.
A plain text, of ASCII only, has the lower case of its characters wherever it stands.
-/

namespace SelectQuery.Text

theorem toUpper_toLower {c : Char} (h : c.isUpper = true) : c.toLower.toUpper = c := by
  have hcapitals : ∀ n ∈ List.range 26,
      (Char.ofNat (65 + n)).toLower.toUpper = Char.ofNat (65 + n) := by decide
  have hbounds : 65 ≤ c.toNat ∧ c.toNat ≤ 90 := by
    have hcode : 65 ≤ c.val ∧ c.val ≤ 90 := of_decide_eq_true h
    exact hcode.imp UInt32.le_iff_toNat_le.mp UInt32.le_iff_toNat_le.mp
  have hc := hcapitals (c.toNat - 65) (List.mem_range.mpr (by omega))
  rwa [Nat.add_sub_cancel' hbounds.1, Char.ofNat_toNat] at hc

theorem eq_toLower_or (c : Char) : c = c.toLower ∨ c = c.toLower.toUpper := by
  by_cases h : c.isUpper = true
  · exact .inr (toUpper_toLower h).symm
  · have hkept : c.toLower = c := dif_neg fun hcode => h (decide_eq_true hcode)
    exact .inl hkept.symm

/-- Of ASCII only. -/
def IsPlain (cs : List Char) : Prop := ∀ c ∈ cs, c.toNat < 128

theorem lowerFrom_cons_plain {c : Char} (hc : c.toNat < 128) (before cs : List Char) :
    lowerFrom before (c :: cs) = c.toLower :: lowerFrom (c :: before) cs := by
  have hsigma : (c == 'Σ') = false := by
    rw [beq_eq_false_iff_ne]
    rintro rfl
    exact absurd hc (by decide)
  rw [lowerFrom, hsigma]
  simp [lowerChar, hc]

theorem lowerFrom_plain_append {cs : List Char} (hcs : IsPlain cs) (before rest : List Char) :
    lowerFrom before (cs ++ rest) =
      cs.map Char.toLower ++ lowerFrom (cs.reverse ++ before) rest := by
  induction cs generalizing before with
  | nil => rfl
  | cons c cs ih =>
      rw [List.cons_append, lowerFrom_cons_plain (hcs c List.mem_cons_self),
        ih fun d hd => hcs d (List.mem_cons_of_mem c hd)]
      simp

/-- Text behind another is put into lower case on its own, with the other one before it. -/
theorem exists_lowerFrom_append (before cs rest : List Char) :
    ∃ front, lowerFrom before (cs ++ rest) = front ++ lowerFrom (cs.reverse ++ before) rest := by
  induction cs generalizing before with
  | nil => exact ⟨[], rfl⟩
  | cons c cs ih =>
      obtain ⟨front, hfront⟩ := ih (c :: before)
      rw [List.cons_append, lowerFrom, hfront, ← List.append_assoc, List.reverse_cons,
        List.append_assoc cs.reverse, List.singleton_append]
      exact ⟨_, rfl⟩

end SelectQuery.Text
