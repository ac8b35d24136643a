import SelectQuery.Proofs.Number.Digits
import SelectQuery.Proofs.Statement.Modes
import SelectQuery.Proofs.Value.Document
import SelectQuery.Statement.Fault

/-!
# Parameters as a document

The values that are handed over beside a statement can be written as a document and read back
(`isDocument_params`). The parameters have distinct names, and an integer among the values has
no more than `digitLimit` digits, because a configuration with a longer one has no statement.
-/

namespace SelectQuery

/-! ## Values -/

namespace Literal

open Text

variable {t raw : List Char}

theorem isDocument_readText (t : List Char) : (readText t).toValue.IsDocument := by
  unfold readText
  split <;> trivial

theorem NumberParts.isDocument_value {p : NumberParts}
    (h : p.isInteger = true → p.whole.length ≤ digitLimit) : p.value.toValue.IsDocument := by
  unfold NumberParts.value
  split
  · next hinteger =>
      have hbound := (digitsValue_lt p.whole).trans_le
        (Nat.pow_le_pow_right (by decide) (h hinteger))
      rw [toValue, Value.IsDocument]
      split
      · rwa [Int.natAbs_neg, Int.natAbs_natCast]
      · rwa [Int.natAbs_natCast]
  · trivial

theorem isDocument_readScalar (h : excessDigits? t = none) :
    (readScalar t).toValue.IsDocument := by
  unfold readScalar
  split
  · trivial
  · next hquoted =>
      split
      · trivial
      · next hzero =>
          split
          · next p hp =>
              refine NumberParts.isDocument_value fun hinteger => ?_
              rw [Bool.not_eq_true] at hquoted hzero
              simp only [excessDigits?, hquoted, hzero, hp, hinteger, Bool.or_self,
                Bool.false_eq_true, if_false, Bool.true_and, decide_eq_true_eq] at h
              by_contra hlong
              simp [not_le.mp hlong] at h
          · trivial

/-- The values of an operand without excess digits can be held by a document. -/
theorem isDocument_values {op : ConditionOperator} (h : excess? op raw = none) :
    ∀ v ∈ values op raw, v.toValue.IsDocument := by
  intro v hv
  obtain ⟨t, ht, rfl⟩ := List.mem_map.mp hv
  unfold excess? at h
  split at h
  · next hpattern =>
      rw [if_pos hpattern]
      exact isDocument_readText t
  · next hpattern =>
      rw [if_neg hpattern]
      exact isDocument_readScalar (List.findSome?_eq_none_iff.mp h t ht)

end Literal

variable {ν : Type} [Entry ν]

theorem Condition.isDocument_bindings {x : Condition ν} (h : x.excess? .bound = none) :
    ∀ v ∈ x.bindings .bound, v.toValue.IsDocument := by
  rw [bindings_bound]
  split
  · next hbound =>
      cases hop : x.operator with
      | verbatim s => simp [isBound, hop] at hbound
      | term op =>
          have hinline : x.isInline .bound = false := by rw [isInline_bound, hbound]; rfl
          have hvalues : Literal.excess? op (Entry.chars x.value) = none := by
            simpa [excess?, hop, hinline] using h
          have hparsed : x.parsed = Literal.values op (Entry.chars x.value) := by
            simp [parsed, hop]
          rw [hparsed]
          exact Literal.isDocument_values hvalues
  · exact List.forall_mem_nil _

/-! ## Parameters -/

theorem parameterName_injective : Function.Injective parameterName := by
  intro m n h
  have hname : (toString m).toList = (toString n).toList := by
    have hrepr : toString m = toString n := by simpa [parameterName] using h
    rw [hrepr]
  rw [Nat.toString_eq_repr, Nat.toString_eq_repr, Nat.toList_repr, Nat.toList_repr] at hname
  rw [← Text.digitsValue_toDigits m, hname, Text.digitsValue_toDigits]

theorem nodup_namedFrom (start : ℕ) (values : List Literal) :
    ((namedFrom start values).map Prod.fst).Nodup := by
  rw [map_fst_namedFrom]
  refine (List.nodup_range').map fun i j h => ?_
  exact Nat.succ_injective (parameterName_injective h)

namespace Configuration

variable {c : Configuration ν}

/-- A configuration with a bound statement has no condition with excess digits. -/
theorem excess?_of_fault? (h : c.fault? .bound = none) :
    ∀ x ∈ c.activeConditions, x.excess? .bound = none := by
  intro x hx
  obtain ⟨hmem, hactive⟩ := List.mem_filter.mp hx
  simp only [fault?, Option.orElse_eq_orElse, Option.orElse_eq_or, Option.or_eq_none_iff] at h
  have hcondition := List.findSome?_eq_none_iff.mp h.2.1 x hmem
  unfold conditionFault? at hcondition
  split at hcondition
  · simp at hcondition
  · rw [if_neg (by simpa using hactive)] at hcondition
    simp only [Option.orElse_eq_orElse, Option.orElse_eq_or, Option.or_eq_none_iff] at hcondition
    exact hcondition.2

/-- What is handed over beside a bound statement can be held by a document. -/
theorem isDocument_params {s : Statement ν} (h : c.build .bound = .ok s) :
    (Value.object (s.params.map fun (name, v) => (name, v.toValue))).IsDocument := by
  unfold build at h
  split at h
  · simp at h
  · next hfault =>
      obtain rfl := Except.ok.inj h
      have hparams : (c.statement .bound).params = namedFrom 0 (c.bindings .bound) := rfl
      rw [hparams, Value.isDocument_object]
      refine ⟨?_, ?_⟩
      · rw [List.map_map]
        exact nodup_namedFrom 0 _
      · rw [List.forall_mem_map]
        intro param hparam
        have hvalue : param.2 ∈ c.bindings .bound := by
          rw [← map_snd_namedFrom 0 (c.bindings .bound)]
          exact List.mem_map_of_mem hparam
        obtain ⟨x, hx, hmem⟩ := List.mem_flatMap.mp hvalue
        exact x.isDocument_bindings (excess?_of_fault? hfault x hx) _ hmem

end Configuration
end SelectQuery
