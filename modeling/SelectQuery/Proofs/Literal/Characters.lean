import SelectQuery.Proofs.Literal.Parts

/-!
# The characters of an operand

An operand is written with the characters of the value that was entered, and with quotes,
parentheses and the word `AND` besides (`mem_format`). The value is cut and trimmed on the way,
but no character comes out of a part that did not go in.
-/

namespace SelectQuery.Literal

open Text

variable {cs : List Char}

/-- What a written operand can hold that was not entered. -/
def marks : List Char := "'() AND".toList

theorem mem_quote {c : Char} (h : c ∈ quote cs) : c ∈ cs ∨ c ∈ marks := by
  have hquote : '\'' ∈ marks := by decide
  rw [quote, List.cons_append, List.mem_cons, List.mem_append, List.mem_singleton,
    doubleQuotes, List.mem_flatMap] at h
  rcases h with rfl | ⟨d, hd, hc⟩ | rfl
  · exact .inr hquote
  · split at hc
    · next hd' =>
        subst hd'
        obtain rfl : c = '\'' := by simpa using hc
        exact .inr hquote
    · obtain rfl := List.mem_singleton.mp hc
      exact .inl hd
  · exact .inr hquote

theorem mem_formatScalar {c : Char} (h : c ∈ formatScalar cs) : c ∈ cs ∨ c ∈ marks := by
  rw [formatScalar] at h
  split at h
  · exact .inl h
  · exact mem_quote h

theorem mem_format {operator : Option ConditionOperator} {raw : List Char}
    (h : format operator raw = some cs) {c : Char} (hc : c ∈ cs) : c ∈ raw ∨ c ∈ marks := by
  have htrim : trim raw ⊆ raw := (trim_sublist raw).subset
  have hscalar {part : List Char} (hpart : part ⊆ trim raw) (hc : c ∈ formatScalar part) :
      c ∈ raw ∨ c ∈ marks := (mem_formatScalar hc).imp_left fun hmem => htrim (hpart hmem)
  simp only [format] at h
  split at h
  · simp at h
  · split at h
    · obtain rfl := Option.some.inj h
      exact hscalar (List.Subset.refl _) hc
    · next op =>
        split_ifs at h with hnull hmember hhead hpattern hquoted hrange
        · obtain rfl := Option.some.inj h
          exact .inl (htrim hc)
        · obtain rfl := Option.some.inj h
          rw [List.cons_append, List.mem_cons, List.mem_append, List.mem_singleton] at hc
          rcases hc with rfl | hc | rfl
          · exact .inr (by decide)
          · exact .inl (htrim hc)
          · exact .inr (by decide)
        · obtain rfl := Option.some.inj h
          exact .inl (htrim hc)
        · obtain rfl := Option.some.inj h
          exact (mem_quote hc).imp_left (htrim ·)
        · split at h
          · next low high hsplit =>
              obtain rfl := Option.some.inj h
              obtain ⟨hlow, hhigh⟩ := infix_splitRange? hsplit
              rw [List.mem_append, List.mem_append] at hc
              rcases hc with (hc | hc) | hc
              · exact hscalar hlow.subset hc
              · exact .inr ((by decide : " AND ".toList ⊆ marks) hc)
              · exact hscalar hhigh.subset hc
          · obtain rfl := Option.some.inj h
            exact hscalar (List.Subset.refl _) hc
        · obtain rfl := Option.some.inj h
          exact hscalar (List.Subset.refl _) hc

end SelectQuery.Literal
