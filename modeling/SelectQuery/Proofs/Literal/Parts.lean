import SelectQuery.Proofs.Literal.Range

/-!
# The parts of a value

A value is cut into items, into the bounds of a range, into a quoted literal and what stands
behind it, and the pieces are trimmed. Whatever comes out stands in the value as it is: nothing
is put in between two characters, and no two of them change places. What holds of every stretch
of a text, of its characters and of the digits in a row in it, goes over to the parts with that.
-/

namespace SelectQuery.Literal

open Text

variable {cs low high raw : List Char}

/-! ## The quoted literal in front -/

theorem leading?_split {literal behind : List Char} (h : leading? cs = some (literal, behind)) :
    cs = literal ++ behind := by
  obtain ⟨rest, content, rfl, hclosing, rfl⟩ := leading?_eq_some h
  rw [closing?_split hclosing]
  simp

/-! ## Items of a list -/

/-- Every item of a list stands in it as it is. -/
theorem infix_of_mem_items (cs : List Char) : ∀ t ∈ items cs, t <:+: cs := by
  have hblank {cs rest : List Char} (hcs : cs.dropWhile isBlank = rest) : rest <:+: cs :=
    (hcs ▸ List.dropWhile_suffix isBlank : rest <:+ cs).isInfix
  fun_induction items cs with
  | case1 => simp
  | case2 cs rest hcs ih =>
      intro t ht
      calc t <:+: rest := ih t ht
        _ <:+: ',' :: rest := (List.suffix_cons ',' rest).isInfix
        _ <:+: cs := hblank hcs
  | case3 cs c rest hcs hc literal behind hleading ih =>
      have hsplit : literal ++ behind <:+: cs := leading?_split hleading ▸ hblank hcs
      refine List.forall_mem_cons.mpr ⟨?_, fun t ht => ?_⟩
      · exact (List.prefix_append literal behind).isInfix.trans hsplit
      · calc t <:+: behind := ih t ht
          _ <:+: literal ++ behind := (List.suffix_append literal behind).isInfix
          _ <:+: cs := hsplit
  | case4 cs c rest hcs hc hleading ih =>
      refine List.forall_mem_cons.mpr ⟨?_, fun t ht => ?_⟩
      · have hrun : c :: rest.takeWhile (!isComma ·) <+: c :: rest :=
          List.cons_prefix_cons.mpr ⟨rfl, List.takeWhile_prefix _⟩
        calc trim (c :: rest.takeWhile (!isComma ·))
            <:+: c :: rest.takeWhile (!isComma ·) := infix_trim _
          _ <:+: c :: rest := hrun.isInfix
          _ <:+: cs := hblank hcs
      · calc t <:+: rest.dropWhile (!isComma ·) := ih t ht
          _ <:+: rest := (List.dropWhile_suffix _).isInfix
          _ <:+: c :: rest := (List.suffix_cons c rest).isInfix
          _ <:+: cs := hblank hcs

theorem infix_withoutParens (cs : List Char) : withoutParens cs <:+: cs := by
  unfold withoutParens
  split
  · exact (List.dropLast_prefix _).isInfix.trans (List.drop_suffix _ _).isInfix
  · exact List.infix_refl _

/-! ## Bounds of a range -/

theorem suffix_afterAnd? (h : afterAnd? cs = some high) : high <:+ cs := by
  obtain ⟨-, a, n, d, b, rest, hdrop, -, rfl, -⟩ := afterAnd?_eq_some.mp h
  calc rest.dropWhile isBlank <:+ rest := List.dropWhile_suffix _
    _ <:+ cs.dropWhile isBlank := hdrop ▸ List.suffix_append [a, n, d, b] rest
    _ <:+ cs := List.dropWhile_suffix _

theorem infix_cutAtAnd? (h : cutAtAnd? cs = some (low, high)) : low <+: cs ∧ high <:+ cs := by
  induction cs generalizing low high with
  | nil => simp [cutAtAnd?] at h
  | cons c cs ih =>
      unfold cutAtAnd? at h
      split at h
      · next high' hafter =>
          obtain ⟨rfl, rfl⟩ := Prod.mk.inj (Option.some.inj h)
          exact ⟨List.prefix_append [c] cs,
            (suffix_afterAnd? hafter).trans (List.suffix_cons _ _)⟩
      · obtain ⟨⟨low', high'⟩, hcut, heq⟩ := Option.map_eq_some_iff.mp h
        obtain ⟨rfl, rfl⟩ := Prod.mk.inj heq
        obtain ⟨hlow, hhigh⟩ := ih hcut
        exact ⟨List.cons_prefix_cons.mpr ⟨rfl, hlow⟩, hhigh.trans (List.suffix_cons _ _)⟩

theorem infix_quotedRange? (h : quotedRange? cs = some (low, high)) :
    low <+: cs ∧ high <:+ cs := by
  unfold quotedRange? at h
  split at h
  · next literal behind hleading =>
      obtain ⟨high', hafter, heq⟩ := Option.map_eq_some_iff.mp h
      obtain ⟨rfl, rfl⟩ := Prod.mk.inj heq
      rw [leading?_split hleading]
      exact ⟨List.prefix_append _ _, (suffix_afterAnd? hafter).trans (List.suffix_append _ _)⟩
  · simp at h

theorem infix_splitRange? (h : splitRange? cs = some (low, high)) :
    low <:+: cs ∧ high <:+: cs := by
  -- the whole is trimmed before it is cut, and each part of it afterwards
  have htrim {part : List Char} (hpart : part <:+: trim cs) : trim part <:+: cs :=
    calc trim part <:+: part := infix_trim part
      _ <:+: trim cs := hpart
      _ <:+: cs := infix_trim cs
  unfold splitRange? at h
  dsimp only at h
  split at h
  · next first second hquoted =>
      obtain ⟨rfl, rfl⟩ := Prod.mk.inj (Option.some.inj h)
      obtain ⟨hfirst, hsecond⟩ := infix_quotedRange? hquoted
      exact ⟨htrim hfirst.isInfix, htrim hsecond.isInfix⟩
  · obtain ⟨⟨first, second⟩, hcut, heq⟩ := Option.map_eq_some_iff.mp h
    obtain ⟨rfl, rfl⟩ := Prod.mk.inj heq
    obtain ⟨hfirst, hsecond⟩ := infix_cutAtAnd? hcut
    exact ⟨htrim hfirst.isInfix, htrim hsecond.isInfix⟩

/-! ## What the operator makes of a value -/

theorem infix_of_mem_scalars {op : ConditionOperator} : ∀ t ∈ scalars op raw, t <:+: raw := by
  unfold scalars
  dsimp only
  split
  · simp
  split
  · intro t ht
    calc t <:+: withoutParens (trim (trim raw)) := infix_of_mem_items _ t ht
      _ <:+: trim (trim raw) := infix_withoutParens _
      _ <:+: trim raw := infix_trim _
      _ <:+: raw := infix_trim raw
  split
  · next low high hrange =>
      split at hrange
      · obtain ⟨hlow, hhigh⟩ := infix_splitRange? hrange
        simpa using ⟨hlow.trans (infix_trim raw), hhigh.trans (infix_trim raw)⟩
      · simp at hrange
  · simpa using infix_trim raw

end SelectQuery.Literal
