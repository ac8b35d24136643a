import Mathlib.Data.List.Basic
import SelectQuery.Text.Surrogate

/-!
# What is kept can be handed out

A text that is kept can be handed out exactly if it is kept from outside, and then it is handed
out as it was (`plain?_eq_some_iff`). It is so exactly if it has no half (`exists_eq_kept_iff`).
Nothing changes for a text without the mark.
-/

namespace SelectQuery.Text

variable {cs ds : List Char}

theorem points_cons_of_ne {c : Char} (h : c ≠ mark) (cs : List Char) :
    points (c :: cs) = .char c :: points cs := by
  have hc : (c == mark) = false := beq_false_of_ne h
  cases cs with
  | nil => rw [points, hc, if_neg Bool.false_ne_true, points]
  | cons d cs => rw [points, hc, if_neg Bool.false_ne_true]

theorem points_append (h : mark ∉ cs) (ds : List Char) :
    points (cs ++ ds) = cs.map .char ++ points ds := by
  induction cs with
  | nil => rfl
  | cons c cs ih =>
      rw [List.mem_cons, not_or] at h
      rw [List.cons_append, points_cons_of_ne (Ne.symm h.1), ih h.2, List.map_cons,
        List.cons_append]

theorem escaped_append (h : mark ∉ cs) (ds : List Char) :
    escaped (cs ++ ds) = cs ++ escaped ds := by
  rw [escaped, points_append h, List.flatMap_append, List.flatMap_map]
  simp [escaped]

theorem kept_cons (c : Char) (cs : List Char) : kept (c :: cs) = (Point.char c).kept ++ kept cs :=
  List.flatMap_cons

/-- A text without the mark is kept as it is. -/
theorem kept_eq_self (h : mark ∉ cs) : kept cs = cs := by
  induction cs with
  | nil => rfl
  | cons c cs ih =>
      rw [List.mem_cons, not_or] at h
      rw [kept_cons, Point.kept, if_neg (by simpa using Ne.symm h.1), ih h.2]
      rfl

theorem toNat_standIn {n : ℕ} (h : isSurrogate n = true) :
    (Char.ofNat (n + standInOffset)).toNat = n + standInOffset := by
  simp only [isSurrogate, Bool.and_eq_true, decide_eq_true_eq] at h
  have hvalid : (n + standInOffset).isValidChar := by
    refine .inr ⟨?_, ?_⟩ <;> unfold standInOffset <;> omega
  rw [Char.ofNat, dif_pos hvalid]
  rfl

/-- What is kept stands in the text again, characters and halves. -/
theorem points_flatMap_kept {ps : List Point}
    (h : ∀ n, .half n ∈ ps → isSurrogate n = true) : points (ps.flatMap Point.kept) = ps := by
  induction ps with
  | nil => rfl
  | cons p ps ih =>
      have htail := ih fun n hn => h n (List.mem_cons_of_mem p hn)
      rw [List.flatMap_cons]
      cases p with
      | char c =>
          rw [Point.kept]
          by_cases hc : c = mark
          · rw [hc, if_pos (beq_self_eq_true mark), List.cons_append, List.singleton_append,
              points, htail]
            rfl
          · rw [if_neg (by simpa using hc), List.singleton_append, points_cons_of_ne hc, htail]
      | half n =>
          have hn := h n (List.mem_cons_self ..)
          have hcode := toNat_standIn hn
          have hne : (Char.ofNat (n + standInOffset) == mark) = false := by
            refine beq_false_of_ne fun heq => ?_
            have hmark : mark.toNat = 0x10FFFF := by decide
            simp only [isSurrogate, Bool.and_eq_true, decide_eq_true_eq] at hn
            rw [heq, hmark, standInOffset] at hcode
            omega
          rw [Point.kept, List.cons_append, List.singleton_append, points, hne, hcode, htail]
          simp

theorem kept_eq_flatMap (cs : List Char) : kept cs = (cs.map Point.char).flatMap Point.kept :=
  (List.flatMap_map ..).symm

theorem points_kept (cs : List Char) : points (kept cs) = cs.map .char := by
  rw [kept_eq_flatMap, points_flatMap_kept (by simp)]

theorem plain?_kept (cs : List Char) : plain? (kept cs) = some cs := by
  rw [plain?, points_kept, List.mapM_map]
  induction cs with
  | nil => rfl
  | cons c cs ih =>
      rw [List.mapM_cons, ih]
      rfl

theorem mapM_char?_cons {p : Point} {ps : List Point}
    (h : (p :: ps).mapM Point.char? = some ds) :
    ∃ c es, p = .char c ∧ ps.mapM Point.char? = some es ∧ ds = c :: es := by
  rw [List.mapM_cons] at h
  obtain ⟨c, hc, h⟩ := Option.bind_eq_some_iff.mp h
  obtain ⟨es, hes, h⟩ := Option.bind_eq_some_iff.mp h
  cases p with
  | char c' =>
      obtain rfl := Option.some.inj hc
      exact ⟨c', es, rfl, hes, (Option.some.inj h).symm⟩
  | half n => cases hc

/-- What is handed out is what was kept. A half is not, and neither is a mark at the end. -/
theorem eq_kept_of_plain? (h : plain? cs = some ds) : cs = kept ds := by
  rw [plain?] at h
  fun_induction points cs generalizing ds with
  | case1 c d rest hc ih =>
      obtain ⟨e, es, he, hes, rfl⟩ := mapM_char?_cons h
      split at he
      · next hd =>
          obtain rfl := Point.char.inj he
          rw [beq_iff_eq] at hc hd
          rw [hc, hd, kept_cons, ← ih hes]
          rfl
      · cases he
  | case2 c d rest hc ih =>
      obtain ⟨e, es, he, hes, rfl⟩ := mapM_char?_cons h
      obtain rfl := Point.char.inj he
      rw [kept_cons, Point.kept, if_neg hc, ← ih hes, List.singleton_append]
  | case3 c =>
      obtain ⟨e, es, he, hes, rfl⟩ := mapM_char?_cons h
      obtain rfl := Option.some.inj hes
      split at he
      · cases he
      · next hc =>
          obtain rfl := Point.char.inj he
          rw [kept_cons, Point.kept, if_neg hc]
          rfl
  | case4 =>
      obtain rfl := Option.some.inj h
      rfl

/-- A text can be handed out exactly if it is one from outside that is kept. -/
theorem plain?_eq_some_iff : plain? cs = some ds ↔ cs = kept ds := by
  constructor
  · exact eq_kept_of_plain?
  · rintro rfl
    exact plain?_kept ds

theorem exists_mapM_char? {ps : List Point} (h : ∀ n, .half n ∉ ps) :
    ∃ ds, ps.mapM Point.char? = some ds := by
  induction ps with
  | nil => exact ⟨[], rfl⟩
  | cons p ps ih =>
      cases p with
      | char c =>
          obtain ⟨ds, hds⟩ := ih fun n hn => h n (List.mem_cons_of_mem _ hn)
          refine ⟨c :: ds, ?_⟩
          rw [List.mapM_cons, hds]
          rfl
      | half n => exact absurd (List.mem_cons_self ..) (h n)

/-- A text is one from outside that is kept exactly if it has no half. -/
theorem exists_eq_kept_iff : (∃ ds, cs = kept ds) ↔ ∀ n, .half n ∉ points cs := by
  constructor
  · rintro ⟨ds, rfl⟩ n
    simp [points_kept]
  · intro h
    obtain ⟨ds, hds⟩ := exists_mapM_char? h
    exact ⟨ds, eq_kept_of_plain? hds⟩

end SelectQuery.Text
