import SelectQuery.Proofs.Build
import SelectQuery.Proofs.Value.Document

/-!
# What a document holds

A value that was read from a document can be held by a document again: a name that comes
twice keeps one field, and integers with too many digits are refused (`isDocument_of_readWithin`).
-/

namespace SelectQuery.Json

open Value

theorem isDocument_readUnsigned {negative : Bool} {start : ℕ} {cs rest : List Char} {x : Value}
    (h : readUnsigned negative start cs = .ok (x, rest)) : x.IsDocument := by
  simp only [readUnsigned] at h
  split at h
  · simp at h
  split at h
  · split at h
    · simp at h
    next hlength =>
      obtain ⟨rfl, -⟩ := Prod.mk.inj (Except.ok.inj h)
      rw [not_lt] at hlength
      have hbound := (Text.digitsValue_lt (wholePart cs).1).trans_le
        (Nat.pow_le_pow_right (by decide) hlength)
      rw [IsDocument]
      split
      · rwa [Int.natAbs_neg, Int.natAbs_natCast]
      · rwa [Int.natAbs_natCast]
  · obtain ⟨rfl, -⟩ := Prod.mk.inj (Except.ok.inj h)
    trivial

theorem isDocument_readScalar {cs rest : List Char} {x : Value}
    (h : readScalar cs = .ok (x, rest)) : x.IsDocument := by
  simp only [readScalar] at h
  split at h
  · next found hfound =>
      obtain rfl := Except.ok.inj h
      obtain ⟨⟨name, y⟩, hmem, hafter⟩ := List.exists_of_findSome?_eq_some hfound
      obtain ⟨tail, -, heq⟩ := Option.map_eq_some_iff.mp hafter
      obtain ⟨rfl, -⟩ := Prod.mk.inj heq
      simp only [constants, List.mem_cons, Prod.mk.injEq, List.not_mem_nil, or_false] at hmem
      rcases hmem with ⟨-, rfl⟩ | ⟨-, rfl⟩ | ⟨-, rfl⟩ | ⟨-, rfl⟩ | ⟨-, rfl⟩ | ⟨-, rfl⟩ <;> trivial
  · split at h
    · exact isDocument_readUnsigned h
    · exact isDocument_readUnsigned h

/-- Setting a field keeps the names distinct. -/
theorem isDocument_setField {fields : List (String × Value)} {key : String} {x : Value}
    (hfields : (Value.object fields).IsDocument) (hx : x.IsDocument) :
    (Value.object (setField fields key x)).IsDocument := by
  rw [isDocument_object] at hfields ⊢
  rw [setField]
  split
  · refine ⟨?_, ?_⟩
    -- the field takes the place of its older one, under the same name
    · have hnames : (fields.map fun field => if field.1 == key then (key, x) else field).map
          Prod.fst = fields.map Prod.fst := by
        rw [List.map_map]
        refine List.map_congr_left fun field _ => ?_
        by_cases hkey : field.1 = key
        · simp [hkey]
        · simp [hkey]
      rw [hnames]
      exact hfields.1
    · rw [List.forall_mem_map]
      intro field hfield
      split
      · exact hx
      · exact hfields.2 field hfield
  · next hnew =>
      refine ⟨?_, ?_⟩
      · rw [List.map_append, List.nodup_append]
        refine ⟨hfields.1, by simp, ?_⟩
        simpa using fun name y hmem (hname : name = key) =>
          hnew (List.any_eq_true.mpr ⟨(name, y), hmem, beq_iff_eq.mpr hname⟩)
      · rw [List.forall_mem_append]
        exact ⟨hfields.2, by simpa using hx⟩

/-- With this much fuel only values, items and fields are read that a document can hold. -/
structure ReadsDocuments (fuel : ℕ) : Prop where
  value {nesting cs x rest} : readValue fuel nesting cs = .ok (x, rest) → x.IsDocument
  items {nesting cs items rest} : readItems fuel nesting cs = .ok (items, rest) →
    (Value.list items).IsDocument
  fields {nesting before cs fields rest} : readFields fuel nesting before cs = .ok (fields, rest) →
    (Value.object before).IsDocument → (Value.object fields).IsDocument

section Step

variable {fuel nesting : ℕ} {cs rest : List Char} (ih : ReadsDocuments fuel)
include ih

theorem isDocument_readValue {x : Value} (h : readValue (fuel + 1) nesting cs = .ok (x, rest)) :
    x.IsDocument := by
  unfold readValue at h
  split at h
  · obtain ⟨⟨s, tail⟩, -, h⟩ := Except.bind_eq_ok.mp h
    obtain ⟨rfl, -⟩ := Prod.mk.inj (Except.ok.inj h)
    trivial
  · split at h
    · simp at h
    · obtain ⟨rfl, -⟩ := Prod.mk.inj (Except.ok.inj h)
      trivial
    · obtain ⟨⟨items, tail⟩, hread, h⟩ := Except.bind_eq_ok.mp h
      obtain ⟨rfl, -⟩ := Prod.mk.inj (Except.ok.inj h)
      exact ih.items hread
  · split at h
    · simp at h
    · obtain ⟨rfl, -⟩ := Prod.mk.inj (Except.ok.inj h)
      exact isDocument_object.mpr (by simp)
    · obtain ⟨⟨fields, tail⟩, hread, h⟩ := Except.bind_eq_ok.mp h
      obtain ⟨rfl, -⟩ := Prod.mk.inj (Except.ok.inj h)
      exact ih.fields hread (isDocument_object.mpr (by simp))
  · exact isDocument_readScalar h

theorem isDocument_readItems {items : List Value}
    (h : readItems (fuel + 1) nesting cs = .ok (items, rest)) : (Value.list items).IsDocument := by
  obtain ⟨⟨x, tail⟩, hread, h⟩ := Except.bind_eq_ok.mp h
  have hx := ih.value hread
  dsimp only at h
  split at h
  · obtain ⟨rfl, -⟩ := Prod.mk.inj (Except.ok.inj h)
    exact ⟨hx, trivial⟩
  · obtain ⟨⟨more, tail'⟩, hmore, h⟩ := Except.bind_eq_ok.mp h
    obtain ⟨rfl, -⟩ := Prod.mk.inj (Except.ok.inj h)
    exact ⟨hx, ih.items hmore⟩
  · simp at h

theorem isDocument_readFields {before fields : List (String × Value)}
    (h : readFields (fuel + 1) nesting before cs = .ok (fields, rest))
    (hbefore : (Value.object before).IsDocument) : (Value.object fields).IsDocument := by
  unfold readFields at h
  split at h
  · obtain ⟨⟨key, tail⟩, -, h⟩ := Except.bind_eq_ok.mp h
    dsimp only at h
    split at h
    · obtain ⟨⟨x, tail'⟩, hread, h⟩ := Except.bind_eq_ok.mp h
      -- what was read so far is the argument, so it has to be kept a document
      have hset := @isDocument_setField before key x hbefore (ih.value hread)
      dsimp only at h
      split at h
      · obtain ⟨rfl, -⟩ := Prod.mk.inj (Except.ok.inj h)
        exact hset
      · exact ih.fields h hset
      · simp at h
    · simp at h
  · simp at h

end Step

theorem readsDocuments (fuel : ℕ) : ReadsDocuments fuel := by
  induction fuel with
  | zero => constructor <;> simp [readValue, readItems, readFields]
  | succ fuel ih =>
      exact ⟨isDocument_readValue ih, isDocument_readItems ih, isDocument_readFields ih⟩

/-- What is read from a document can be held by a document. -/
theorem isDocument_of_readWithin {nesting : ℕ} {s : String} {x : Value}
    (h : readWithin nesting s = .ok x) : x.IsDocument := by
  rw [readWithin] at h
  split at h
  · next found hfound =>
      obtain rfl := Except.ok.inj h
      unfold readDocument at hfound
      split at hfound
      · simp [throw, throwThe, MonadExceptOf.throw, bind, Except.bind] at hfound
      · obtain ⟨⟨y, rest⟩, hy, hfound⟩ := Except.bind_eq_ok.mp hfound
        dsimp only at hfound
        split at hfound
        · obtain rfl := Except.ok.inj hfound
          exact (readsDocuments _).value hy
        · simp at hfound
  · simp at h

end SelectQuery.Json
