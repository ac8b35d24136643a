import Mathlib.Data.String.Basic
import SelectQuery.Proofs.Number.Nearest
import SelectQuery.Proofs.Steps
import SelectQuery.Proofs.Text.Blank
import SelectQuery.SavedQuery

/-!
# The history of a store

What a store answers is told by the steps it went through (`Store.after_reflects`). A query
is live from the step that saved it until a step deletes its number, and `get`, `list` and
`delete` speak of the live queries. Every accepted name takes the next number, also if
nothing is saved under it.

## Strategy

`create_cases` says all that saving can do. From it, one step adds the query that was saved
and drops those whose number is deleted (`mem_queries_step`), which is what the same step does
to the live queries (`live_concat_iff`). So the queries of a store are the live ones, by
induction over the history from its end. Two things are kept along the way: the last number
counts the accepted names, and the queries are numbered upwards up to it.
-/

namespace SelectQuery

variable {ν : Type}

/-! ## Steps -/

/-- A step in the use of a store. -/
inductive StoreStep (ν : Type)
  | create (now : String) (name description : Value) (c : Configuration ν)
  | get (id : Value)
  | list
  | delete (id : Value)

/-- A name that is accepted: a text with more in it than blanks. -/
def Value.isName : Value → Bool
  | .text s => !Text.isAllBlank s
  | _ => false

/-- A step that takes a number: saving under a name that is accepted. -/
def StoreStep.takesNumber : StoreStep ν → Bool
  | .create _ name _ _ => name.isName
  | _ => false

/-- A query comes before another one in a list of saved queries. -/
def SavedQuery.Precedes (p q : SavedQuery) : Prop :=
  p.createdAt < q.createdAt ∨ (p.createdAt = q.createdAt ∧ p.id < q.id)

variable [Entry ν]

namespace Store

/-- A store after a step. -/
def step (s : Store) : StoreStep ν → Store
  | .create now name description c => (s.create now name description c).1
  | .get _ | .list => s
  | .delete id =>
    match s.delete id with
    | .ok (_, left) => left
    | .error _ => s

/-- A new store after some steps. -/
def after (steps : List (StoreStep ν)) : Store := steps.foldl step {}

/-- A step deletes the query with a number, and answers that there was one. -/
def removes (s : Store) (n : ℕ) : StoreStep ν → Bool
  | .delete id =>
    match s.delete id with
    | .ok (found, _) => found && id.same (.int n)
    | .error _ => false
  | _ => false

/-- How often the query with a number was deleted. -/
def removals (n : ℕ) : Store → List (StoreStep ν) → ℕ
  | _, [] => 0
  | s, x :: rest => (s.removes n x).toNat + removals n (s.step x) rest

/-- A query was saved by one of some steps, and later steps followed. -/
def Saved (steps : List (StoreStep ν)) (q : SavedQuery) (later : List (StoreStep ν)) : Prop :=
  ∃ before now name description c, steps = before ++ .create now name description c :: later ∧
    ((after before).create now name description c).2 = .ok q

/-- A query was saved, and its number was not deleted since. -/
def Live (steps : List (StoreStep ν)) (q : SavedQuery) : Prop :=
  ∃ later, Saved steps q later ∧ ∀ id, .delete id ∈ later → q.hasId id = false

/-- The query with a number was saved, and is not live any more. -/
def Gone (steps : List (StoreStep ν)) (n : ℕ) : Prop :=
  ∃ q later, Saved steps q later ∧ q.id = n ∧ ¬ Live steps q

/-- A store answers as some steps tell. -/
structure Reflects (steps : List (StoreStep ν)) (s : Store) : Prop where
  /-- An accepted name takes the next number, whether a query is saved or not. -/
  numbered : ∀ now name description (c : Configuration ν), name.isName = true →
    (s.create now name description c).1.lastId = steps.countP StoreStep.takesNumber + 1 ∧
      ∀ q, (s.create now name description c).2 = .ok q →
        q.id = steps.countP StoreStep.takesNumber + 1
  /-- A configuration that can be written and has a query is saved with both. -/
  saved : ∀ now name description (c : Configuration ν) document text, name.isName = true →
    snapshot c = .ok (document, text) →
      ∃ q, (s.create now name description c).2 = .ok q ∧ q.document = document ∧ q.text = text
  /-- A name that is not accepted changes nothing. -/
  refused : ∀ now name description (c : Configuration ν), name.isName = false →
    (s.create now name description c).1 = s ∧
      ∃ e, (s.create now name description c).2 = .error e
  /-- Nothing is lost or added where saving fails. -/
  failed : ∀ now name description (c : Configuration ν) e,
    (s.create now name description c).2 = .error e →
      (s.create now name description c).1.queries = s.queries
  /-- A query that is saved later has a greater number. -/
  ascending : ∀ p q later later', Saved steps p later → Saved steps q later' →
    later'.length < later.length → p.id < q.id
  get_eq_ok_iff : ∀ id q, s.get id = .ok q ↔ Live steps q ∧ q.hasId id = true
  get_missing : ∀ id, id.isAtomic = true → (∀ q, Live steps q → q.hasId id = false) →
    s.get id = .error (.notFound (.savedQuery id))
  /-- Deleting answers whether there is a live query with the number. -/
  deleted : ∀ id, id.isAtomic = true → ∃ found left, s.delete id = .ok (found, left) ∧
    (found = true ↔ ∃ q, Live steps q ∧ q.hasId id = true)
  /-- A query that is gone was deleted once. -/
  removed : ∀ n, Gone steps n → removals n {} steps = 1
  /-- Deleting never found any other number. -/
  unremoved : ∀ n, ¬ Gone steps n → removals n {} steps = 0
  list_nodup : s.list.Nodup
  mem_list_iff : ∀ q, q ∈ s.list ↔ Live steps q
  list_sorted : s.list.Pairwise SavedQuery.Precedes

end Store

/-! ## Numbers -/

/-- A value is equal to one integer at most. -/
theorem Value.same_int_inj {v : Value} {m n : ℤ} (hm : v.same (.int m) = true)
    (hn : v.same (.int n) = true) : m = n := by
  cases v with
  | bool b => simp_all [same, number?, Number.same]
  | int k => simp_all [same, number?, Number.same]
  | float x =>
      have hratio (k : ℤ) : (Value.float x).same (.int k) = x.isInteger k := by
        simp [same, number?, Number.same]
      rw [hratio] at hm hn
      cases x with
      | finite negative mantissa exponent form =>
          have hden := Binary64.scaled_snd_pos Nat.one_pos mantissa (-exponent)
          simp only [Binary64.isInteger, Binary64.ratio?, beq_iff_eq] at hm hn
          rw [hm] at hn
          exact Int.eq_of_mul_eq_mul_right (by omega) hn
      | _ => simp [Binary64.isInteger, Binary64.ratio?] at hm
  | _ => simp [same, number?] at hm

namespace Store

/-! ## What a step does -/

theorem name?_of_isName {name : Value} (h : name.isName = true) : ∃ s, name? name = .ok s := by
  cases name with
  | text s =>
      have hblank : Text.isAllBlank s = false := by simpa [Value.isName] using h
      have htrimmed : Text.trimmed s ≠ "" := by
        intro hempty
        rw [Text.trimmed_eq_empty_iff.mp hempty] at hblank
        exact absurd hblank (by decide)
      have hne : s ≠ "" := by
        rintro rfl
        exact absurd hblank (by decide)
      exact ⟨Text.trimmed s, by simp [name?, Value.isPresent, hne, htrimmed]⟩
  | _ => simp [Value.isName] at h

theorem name?_of_not_isName {name : Value} (h : name.isName = false) :
    ∃ e, name? name = .error e := by
  unfold name?
  split
  · cases name with
    | text s =>
        have hblank : Text.isAllBlank s = true := by simpa [Value.isName] using h
        simp [Text.trimmed_eq_empty_iff.mpr hblank]
    | _ => exact ⟨_, rfl⟩
  · exact ⟨_, rfl⟩

/-- All that saving can do: refuse the name, fail to write the configuration, or save it. -/
theorem create_cases (s : Store) (now : String) (name description : Value)
    (c : Configuration ν) :
    (name.isName = false ∧ ∃ e, s.create now name description c = (s, .error e)) ∨
    (name.isName = true ∧ ∃ e, snapshot c = .error e ∧
      s.create now name description c = ({ s with lastId := s.lastId + 1 }, .error e)) ∨
    (name.isName = true ∧ ∃ q : SavedQuery, q.id = s.lastId + 1 ∧
      snapshot c = .ok (q.document, q.text) ∧
      s.create now name description c = (⟨s.queries ++ [q], s.lastId + 1⟩, .ok q)) := by
  cases hname : name.isName with
  | false =>
      obtain ⟨e, he⟩ := name?_of_not_isName hname
      exact .inl ⟨rfl, e, by rw [create, he]⟩
  | true =>
      obtain ⟨trimmed, htrimmed⟩ := name?_of_isName hname
      cases hsnapshot : snapshot c with
      | error e => exact .inr (.inl ⟨rfl, e, rfl, by rw [create, htrimmed, hsnapshot]⟩)
      | ok pair =>
          obtain ⟨document, text⟩ := pair
          refine .inr (.inr ⟨rfl, _, ?_, ?_, by rw [create, htrimmed, hsnapshot]⟩)
          · rfl
          · rfl

variable {s : Store} {q : SavedQuery} {steps : List (StoreStep ν)} {x : StoreStep ν}

theorem delete_of_isAtomic {id : Value} (h : id.isAtomic = true) :
    s.delete id = .ok (s.queries.any (SavedQuery.hasId id),
      { s with queries := s.queries.filter (!SavedQuery.hasId id ·) }) := by
  rw [delete, if_pos h]

/-- A list or an object is nobody's number. -/
theorem hasId_of_not_isAtomic {id : Value} (h : id.isAtomic = false) (q : SavedQuery) :
    q.hasId id = false := by
  cases id with
  | list items => simp [SavedQuery.hasId, Value.same, Value.number?]
  | object fields => simp [SavedQuery.hasId, Value.same, Value.number?]
  | _ => simp [Value.isAtomic] at h

theorem queries_step_delete (id : Value) :
    (s.step (.delete id : StoreStep ν)).queries = s.queries.filter (!SavedQuery.hasId id ·) := by
  cases hatomic : id.isAtomic with
  | true => rw [step, delete_of_isAtomic hatomic]
  | false =>
      have hnone : s.queries.filter (!SavedQuery.hasId id ·) = s.queries := by
        rw [List.filter_eq_self]
        exact fun q _ => by rw [hasId_of_not_isAtomic hatomic q]; rfl
      rw [step, delete, hatomic, hnone]
      rfl

theorem lastId_step (s : Store) (x : StoreStep ν) :
    (s.step x).lastId = s.lastId + x.takesNumber.toNat := by
  cases x with
  | create now name description c =>
      rw [step, StoreStep.takesNumber]
      obtain ⟨hname, e, h⟩ | ⟨hname, e, -, h⟩ | ⟨hname, q, -, -, h⟩ :=
        s.create_cases now name description c
      · rw [h, hname]
        rfl
      · rw [h, hname]
        rfl
      · rw [h, hname]
        rfl
  | get id => rfl
  | list => rfl
  | delete id =>
      rw [step, delete]
      cases id.isAtomic with
      | true => rfl
      | false => rfl

/-- One step adds the query that it saves, and drops those whose number it deletes. -/
theorem mem_queries_step (s : Store) (x : StoreStep ν) (q : SavedQuery) :
    q ∈ (s.step x).queries ↔
      (∃ now name description c, x = .create now name description c ∧
        (s.create now name description c).2 = .ok q) ∨
      (q ∈ s.queries ∧ ∀ id, x = .delete id → q.hasId id = false) := by
  cases x with
  | create now name description c =>
      rw [step]
      obtain ⟨-, e, h⟩ | ⟨-, e, -, h⟩ | ⟨-, q', -, -, h⟩ := s.create_cases now name description c
      · simp [h]
      · simp [h]
      · have hmem : q ∈ s.queries ++ [q'] ↔ q' = q ∨ q ∈ s.queries := by
          rw [List.mem_append, List.mem_singleton, or_comm, eq_comm]
        simp [h, hmem]
  | get id => simp [step]
  | list => simp [step]
  | delete id =>
      rw [queries_step_delete, List.mem_filter]
      simp

/-- The queries of a store are numbered upwards, up to the last number taken. -/
structure IsNumbered (s : Store) : Prop where
  pairwise : s.queries.Pairwise (·.id < ·.id)
  le_lastId : ∀ q ∈ s.queries, q.id ≤ s.lastId

theorem IsNumbered.step (h : s.IsNumbered) (x : StoreStep ν) : (s.step x).IsNumbered := by
  cases x with
  | create now name description c =>
      rw [Store.step]
      obtain ⟨-, e, hcreate⟩ | ⟨-, e, -, hcreate⟩ | ⟨-, q, hid, -, hcreate⟩ :=
        s.create_cases now name description c
      · rw [hcreate]
        exact h
      · rw [hcreate]
        exact ⟨h.pairwise, fun q hq => Nat.le_succ_of_le (h.le_lastId q hq)⟩
      · rw [hcreate]
        constructor
        · apply List.pairwise_append.mpr
          refine ⟨h.pairwise, List.pairwise_singleton .., fun p hp q' hq' => ?_⟩
          rw [List.mem_singleton.mp hq', hid]
          exact Nat.lt_succ_of_le (h.le_lastId p hp)
        · intro p hp
          rcases List.mem_append.mp hp with hold | hnew
          · exact Nat.le_succ_of_le (h.le_lastId p hold)
          · rw [List.mem_singleton.mp hnew, hid]
  | get id => exact h
  | list => exact h
  | delete id =>
      constructor
      · rw [queries_step_delete]
        exact h.pairwise.sublist List.filter_sublist
      · intro q hq
        rw [queries_step_delete] at hq
        rw [lastId_step]
        exact Nat.le_add_right_of_le (h.le_lastId q (List.mem_filter.mp hq).1)

/-! ## Histories -/

theorem after_concat (steps : List (StoreStep ν)) (x : StoreStep ν) :
    after (steps ++ [x]) = (after steps).step x := by
  rw [after, List.foldl_append]
  rfl

theorem lastId_after (steps : List (StoreStep ν)) :
    (after steps).lastId = steps.countP StoreStep.takesNumber := by
  induction steps using List.reverseRecOn with
  | nil => rfl
  | append_singleton steps x ih =>
      rw [after_concat, lastId_step, ih, List.countP_append, List.countP_singleton]
      cases x.takesNumber <;> rfl

theorem isNumbered_after (steps : List (StoreStep ν)) : (after steps).IsNumbered := by
  induction steps using List.reverseRecOn with
  | nil => exact ⟨.nil, by simp [after]⟩
  | append_singleton steps x ih =>
      rw [after_concat]
      exact ih.step x

/-- A query is saved by the last step, or was saved before it. -/
theorem saved_concat_iff {later : List (StoreStep ν)} :
    Saved (steps ++ [x]) q later ↔
      (later = [] ∧ ∃ now name description c, x = .create now name description c ∧
        ((after steps).create now name description c).2 = .ok q) ∨
      ∃ between, later = between ++ [x] ∧ Saved steps q between := by
  constructor
  · rintro ⟨before, now, name, description, c, hsteps, hsaved⟩
    rcases concat_eq_append_cons_iff.mp hsteps with ⟨rfl, rfl, rfl⟩ | ⟨between, rfl, rfl⟩
    · exact .inl ⟨rfl, now, name, description, c, rfl, hsaved⟩
    · exact .inr ⟨between, rfl, before, now, name, description, c, rfl, hsaved⟩
  · rintro (⟨rfl, now, name, description, c, rfl, hsaved⟩ |
      ⟨between, rfl, before, now, name, description, c, rfl, hsaved⟩)
    · exact ⟨steps, now, name, description, c, rfl, hsaved⟩
    · exact ⟨before, now, name, description, c, by simp, hsaved⟩

/-- A query is live if the last step saves it, or if it was live and is not deleted now. -/
theorem live_concat_iff :
    Live (steps ++ [x]) q ↔
      (∃ now name description c, x = .create now name description c ∧
        ((after steps).create now name description c).2 = .ok q) ∨
      (Live steps q ∧ ∀ id, x = .delete id → q.hasId id = false) := by
  constructor
  · rintro ⟨later, hsaved, hkept⟩
    rcases saved_concat_iff.mp hsaved with ⟨-, hnew⟩ | ⟨between, rfl, hold⟩
    · exact .inl hnew
    · refine .inr ⟨⟨between, hold, fun id hid => ?_⟩, fun id hx => ?_⟩
      · exact hkept id (List.mem_append_left _ hid)
      · exact hkept id (by simp [hx])
  · rintro (hnew | ⟨⟨later, hold, hkept⟩, hx⟩)
    · exact ⟨[], saved_concat_iff.mpr (.inl ⟨rfl, hnew⟩), by simp⟩
    · refine ⟨later ++ [x], saved_concat_iff.mpr (.inr ⟨later, rfl, hold⟩), fun id hid => ?_⟩
      rcases List.mem_append.mp hid with hid | hid
      · exact hkept id hid
      · exact hx id (List.mem_singleton.mp hid).symm

/-- A store holds the live queries. -/
theorem mem_queries_after_iff (steps : List (StoreStep ν)) (q : SavedQuery) :
    q ∈ (after steps).queries ↔ Live steps q := by
  induction steps using List.reverseRecOn with
  | nil => simp [after, Live, Saved]
  | append_singleton steps x ih => rw [after_concat, mem_queries_step, live_concat_iff, ih]

/-- A query has the number that its step took. -/
theorem Saved.id_eq {later : List (StoreStep ν)} (h : Saved steps q later) :
    ∃ before x, steps = before ++ x :: later ∧ x.takesNumber = true ∧
      q.id = before.countP StoreStep.takesNumber + 1 := by
  obtain ⟨before, now, name, description, c, hsteps, hsaved⟩ := h
  refine ⟨before, _, hsteps, ?_⟩
  rw [← lastId_after]
  obtain ⟨-, e, hcreate⟩ | ⟨-, e, -, hcreate⟩ | ⟨hname, q', hid, -, hcreate⟩ :=
    (after before).create_cases now name description c
  · simp [hcreate] at hsaved
  · simp [hcreate] at hsaved
  · rw [hcreate] at hsaved
    obtain rfl := Except.ok.inj hsaved
    exact ⟨hname, hid⟩

/-- A query that is saved later has a greater number. -/
theorem Saved.id_lt {p : SavedQuery} {later later' : List (StoreStep ν)}
    (hp : Saved steps p later) (hq : Saved steps q later') (h : later'.length < later.length) :
    p.id < q.id := by
  obtain ⟨before, x, hsteps, hx, hid⟩ := hp.id_eq
  obtain ⟨before', y, hsteps', -, hid'⟩ := hq.id_eq
  -- what came before the later step begins with what came before the earlier one
  have hfront : before ++ [x] <+: before' := by
    have hearlier : before ++ [x] <+: steps := ⟨later, by simp [hsteps]⟩
    have hlater : before' <+: steps := ⟨y :: later', hsteps'.symm⟩
    apply List.prefix_of_prefix_length_le hearlier hlater
    have hlength := congrArg List.length (hsteps.symm.trans hsteps')
    simp only [List.length_append, List.length_cons, List.length_nil] at hlength ⊢
    omega
  have hcount := hfront.sublist.countP_le (p := StoreStep.takesNumber)
  rw [List.countP_append, List.countP_singleton, if_pos hx] at hcount
  omega

/-- Of the queries that were saved only one has a given number. -/
theorem Saved.eq_of_id_eq {p : SavedQuery} {later later' : List (StoreStep ν)}
    (hp : Saved steps p later) (hq : Saved steps q later') (h : p.id = q.id) : p = q := by
  rcases Nat.lt_trichotomy later.length later'.length with hlt | heq | hgt
  · exact absurd h (hq.id_lt hp hlt).ne'
  · obtain ⟨before, now, name, description, c, hsteps, hsaved⟩ := hp
    obtain ⟨before', now', name', description', c', hsteps', hsaved'⟩ := hq
    obtain ⟨rfl, hrest⟩ := List.append_inj' (hsteps.symm.trans hsteps') (by simp [heq])
    obtain ⟨hcreate, -⟩ := List.cons.inj hrest
    cases hcreate
    exact Except.ok.inj (hsaved.symm.trans hsaved')
  · exact absurd h (hp.id_lt hq hgt).ne

/-! ## Deleting -/

theorem removals_concat (n : ℕ) (s : Store) (steps : List (StoreStep ν)) (x : StoreStep ν) :
    removals n s (steps ++ [x]) =
      removals n s steps + ((steps.foldl step s).removes n x).toNat := by
  induction steps generalizing s with
  | nil => simp [removals]
  | cons y rest ih =>
      rw [List.cons_append, removals, removals, ih, Nat.add_assoc]
      rfl

omit [Entry ν] in
theorem removes_delete_iff (s : Store) (n : ℕ) (id : Value) :
    s.removes n (.delete id : StoreStep ν) = true ↔
      (∃ q ∈ s.queries, q.hasId id = true) ∧ id.same (.int n) = true := by
  unfold removes
  cases hatomic : id.isAtomic with
  | true => simp [delete_of_isAtomic hatomic]
  | false => simp [delete, hatomic, hasId_of_not_isAtomic hatomic]

/-- A step that deletes a number and finds it deletes the live query with that number. -/
theorem removes_after_iff {n : ℕ} :
    (after steps).removes n x = true ↔
      ∃ id q, x = .delete id ∧ Live steps q ∧ q.hasId id = true ∧ q.id = n := by
  cases x with
  | delete id =>
      rw [removes_delete_iff]
      constructor
      · rintro ⟨⟨q, hq, hid⟩, hn⟩
        have hnumber : (q.id : ℤ) = n := Value.same_int_inj hid hn
        exact ⟨id, q, rfl, (mem_queries_after_iff steps q).mp hq, hid, by omega⟩
      · rintro ⟨id', q, hx, hlive, hid, rfl⟩
        obtain rfl := StoreStep.delete.inj hx
        exact ⟨⟨q, (mem_queries_after_iff steps q).mpr hlive, hid⟩, hid⟩
  | _ => simp [removes]

theorem not_live_concat {later : List (StoreStep ν)} (hsaved : Saved steps q later)
    (hgone : ¬ Live steps q ∨ ∃ id, x = .delete id ∧ q.hasId id = true) :
    ¬ Live (steps ++ [x]) q := by
  intro hlive
  rcases live_concat_iff.mp hlive with hnew | ⟨hold, hkept⟩
  · -- the query would be saved twice, with two numbers
    have hagain : Saved (steps ++ [x]) q [] := saved_concat_iff.mpr (.inl ⟨rfl, hnew⟩)
    have hbefore : Saved (steps ++ [x]) q (later ++ [x]) :=
      saved_concat_iff.mpr (.inr ⟨later, rfl, hsaved⟩)
    exact absurd (hbefore.id_lt hagain (by simp)) (Nat.lt_irrefl _)
  · rcases hgone with hnot | ⟨id, hx, hid⟩
    · exact hnot hold
    · rw [hkept id hx] at hid
      exact absurd hid (by decide)

/-- A query goes by the step that finds and deletes its number. -/
theorem gone_concat_iff {n : ℕ} :
    Gone (steps ++ [x]) n ↔ Gone steps n ∨ (after steps).removes n x = true := by
  rw [removes_after_iff]
  constructor
  · rintro ⟨q, later, hsaved, rfl, hnot⟩
    rcases saved_concat_iff.mp hsaved with ⟨-, hnew⟩ | ⟨between, -, hold⟩
    · exact absurd (live_concat_iff.mpr (.inl hnew)) hnot
    · by_cases hlive : Live steps q
      · rw [live_concat_iff] at hnot
        push Not at hnot
        obtain ⟨id, hx, hid⟩ := hnot.2 hlive
        exact .inr ⟨id, q, hx, hlive, by simpa using hid, rfl⟩
      · exact .inl ⟨q, between, hold, rfl, hlive⟩
  · have hlonger {q : SavedQuery} {later : List (StoreStep ν)} (h : Saved steps q later) :
        Saved (steps ++ [x]) q (later ++ [x]) := saved_concat_iff.mpr (.inr ⟨later, rfl, h⟩)
    rintro (⟨q, later, hsaved, rfl, hnot⟩ | ⟨id, q, hx, ⟨later, hsaved, hkept⟩, hid, rfl⟩)
    · exact ⟨q, later ++ [x], hlonger hsaved, rfl, not_live_concat hsaved (.inl hnot)⟩
    · exact ⟨q, later ++ [x], hlonger hsaved, rfl, not_live_concat hsaved (.inr ⟨id, hx, hid⟩)⟩

/-- Nothing is deleted twice. -/
theorem not_removes_of_gone {n : ℕ} (h : Gone steps n) : (after steps).removes n x = false := by
  rw [← Bool.not_eq_true, removes_after_iff]
  rintro ⟨id, p, -, hlive, -, hp⟩
  obtain ⟨q, later, hsaved, hq, hnot⟩ := h
  have ⟨later', hsaved', _⟩ := hlive
  obtain rfl := hsaved.eq_of_id_eq hsaved' (hq.trans hp.symm)
  exact hnot hlive

theorem removals_after (n : ℕ) (steps : List (StoreStep ν)) :
    (Gone steps n → removals n {} steps = 1) ∧ (¬ Gone steps n → removals n {} steps = 0) := by
  induction steps using List.reverseRecOn with
  | nil =>
      have hnone : ¬ Gone ([] : List (StoreStep ν)) n := by simp [Gone, Saved]
      exact ⟨fun h => absurd h hnone, fun _ => rfl⟩
  | append_singleton steps x ih =>
      have hconcat := removals_concat n {} steps x
      rw [← after] at hconcat
      rw [hconcat, gone_concat_iff]
      by_cases hgone : Gone steps n
      · rw [ih.1 hgone, not_removes_of_gone hgone]
        simp [hgone]
      · rw [ih.2 hgone]
        cases (after steps).removes n x <;> simp [hgone]

end Store

/-! ## Listing -/

namespace SavedQuery

variable {p q r : SavedQuery}

theorem isBefore_iff : p.isBefore q = true ↔
    p.createdAt < q.createdAt ∨ (p.createdAt = q.createdAt ∧ p.id ≤ q.id) := by
  simp [isBefore]

theorem isBefore_trans (hpq : p.isBefore q = true) (hqr : q.isBefore r = true) :
    p.isBefore r = true := by
  rw [isBefore_iff] at *
  rcases hpq with hpq | ⟨hpq, hid⟩
  · rcases hqr with hqr | ⟨hqr, -⟩
    · exact .inl (hpq.trans hqr)
    · exact .inl (hqr ▸ hpq)
  · rcases hqr with hqr | ⟨hqr, hid'⟩
    · exact .inl (hpq ▸ hqr)
    · exact .inr ⟨hpq.trans hqr, hid.trans hid'⟩

theorem isBefore_total (p q : SavedQuery) : (p.isBefore q || q.isBefore p) = true := by
  rw [Bool.or_eq_true, isBefore_iff, isBefore_iff]
  rcases lt_trichotomy p.createdAt q.createdAt with hlt | heq | hgt
  · exact .inl (.inl hlt)
  · rcases Nat.le_total p.id q.id with hle | hge
    · exact .inl (.inr ⟨heq, hle⟩)
    · exact .inr (.inr ⟨heq.symm, hge⟩)
  · exact .inr (.inl hgt)

theorem precedes_of_isBefore (h : p.isBefore q = true) (hne : p.id ≠ q.id) : p.Precedes q := by
  rcases isBefore_iff.mp h with hlt | ⟨heq, hle⟩
  · exact .inl hlt
  · exact .inr ⟨heq, Nat.lt_of_le_of_ne hle hne⟩

end SavedQuery

namespace Store

variable {s : Store} {q : SavedQuery}

theorem mem_list : q ∈ s.list ↔ q ∈ s.queries :=
  (List.mergeSort_perm s.queries SavedQuery.isBefore).mem_iff

theorem IsNumbered.pairwise_list (h : s.IsNumbered) : s.list.Pairwise fun p q => p.id ≠ q.id := by
  have hqueries : s.queries.Pairwise fun p q => p.id ≠ q.id := h.pairwise.imp fun hlt => hlt.ne
  have hperm := List.mergeSort_perm s.queries SavedQuery.isBefore
  exact (hperm.pairwise_iff Ne.symm).mpr hqueries

theorem IsNumbered.list_sorted (h : s.IsNumbered) : s.list.Pairwise SavedQuery.Precedes := by
  have hsorted : s.list.Pairwise fun p q => p.isBefore q = true :=
    @List.pairwise_mergeSort _ SavedQuery.isBefore (fun _ _ _ => SavedQuery.isBefore_trans)
      SavedQuery.isBefore_total s.queries
  -- no two queries in the list have one number, so the order is strict
  exact (hsorted.and h.pairwise_list).imp fun hpq => SavedQuery.precedes_of_isBefore hpq.1 hpq.2

/-! ## Looking up -/

theorem IsNumbered.eq_of_hasId {p : SavedQuery} {id : Value} (h : s.IsNumbered)
    (hp : p ∈ s.queries) (hq : q ∈ s.queries) (hpid : p.hasId id = true)
    (hqid : q.hasId id = true) : p = q := by
  have hids : (s.queries.map SavedQuery.id).Nodup := by
    rw [List.Nodup, List.pairwise_map]
    exact h.pairwise.imp fun hlt => hlt.ne
  have hnumber : (p.id : ℤ) = q.id := Value.same_int_inj hpid hqid
  exact List.inj_on_of_nodup_map hids hp hq (by omega)

/-- A query is shown if it is held and has the number that was asked for. -/
theorem IsNumbered.get_eq_ok_iff (h : s.IsNumbered) (id : Value) (q : SavedQuery) :
    s.get id = .ok q ↔ q ∈ s.queries ∧ q.hasId id = true := by
  unfold get
  cases hatomic : id.isAtomic with
  | false => simp [hasId_of_not_isAtomic hatomic]
  | true =>
      rw [if_pos rfl]
      constructor
      · intro hget
        split at hget
        · next found hfound =>
            obtain rfl := Except.ok.inj hget
            exact ⟨List.mem_of_find?_eq_some hfound, List.find?_some hfound⟩
        · simp at hget
      · rintro ⟨hq, hid⟩
        split
        · next found hfound =>
            have hmem := List.mem_of_find?_eq_some hfound
            rw [h.eq_of_hasId hmem hq (List.find?_some hfound) hid]
        · next hnone => exact absurd hid (List.find?_eq_none.mp hnone q hq)

theorem get_missing {id : Value} (hatomic : id.isAtomic = true)
    (h : ∀ q ∈ s.queries, q.hasId id = false) : s.get id = .error (.notFound (.savedQuery id)) := by
  have hnone : s.queries.find? (SavedQuery.hasId id) = none := by
    rw [List.find?_eq_none]
    intro q hq
    rw [h q hq]
    decide
  rw [get, if_pos hatomic, hnone]

/-! ## What a store answers -/

/-- Whatever steps a store went through, it answers as they tell. -/
theorem after_reflects (steps : List (StoreStep ν)) : Reflects steps (after steps) where
  numbered now name description c hname := by
    rw [← lastId_after]
    obtain ⟨hnot, -⟩ | ⟨-, e, -, hcreate⟩ | ⟨-, q, hid, -, hcreate⟩ :=
      (after steps).create_cases now name description c
    · rw [hname] at hnot
      exact absurd hnot (by decide)
    · rw [hcreate]
      exact ⟨rfl, by simp⟩
    · rw [hcreate]
      refine ⟨rfl, fun p hp => ?_⟩
      obtain rfl := Except.ok.inj hp
      exact hid
  saved now name description c document text hname hsnapshot := by
    obtain ⟨hnot, -⟩ | ⟨-, e, hfail, -⟩ | ⟨-, q, -, hpair, hcreate⟩ :=
      (after steps).create_cases now name description c
    · rw [hname] at hnot
      exact absurd hnot (by decide)
    · rw [hsnapshot] at hfail
      simp at hfail
    · rw [hsnapshot] at hpair
      obtain ⟨hdocument, htext⟩ := Prod.mk.inj (Except.ok.inj hpair)
      exact ⟨q, by rw [hcreate], hdocument.symm, htext.symm⟩
  refused now name description c hname := by
    obtain ⟨-, e, hcreate⟩ | ⟨hyes, -⟩ | ⟨hyes, -⟩ :=
      (after steps).create_cases now name description c
    · rw [hcreate]
      exact ⟨rfl, e, rfl⟩
    · rw [hname] at hyes
      exact absurd hyes (by decide)
    · rw [hname] at hyes
      exact absurd hyes (by decide)
  failed now name description c e he := by
    obtain ⟨-, e, hcreate⟩ | ⟨-, e, -, hcreate⟩ | ⟨-, q, -, -, hcreate⟩ :=
      (after steps).create_cases now name description c
    · rw [hcreate]
    · rw [hcreate]
    · rw [hcreate] at he
      simp at he
  ascending p q later later' hp hq hlater := hp.id_lt hq hlater
  get_eq_ok_iff id q := by
    rw [(isNumbered_after steps).get_eq_ok_iff, mem_queries_after_iff]
  get_missing id hatomic hnone := by
    apply get_missing hatomic
    intro q hq
    exact hnone q ((mem_queries_after_iff steps q).mp hq)
  deleted id hatomic := by
    refine ⟨_, _, delete_of_isAtomic hatomic, ?_⟩
    simp only [List.any_eq_true, mem_queries_after_iff]
  removed n hgone := (removals_after n steps).1 hgone
  unremoved n hgone := (removals_after n steps).2 hgone
  list_nodup := by
    refine (isNumbered_after steps).pairwise_list.imp ?_
    rintro p _ hne rfl
    exact hne rfl
  mem_list_iff q := by rw [mem_list, mem_queries_after_iff]
  list_sorted := (isNumbered_after steps).list_sorted

end Store
end SelectQuery
