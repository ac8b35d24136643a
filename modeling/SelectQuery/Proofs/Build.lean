import Mathlib.Data.List.Forall2
import SelectQuery.Ids

/-!
# Running a build

A build either is refused or yields a result, and may take identifiers from the supply on
the way. The `outcome_…_eq_ok` lemmas follow a result and the supply that is left through a
build. `Yields` says that a build has a result from some supply on; `Gives` says that it has
the result from every supply and takes no identifier; `Succeeds` says that it has a result
of some kind from every supply, whatever identifiers are in it. All go through a sequence of
builds step by step.
-/

namespace SelectQuery

theorem Except.bind_eq_ok {ε α β : Type} {r : Except ε α} {f : α → Except ε β} {b : β} :
    (r >>= f) = .ok b ↔ ∃ a, r = .ok a ∧ f a = .ok b := by
  cases r with
  | error e => simp [bind, Except.bind]
  | ok a => simp [bind, Except.bind]

theorem Except.map_eq_ok {ε α β : Type} {r : Except ε α} {f : α → β} {b : β} :
    f <$> r = .ok b ↔ ∃ a, r = .ok a ∧ f a = b := by
  cases r with
  | error e => simp [Functor.map, Except.map]
  | ok a => simp [Functor.map, Except.map]

namespace Build

variable {α β : Type} {b : Build α} {f : α → Build β} {a : α} {result : β}

/-- A build has a result, from some supply on. -/
def Yields (b : Build α) (a : α) : Prop := ∃ supply left, b.outcome supply = (.ok a, left)

/-- A build has a result from every supply, and leaves the supply as it is. -/
def Gives (b : Build α) (a : α) : Prop := ∀ supply, b.outcome supply = (.ok a, supply)

/-- A build has a result of a kind from every supply. -/
def Succeeds (b : Build α) (P : α → Prop) : Prop :=
  ∀ supply, ∃ a left, b.outcome supply = (.ok a, left) ∧ P a

theorem outcome_bind (b : Build α) (f : α → Build β) (supply : IdSupply) :
    (b >>= f).outcome supply =
      match b.outcome supply with
      | (.ok a, left) => (f a).outcome left
      | (.error e, left) => (.error e, left) := by
  simp only [outcome, ExceptT.run_bind, StateT.run_bind]
  cases b.run.run supply with
  | mk found left => cases found <;> rfl

theorem outcome_ofExcept (r : Except Error α) (supply : IdSupply) :
    (ofExcept r).outcome supply = (r, supply) := by
  cases r <;> rfl

/-- Items are built one by one as if their indices were at hand. -/
theorem mapM_eq_mapM_zipIdx (f : α → Build β) (items : List α) :
    items.mapM f = items.zipIdx.mapM fun x => f x.1 := by
  have hmap : (items.zipIdx.map Prod.fst).mapM f = items.zipIdx.mapM fun x => f x.1 :=
    List.mapM_map
  rwa [List.zipIdx_map_fst] at hmap

/-! ## Results with the supply that is left -/

section Outcome

variable {supply left : IdSupply}

theorem outcome_pure_eq_ok {a' : α} :
    (pure a' : Build α).outcome supply = (.ok a, left) ↔ a' = a ∧ supply = left := by
  have hpure : (pure a' : Build α).outcome supply = (.ok a', supply) := rfl
  rw [hpure, Prod.mk.injEq, Except.ok.injEq]

theorem outcome_ofExcept_eq_ok {r : Except Error α} :
    (ofExcept r).outcome supply = (.ok a, left) ↔ r = .ok a ∧ supply = left := by
  rw [outcome_ofExcept, Prod.mk.injEq]

theorem outcome_freshId_eq_ok {kind : IdKind} {s : String} :
    (freshId kind).outcome supply = (.ok s, left) ↔
      kind.id (supply.taken + 1) = s ∧ ⟨supply.taken + 1⟩ = left := by
  have hfresh : (freshId kind).outcome supply =
      (.ok (kind.id (supply.taken + 1)), ⟨supply.taken + 1⟩) := rfl
  rw [hfresh, Prod.mk.injEq, Except.ok.injEq]

theorem outcome_bind_eq_ok :
    (b >>= f).outcome supply = (.ok result, left) ↔
      ∃ a between, b.outcome supply = (.ok a, between) ∧
        (f a).outcome between = (.ok result, left) := by
  rw [outcome_bind]
  constructor
  · intro h
    split at h
    · next a between hb => exact ⟨a, between, hb, h⟩
    · simp at h
  · rintro ⟨a, between, hb, hf⟩
    rw [hb]
    exact hf

end Outcome

/-! ## What a build yields -/

theorem Yields.pure_eq {a' : α} (h : Yields (pure a' : Build α) a) : a = a' := by
  obtain ⟨supply, left, h⟩ := h
  have hpure : (pure a' : Build α).outcome supply = (.ok a', supply) := rfl
  rw [hpure, Prod.mk.injEq, Except.ok.injEq] at h
  exact h.1.symm

theorem Yields.ofExcept_eq {r : Except Error α} (h : Yields (ofExcept r) a) : r = .ok a := by
  obtain ⟨supply, left, h⟩ := h
  rw [outcome_ofExcept, Prod.mk.injEq] at h
  exact h.1

theorem Yields.bind (h : Yields (b >>= f) result) :
    ∃ a, Yields b a ∧ Yields (f a) result := by
  obtain ⟨supply, left, h⟩ := h
  rw [outcome_bind] at h
  split at h
  · next a between hb => exact ⟨a, ⟨supply, between, hb⟩, ⟨between, left, h⟩⟩
  · next hb => simp at h

/-- The first step of a sequence may be something that takes no identifier. -/
theorem Yields.bind_ofExcept {r : Except Error α} (h : Yields (ofExcept r >>= f) result) :
    ∃ a, r = .ok a ∧ Yields (f a) result := by
  obtain ⟨a, hr, hf⟩ := h.bind
  exact ⟨a, hr.ofExcept_eq, hf⟩

theorem Yields.freshId_eq {kind : IdKind} {s : String} (h : Yields (freshId kind) s) :
    ∃ n, s = kind.id n := by
  obtain ⟨supply, left, h⟩ := h
  have hfresh : (freshId kind).outcome supply =
      (.ok (kind.id (supply.taken + 1)), ⟨supply.taken + 1⟩) := rfl
  rw [hfresh, Prod.mk.injEq, Except.ok.injEq] at h
  exact ⟨supply.taken + 1, h.1.symm⟩

theorem Yields.mem_mapM {items : List α} {results : List β} (h : Yields (items.mapM f) results) :
    ∀ y ∈ results, ∃ x ∈ items, Yields (f x) y := by
  induction items generalizing results with
  | nil =>
      obtain rfl := h.pure_eq
      simp
  | cons x items ih =>
      rw [List.mapM_cons] at h
      obtain ⟨y, hy, h⟩ := h.bind
      obtain ⟨ys, hys, h⟩ := h.bind
      obtain rfl := h.pure_eq
      intro z hz
      -- each result comes from an item of its own, whatever supply that item was built from
      rcases List.mem_cons.mp hz with rfl | hz
      · exact ⟨x, List.mem_cons_self .., hy⟩
      · obtain ⟨w, hw, hwz⟩ := ih hys z hz
        exact ⟨w, List.mem_cons_of_mem x hw, hwz⟩

/-! ## What a build gives -/

theorem Gives.pure (a : α) : Gives (pure a : Build α) a := fun _ => rfl

theorem Gives.ofExcept {r : Except Error α} (h : r = .ok a) : Gives (ofExcept r) a :=
  fun supply => by rw [outcome_ofExcept, h]

theorem Gives.bind (hb : Gives b a) (hf : Gives (f a) result) : Gives (b >>= f) result := by
  intro supply
  -- `b` hands on the supply it was given, so `f a` starts from it too
  rw [outcome_bind, hb supply]
  exact hf supply

/-- A sequence goes on behind something that takes no identifier. -/
theorem Gives.bind_ofExcept {r : Except Error α} (hr : r = .ok a) (hf : Gives (f a) result) :
    Gives (Build.ofExcept r >>= f) result :=
  (Gives.ofExcept hr).bind hf

/-- Items are built back from what they were turned into, with the index of each at hand. -/
theorem Gives.mapM_zipIdx {items : List α} {write : α → β} {read : β × Nat → Build α}
    (h : ∀ x ∈ items, ∀ i, Gives (read (write x, i)) x) (start : Nat) :
    Gives (((items.map write).zipIdx start).mapM read) items := by
  induction items generalizing start with
  | nil => exact Gives.pure []
  | cons x items ih =>
      rw [List.map_cons, List.zipIdx_cons, List.mapM_cons]
      exact (h x (List.mem_cons_self ..) start).bind
        ((ih (fun y hy => h y (List.mem_cons_of_mem x hy)) (start + 1)).bind (Gives.pure _))

theorem Gives.mapM {items : List α} {write : α → β} {read : β → Build α}
    (h : ∀ x ∈ items, Gives (read (write x)) x) : Gives ((items.map write).mapM read) items := by
  rw [mapM_eq_mapM_zipIdx]
  exact Gives.mapM_zipIdx (fun x hx _ => h x hx) 0

/-! ## What a build succeeds in -/

section Succeeds

variable {P : α → Prop} {Q : β → Prop} {R : α → β → Prop}

theorem Succeeds.pure (h : P a) : Succeeds (pure a : Build α) P :=
  fun supply => ⟨a, supply, rfl, h⟩

theorem Succeeds.ofExcept {r : Except Error α} (hr : r = .ok a) (h : P a) :
    Succeeds (ofExcept r) P :=
  fun supply => ⟨a, supply, by rw [outcome_ofExcept, hr], h⟩

theorem Succeeds.freshId {kind : IdKind} {P : String → Prop} (h : ∀ n, P (kind.id n)) :
    Succeeds (freshId kind) P :=
  fun supply => ⟨_, _, rfl, h (supply.taken + 1)⟩

theorem Succeeds.bind (hb : Succeeds b P) (hf : ∀ a, P a → Succeeds (f a) Q) :
    Succeeds (b >>= f) Q := by
  intro supply
  obtain ⟨a, between, hfirst, ha⟩ := hb supply
  obtain ⟨result, left, hrest, hresult⟩ := hf a ha between
  exact ⟨result, left, by rw [outcome_bind, hfirst]; exact hrest, hresult⟩

/-- A sequence goes on behind something that takes no identifier. -/
theorem Succeeds.bind_ofExcept {r : Except Error α} (hr : r = .ok a) (hf : Succeeds (f a) Q) :
    Succeeds (Build.ofExcept r >>= f) Q :=
  (Succeeds.ofExcept (P := (· = a)) hr rfl).bind fun _ ha => ha ▸ hf

/-- Items are built one by one from what they were turned into, with the index of each at
hand. -/
theorem Succeeds.mapM_zipIdx {γ : Type} {items : List α} {write : α → γ}
    {read : γ × Nat → Build β} (h : ∀ x ∈ items, ∀ i, Succeeds (read (write x, i)) (R x))
    (start : Nat) :
    Succeeds (((items.map write).zipIdx start).mapM read) (List.Forall₂ R items) := by
  induction items generalizing start with
  | nil => exact Succeeds.pure .nil
  | cons x items ih =>
      rw [List.map_cons, List.zipIdx_cons, List.mapM_cons]
      refine (h x (List.mem_cons_self ..) start).bind fun y hy => ?_
      refine (ih (fun z hz => h z (List.mem_cons_of_mem x hz)) (start + 1)).bind fun ys hys => ?_
      exact Succeeds.pure (.cons hy hys)

theorem Succeeds.mapM {γ : Type} {items : List α} {write : α → γ} {read : γ → Build β}
    (h : ∀ x ∈ items, Succeeds (read (write x)) (R x)) :
    Succeeds ((items.map write).mapM read) (List.Forall₂ R items) := by
  rw [mapM_eq_mapM_zipIdx]
  exact Succeeds.mapM_zipIdx (fun x hx _ => h x hx) 0

end Succeeds

end Build
end SelectQuery
