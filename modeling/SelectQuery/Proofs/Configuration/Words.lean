import SelectQuery.Proofs.Configuration.Respelled

/-!
# Words of a document

Five kinds of field in the document of a configuration take a word from a closed list: the
function of a column, the type of a join, the operator and the connector of a condition, and
the direction of an ordering. `Value.words` gathers what stands in them, in the order in which
it is read. A field that is missing or null has no word. Nor has an empty function or
connector, while an empty type, operator or direction is a word that is in no list.

`Decided` says how words decide on a result: it is there if every word is in its list, and
otherwise the first that is not is refused. In a sequence of builds the words of the second
come after those of the first (`Build.Decides.bind`), so that what decides on a whole document
is found one entry after the other.
-/

namespace SelectQuery

/-- A word as it was entered in a field, with the list that it has to be in. -/
structure Word where
  kind : String
  members : List String
  path : String
  entered : Value

namespace Word

def of (τ : Type) [Term τ] (path : String) (v : Value) : Word :=
  ⟨Term.kind τ, Term.words τ, path, v⟩

/-- A word is in its list, whatever its case and the blanks around it. -/
def IsKnown (w : Word) : Prop := Text.upper (Text.trimmed w.entered.display) ∈ w.members

instance (w : Word) : Decidable w.IsKnown := inferInstanceAs (Decidable (_ ∈ _))

/-- What is said about a word that is not in its list. -/
def refusal (w : Word) : Error :=
  .configuration (.unknownTerm w.kind w.entered.display w.members) w.path

end Word

/-! ## The words of a document -/

namespace Value

/-- What is found in a field of an object. -/
def lookup? (keys : List String) : Value → Option Value
  | .object fields => found fields keys
  | _ => none

@[simp] theorem lookup?_object (keys : List String) (fields : List (String × Value)) :
    (Value.object fields).lookup? keys = found fields keys := rfl

def columnWords (path : String) (v : Value) : List Word :=
  ((v.lookup? ["aggregateFunction", "aggregate_function", "function"]).filter
    isPresent).toList.map (Word.of AggregateFunction (path ++ ".aggregateFunction"))

def joinWords (path : String) (v : Value) : List Word :=
  (v.lookup? ["joinType", "join_type", "type"]).toList.map
    (Word.of JoinType (path ++ ".joinType"))

def conditionWords (path : String) (v : Value) : List Word :=
  (v.lookup? ["operator"]).toList.map (Word.of ConditionOperator (path ++ ".operator")) ++
    ((v.lookup? ["logicalOperator", "logical_operator"]).filter isPresent).toList.map
      (Word.of LogicalOperator (path ++ ".logicalOperator"))

def orderingWords (path : String) (v : Value) : List Word :=
  (v.lookup? ["direction"]).toList.map (Word.of OrderDirection (path ++ ".direction"))

/-- The words in the entries of a list, which are numbered in their paths. -/
def entryWords (name : String) (words : String → Value → List Word) (items : List Value) :
    List Word :=
  items.zipIdx.flatMap fun (x, i) => words (itemPath name i) x

/-- The items of a field; none if there is nothing that has items. -/
def listed (v : Option Value) : List Value := (v.bind items?).getD []

/-- The words of a configuration, in the order in which they are read. -/
def words (v : Value) : List Word :=
  entryWords "selectedColumns" columnWords
      (listed (v.lookup? ["selectedColumns", "selected_columns"])) ++
    (entryWords "joins" joinWords (listed ((v.lookup? ["joins"]).filter isPresent)) ++
      (entryWords "conditions" conditionWords
          (listed ((v.lookup? ["conditions"]).filter isPresent)) ++
        entryWords "orderBy" orderingWords (listed (v.lookup? ["orderBy", "order_by"]))))

end Value

/-! ## What words decide -/

section Decided

variable {α β : Type} {P : α → Prop} {Q : β → Prop} {ws vs : List Word}

/-- A result of a kind, where every word is in its list, or the refusal of the first word that
is not. -/
inductive Decided (P : α → Prop) (ws : List Word) : Except Error α → Prop
  | done {a : α} (hknown : ∀ w ∈ ws, w.IsKnown) (h : P a) : Decided P ws (.ok a)
  | refused {before after : List Word} {w : Word} (hws : ws = before ++ w :: after)
      (hbefore : ∀ u ∈ before, u.IsKnown) (hw : ¬ w.IsKnown) : Decided P ws (.error w.refusal)

namespace Decided

variable {r : Except Error α} {f : α → Except Error β}

/-- A result that no word decides on. -/
theorem ok {a : α} (h : P a) : Decided P [] (.ok a) := .done (by simp) h

theorem bind (hr : Decided P ws r) (hf : ∀ a, P a → Decided Q vs (f a)) :
    Decided Q (ws ++ vs) (r >>= f) := by
  cases hr with
  | refused hws hbefore hw =>
      subst hws
      exact .refused (List.append_assoc ..) hbefore hw
  | @done a hknown h =>
      have hrest := hf a h
      change Decided Q (ws ++ vs) (f a)
      generalize f a = s at hrest ⊢
      cases hrest with
      | done hrest hb => exact .done (List.forall_mem_append.mpr ⟨hknown, hrest⟩) hb
      | @refused before after w hvs hbefore hw =>
          have hcut : ws ++ vs = (ws ++ before) ++ w :: after := by rw [hvs, List.append_assoc]
          exact .refused hcut (List.forall_mem_append.mpr ⟨hknown, hbefore⟩) hw

/-- What comes after the last word. -/
theorem bind_last (hr : Decided P ws r) (hf : ∀ a, P a → Decided Q [] (f a)) :
    Decided Q ws (r >>= f) := by simpa using hr.bind hf

theorem map {f : α → β} (hr : Decided P ws r) (hf : ∀ a, P a → Q (f a)) :
    Decided Q ws (f <$> r) := by
  cases hr with
  | done hknown h => exact .done hknown (hf _ h)
  | refused hws hbefore hw => exact .refused hws hbefore hw

/-- An error comes from the first word that is not in its list. -/
theorem error_iff (hr : Decided P ws r) : (∃ e, r = .error e) ↔ ∃ w ∈ ws, ¬ w.IsKnown := by
  cases hr with
  | done hknown h => simpa using hknown
  | refused hws hbefore hw =>
      subst hws
      exact iff_of_true ⟨_, rfl⟩ ⟨_, by simp, hw⟩

theorem refusal_of_error {e : Error} (hr : Decided P ws (.error e)) :
    ∃ before w after, ws = before ++ w :: after ∧ (∀ u ∈ before, u.IsKnown) ∧
      ¬ w.IsKnown ∧ e = w.refusal := by
  cases hr with
  | refused hws hbefore hw => exact ⟨_, _, _, hws, hbefore, hw, rfl⟩

end Decided

namespace Build

variable {b : Build α} {f : α → Build β}

/-- From every supply, words decide on what comes of a build. -/
def Decides (b : Build α) (ws : List Word) (P : α → Prop) : Prop :=
  ∀ supply, Decided P ws (b.outcome supply).1

namespace Decides

theorem pure {a : α} (h : P a) : Decides (pure a : Build α) [] P := fun _ => .ok h

theorem ofExcept {r : Except Error α} (h : Decided P ws r) : Decides (ofExcept r) ws P :=
  fun supply => by rwa [outcome_ofExcept]

theorem freshId (kind : IdKind) : Decides (freshId kind) [] fun _ => True :=
  fun _ => .ok trivial

theorem bind (hb : Decides b ws P) (hf : ∀ a, P a → Decides (f a) vs Q) :
    Decides (b >>= f) (ws ++ vs) Q := by
  intro supply
  have hfirst := hb supply
  rw [outcome_bind]
  generalize b.outcome supply = found at hfirst
  obtain ⟨r, left⟩ := found
  -- the rest of the sequence starts from the supply that the first build leaves
  have hrest : Decided Q (ws ++ vs) (r >>= fun a => ((f a).outcome left).1) :=
    hfirst.bind fun a ha => hf a ha left
  cases r with
  | ok a => exact hrest
  | error e => exact hrest

/-- A sequence goes on behind something that has no words. -/
theorem bind_nil (hb : Decides b [] P) (hf : ∀ a, P a → Decides (f a) vs Q) :
    Decides (b >>= f) vs Q := hb.bind hf

theorem bind_last (hb : Decides b ws P) (hf : ∀ a, P a → Decides (f a) [] Q) :
    Decides (b >>= f) ws Q := by simpa using hb.bind hf

theorem mapM {items : List α} {words : α → List Word}
    (h : ∀ x ∈ items, Decides (f x) (words x) Q) :
    Decides (items.mapM f) (items.flatMap words) fun ys => ∀ y ∈ ys, Q y := by
  induction items with
  | nil => exact pure (by simp)
  | cons x items ih =>
      rw [List.mapM_cons, List.flatMap_cons]
      refine (h x (List.mem_cons_self ..)).bind fun y hy => ?_
      refine (ih fun z hz => h z (List.mem_cons_of_mem x hz)).bind_last fun ys hys => ?_
      exact pure (List.forall_mem_cons.mpr ⟨hy, hys⟩)

theorem mapM_nil {items : List α} (h : ∀ x ∈ items, Decides (f x) [] Q) :
    Decides (items.mapM f) [] fun ys => ∀ y ∈ ys, Q y := by
  have hall : Decides (items.mapM f) (items.flatMap fun _ => []) fun ys => ∀ y ∈ ys, Q y :=
    mapM h
  rwa [List.flatMap_eq_nil_iff.mpr fun _ _ => rfl] at hall

/-- The entries of a list are read with their paths. -/
theorem entries {name : String} {words : String → Value → List Word} {items : List Value}
    {f : Value × ℕ → Build β}
    (h : ∀ x ∈ items, ∀ i, Decides (f (x, i)) (words (itemPath name i) x) Q) :
    Decides (items.zipIdx.mapM f) (Value.entryWords name words items) fun ys => ∀ y ∈ ys, Q y :=
  mapM fun ⟨x, i⟩ hx => h x ((List.mem_zipIdx' hx).2 ▸ List.getElem_mem _) i

end Decides
end Build
end Decided

/-! ## Reading a word -/

theorem Term.isSome_ofText?_iff {τ : Type} [Term τ] {s : String} :
    (Term.ofText? s : Option τ).isSome = true ↔ Text.upper (Text.trimmed s) ∈ Term.words τ := by
  simp [Term.ofText?, Term.named?, Term.words, List.find?_isSome]

/-- A word that has to be entered, or else is known. -/
theorem decided_ofValue (τ : Type) [Term τ] (v : Value) (path : String) :
    Decided (fun _ => True) [.of τ path v] (Term.ofValue τ v path) := by
  have hmem := Term.isSome_ofText?_iff (τ := τ) (s := v.display)
  unfold Term.ofValue
  split
  · next t ht =>
      rw [ht] at hmem
      exact .done (List.forall_mem_singleton.mpr (hmem.mp rfl)) trivial
  · next ht =>
      rw [ht] at hmem
      have hunknown : ¬ (Word.of τ path v).IsKnown := fun hknown => by simpa using hmem.mpr hknown
      exact .refused (List.nil_append [Word.of τ path v]).symm (by simp) hunknown

/-- A field that falls back on a term. -/
theorem decided_ofValue_getD (τ : Type) [Term τ] {default : Value} (t : τ)
    (hdefault : Term.ofText? default.display = some t) (v : Option Value) (path : String) :
    Decided (fun _ => True) (v.toList.map (.of τ path))
      (Term.ofValue τ (v.getD default) path) := by
  cases v with
  | some v => exact decided_ofValue τ v path
  | none =>
      rw [Option.getD_none, Term.ofValue, hdefault]
      exact .ok trivial

/-- A field that may stay empty. -/
theorem decided_ofPresent (τ : Type) [Term τ] (v : Option Value) (path : String) :
    Decided (fun _ => True) ((v.filter Value.isPresent).toList.map (.of τ path))
      (Term.ofPresent τ v path) := by
  cases v with
  | none => exact .ok trivial
  | some v =>
      cases hv : v.isPresent with
      | true =>
          simp only [Term.ofPresent, hv, if_true, Option.filter]
          exact (decided_ofValue τ v path).map fun _ _ => trivial
      | false =>
          simp only [Term.ofPresent, hv, Option.filter]
          exact .ok trivial

end SelectQuery
