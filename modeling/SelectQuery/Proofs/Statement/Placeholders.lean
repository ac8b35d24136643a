import SelectQuery.Dialect.Adaptation
import SelectQuery.Proofs.Number.Digits
import SelectQuery.Proofs.Statement.Layout

/-!
# Placeholders in a statement

The text of a bound statement is searched for placeholders, a colon and the name of a
parameter. Those of the values that are handed over are among them. All else that a user wrote
is copied into the same text as it is: paths and expressions, names of tables, operators, and
the value of a membership test that is no list of literals. What reads like a placeholder there
is found as well (`Merged`). So nothing else is found exactly if the text without the value
parts that are handed over spells none (`prepare_placeholders`).

No placeholder reaches over a blank or a comma, so that a text is searched part by part
(`placeholdersIn_separated`).
-/

namespace SelectQuery

open Text Entry

/-! ## What is stated -/

/-- The names of the placeholders in a text. -/
def placeholdersIn (s : String) : List String := placeholderNames s.toList

/-- What is found are some keys, in their order, and some others among them. -/
structure Merged (found keys others : List String) : Prop where
  sublist : keys.Sublist found
  perm : found.Perm (keys ++ others)

/-- A value part that is written out. -/
def Operand.isWritten : Operand → Bool
  | .written _ => true
  | .bound .. => false

/-- A condition without a value part that is handed over. -/
def Predicate.unbound (p : Predicate) : Predicate :=
  { p with operand := p.operand.filter Operand.isWritten }

variable {ν : Type} [Entry ν]

def Item.unbound : Item ν → Item ν
  | .entry v => .entry v
  | .predicate p => .predicate p.unbound

def Clause.unbound (c : Clause ν) : Clause ν := { c with items := c.items.map Item.unbound }

/-- A statement without the value parts that are handed over. -/
def Statement.unbound (s : Statement ν) : Statement ν :=
  { s with clauses := s.clauses.map Clause.unbound }

/-! ## Searching a text part by part -/

/-- A character that no name goes on over. -/
def endsName (c : Char) : Bool := !isWord c && !isDigit c

theorem placeholderName?_append (front : List Char) {back : List Char}
    (hback : ∀ c ∈ back.head?, endsName c = true) :
    placeholderName? (front ++ back) = placeholderName? front := by
  have hword : ∀ c ∈ back.head?, isWord c = false := fun c h => by
    simpa [endsName] using (Bool.and_eq_true_iff.mp (hback c h)).1
  have hdigit : ∀ c ∈ back.head?, isDigit c = false := fun c h => by
    simpa [endsName] using (Bool.and_eq_true_iff.mp (hback c h)).2
  cases front with
  | nil =>
      cases back with
      | nil => rfl
      | cons c back =>
          have hc : c ≠ 'p' := by
            rintro rfl
            exact absurd (hword 'p' rfl) (by decide)
          simp [placeholderName?, hc]
  | cons c front =>
      by_cases hc : c = 'p'
      · subst hc
        have hends : (((front.dropWhile isDigit) ++ back).head?.map isWord).getD false =
            ((front.dropWhile isDigit).head?.map isWord).getD false := by
          cases front.dropWhile isDigit with
          | cons d rest => rfl
          | nil =>
              cases back with
              | nil => rfl
              | cons d back => exact hword d rfl
        simp only [List.cons_append, placeholderName?, takeWhile_append_of_head front hdigit,
          dropWhile_append_of_head front hdigit, hends]
      · simp [placeholderName?, hc]

theorem placeholderNames_append (front : List Char) {back : List Char}
    (hback : ∀ c ∈ back.head?, endsName c = true) :
    placeholderNames (front ++ back) = placeholderNames front ++ placeholderNames back := by
  induction front with
  | nil => rfl
  | cons c front ih =>
      rw [List.cons_append, placeholderNames, placeholderNames, ih,
        placeholderName?_append front hback]
      split
      · rw [List.append_assoc]
      · rfl

/-- Without a colon there is no placeholder. -/
theorem placeholderNames_of_notMem {front : List Char} (hfront : ':' ∉ front)
    (back : List Char) : placeholderNames (front ++ back) = placeholderNames back := by
  induction front with
  | nil => rfl
  | cons c front ih =>
      rw [List.mem_cons, not_or] at hfront
      rw [List.cons_append, placeholderNames, if_neg (by simpa using Ne.symm hfront.1), ih hfront.2]

theorem placeholdersIn_eq_nil {s : String} (h : ':' ∉ s.toList) : placeholdersIn s = [] := by
  rw [placeholdersIn, ← List.append_nil s.toList, placeholderNames_of_notMem h]
  rfl

/-- Something between two parts of a text that no placeholder reaches over. -/
def separates (sep : String) : Bool :=
  sep.toList.head?.any endsName && !sep.toList.contains ':'

theorem placeholdersIn_separated {sep : String} (hsep : separates sep = true) (a b : String) :
    placeholdersIn (a ++ sep ++ b) = placeholdersIn a ++ placeholdersIn b := by
  obtain ⟨hhead, hcolon⟩ := Bool.and_eq_true_iff.mp hsep
  have hback : ∀ c ∈ (sep.toList ++ b.toList).head?, endsName c = true := by
    cases hchars : sep.toList with
    | nil => simp [hchars] at hhead
    | cons c rest => simpa [hchars] using hhead
  rw [placeholdersIn, String.toList_append, String.toList_append, List.append_assoc,
    placeholderNames_append _ hback, placeholderNames_of_notMem (by simpa using hcolon)]
  rfl

theorem placeholdersIn_intercalate {sep : String} (hsep : separates sep = true)
    (parts : List String) :
    placeholdersIn (sep.intercalate parts) = parts.flatMap placeholdersIn := by
  induction parts with
  | nil => exact placeholdersIn_eq_nil (by simp)
  | cons part parts ih =>
      cases parts with
      | nil => simp
      | cons next parts =>
          rw [String.intercalate_cons_cons, placeholdersIn_separated hsep, ih]
          rfl

theorem placeholdersIn_placeholder (n : ℕ) :
    placeholdersIn (placeholder n) = [parameterName n] := by
  have hcolon : ':' ∉ 'p' :: (toString n).toList := by
    intro hmem
    rcases List.mem_cons.mp hmem with hp | hmem
    · exact absurd hp (by decide)
    · exact absurd (isDigit_of_mem_toString hmem) (by decide)
  have hdigit : ∀ c ∈ (toString n).toList, isDigit c = true := fun _ hc =>
    isDigit_of_ascii (isDigit_of_mem_toString hc)
  have htake : (toString n).toList.takeWhile isDigit = (toString n).toList :=
    List.takeWhile_eq_self_iff.mpr hdigit
  have hdrop : (toString n).toList.dropWhile isDigit = [] := List.dropWhile_eq_nil_iff.mpr hdigit
  have hne : (toString n).toList.isEmpty = false := by
    rw [toList_toString, List.isEmpty_eq_false_iff]
    exact Nat.toDigits_ne_nil
  have hname : placeholderName? ('p' :: (toString n).toList) = some (parameterName n) := by
    simp only [placeholderName?, htake, hdrop, hne]
    simp [parameterName, ← String.toList_inj]
  have hchars : (placeholder n).toList = ':' :: 'p' :: (toString n).toList := by
    simp [placeholder, parameterName]
  rw [placeholdersIn, hchars, placeholderNames, if_pos (by decide), hname,
    ← List.append_nil ('p' :: _), placeholderNames_of_notMem hcolon]
  rfl

/-! ## Merging -/

namespace Merged

variable {found keys others found' keys' others' : List String}

theorem of_others (others : List String) : Merged others [] others :=
  ⟨List.nil_sublist _, .refl _⟩

theorem of_append (others keys : List String) : Merged (others ++ keys) keys others :=
  ⟨List.sublist_append_right .., List.perm_append_comm⟩

theorem append (h : Merged found keys others) (h' : Merged found' keys' others') :
    Merged (found ++ found') (keys ++ keys') (others ++ others') where
  sublist := h.sublist.append h'.sublist
  perm := by
    have hswap : (others ++ (keys' ++ others')).Perm (keys' ++ (others ++ others')) := by
      rw [← List.append_assoc, ← List.append_assoc]
      exact List.perm_append_comm.append_right others'
    calc (found ++ found').Perm ((keys ++ others) ++ (keys' ++ others')) := h.perm.append h'.perm
      _ = keys ++ (others ++ (keys' ++ others')) := List.append_assoc ..
      List.Perm _ (keys ++ (keys' ++ (others ++ others'))) := hswap.append_left keys
      _ = (keys ++ keys') ++ (others ++ others') := (List.append_assoc ..).symm

theorem flatMap {α : Type} {f g h : α → List String} {xs : List α}
    (hmerged : ∀ x ∈ xs, Merged (f x) (g x) (h x)) :
    Merged (xs.flatMap f) (xs.flatMap g) (xs.flatMap h) := by
  induction xs with
  | nil => exact of_others []
  | cons x xs ih =>
      exact (hmerged x (List.mem_cons_self ..)).append
        (ih fun y hy => hmerged y (List.mem_cons_of_mem x hy))

/-- Nothing but the keys is found if there is nothing else. -/
theorem eq_keys_iff (h : Merged found keys others) : found = keys ↔ others = [] := by
  have hlength := h.perm.length_eq
  rw [List.length_append] at hlength
  constructor
  · rintro rfl
    exact List.eq_nil_of_length_eq_zero (by omega)
  · rintro rfl
    exact (h.sublist.eq_of_length (by simpa using hlength.symm)).symm

end Merged

/-! ## Conditions -/

/-- The placeholders of a value part that is handed over are found in it. -/
theorem Shaped.flatMap_placeholdersIn {op : ConditionOperator} {names : List String}
    {text? : Option String} (h : Shaped op names text?) :
    (text?.map placeholdersIn).getD [] = names.flatMap placeholdersIn := by
  cases h with
  | absent => rfl
  | list hop hnames =>
      have hparentheses : "(" ++ ", ".intercalate names ++ ")" =
          "" ++ "(" ++ ", ".intercalate names ++ ")" ++ "" := by simp
      rw [Option.map_some, Option.getD_some, hparentheses, placeholdersIn_separated (by decide),
        placeholdersIn_separated (by decide), placeholdersIn_intercalate (by decide)]
      simp [placeholdersIn_eq_nil]
  | range hop =>
      rw [Option.map_some, Option.getD_some, placeholdersIn_separated (by decide)]
      simp
  | single hop => simp

theorem placeholdersIn_placeholders (first count : ℕ) :
    (placeholders first count).flatMap placeholdersIn =
      (List.range' first count).map parameterName := by
  simp only [placeholders, List.flatMap_map, placeholdersIn_placeholder]
  exact List.flatMap_pure_eq_map ..

/-- The value part stands behind the rest of a condition. -/
theorem Predicate.placeholdersIn_text (p : Predicate) : placeholdersIn p.text =
    placeholdersIn ({ p with operand := none } : Predicate).text ++
      ((p.operand.map Operand.text).map placeholdersIn).getD [] := by
  obtain ⟨connector, column, operator, operand⟩ := p
  cases operand with
  | none => simp
  | some v =>
      have htext (front : String) : placeholdersIn (front ++ (" " ++ v.text)) =
          placeholdersIn (front ++ "") ++ placeholdersIn v.text := by
        rw [← String.append_assoc, placeholdersIn_separated (by decide), String.append_empty]
      exact htext _

namespace Configuration

variable (c : Configuration String)

theorem merged_predicate (isFirst : Bool) (start : ℕ) (x : Condition String) :
    Merged (placeholdersIn (c.predicate .bound isFirst start x).text)
      ((List.range' start (x.bindings .bound).length).map parameterName)
      (placeholdersIn (c.predicate .bound isFirst start x).unbound.text) := by
  cases hbound : x.isBound with
  | false =>
      have hunbound : (c.predicate .bound isFirst start x).unbound =
          c.predicate .bound isFirst start x := by
        rw [Predicate.unbound, predicate, Condition.operand?_of_not_isBound hbound start start,
          Condition.operand?, if_pos x.isInline_preview]
        cases Literal.format x.operator.term? (chars x.value) <;> rfl
      rw [hunbound, Condition.bindings_bound, hbound]
      exact .of_others _
  | true =>
      cases hop : x.operator with
      | verbatim s => simp [Condition.isBound, hop] at hbound
      | term op =>
          have hoperand : (x.operand? .bound start).filter Operand.isWritten = none := by
            rw [Condition.operand?_of_isBound hbound hop]
            split <;> rfl
          have hunbound : (c.predicate .bound isFirst start x).unbound =
              { c.predicate .bound isFirst start x with operand := none } :=
            congrArg (Predicate.mk _ _ _) hoperand
          have hshaped := Condition.shaped_operand? hbound hop start
          rw [hunbound, Predicate.placeholdersIn_text, Condition.bindings_bound, if_pos hbound,
            ← placeholdersIn_placeholders, ← hshaped.flatMap_placeholdersIn]
          exact .of_append ..

theorem merged_predicates (isFirst : Bool) (start : ℕ) (xs : List (Condition String)) :
    Merged ((c.predicates .bound isFirst start xs).flatMap (placeholdersIn ·.text))
      ((List.range' start (xs.flatMap (Condition.bindings .bound)).length).map parameterName)
      ((c.predicates .bound isFirst start xs).flatMap (placeholdersIn ·.unbound.text)) := by
  induction xs generalizing isFirst start with
  | nil => exact .of_others []
  | cons x xs ih =>
      rw [predicates, List.flatMap_cons, List.flatMap_cons, List.flatMap_cons, List.length_append,
        ← List.range'_append_1, List.map_append]
      exact (c.merged_predicate isFirst start x).append (ih ..)

/-! ## Clauses -/

theorem placeholdersIn_where (items : List Predicate) :
    (clauseOf .where "WHERE" (items.map .predicate) " " : List (Clause String)).flatMap
      (placeholdersIn ·.text) = items.flatMap (placeholdersIn ·.text) := by
  have htext : (⟨.where, "WHERE", items.map .predicate, " ", false⟩ : Clause String).text =
      "WHERE" ++ " " ++ " ".intercalate (items.map Predicate.text) := by
    simp only [Clause.text, List.map_map]
    rfl
  have hclause : placeholdersIn
      (⟨.where, "WHERE", items.map .predicate, " ", false⟩ : Clause String).text =
        items.flatMap (placeholdersIn ·.text) := by
    rw [htext, placeholdersIn_separated (by decide), placeholdersIn_intercalate (by decide),
      placeholdersIn_eq_nil (by decide), List.flatMap_map]
    rfl
  cases items with
  | nil => rfl
  | cons p items => exact (List.flatMap_singleton ..).trans hclause

theorem unbound_where (items : List Predicate) :
    (clauseOf .where "WHERE" (items.map .predicate) " " : List (Clause String)).map Clause.unbound =
      clauseOf .where "WHERE" ((items.map Predicate.unbound).map .predicate) " " := by
  cases items with
  | nil => rfl
  | cons p items => simp [clauseOf, Clause.unbound, Item.unbound]

omit c in
theorem unbound_of_entries {clause : Clause String}
    (h : ∀ item ∈ clause.items, ∃ v, item = .entry v) : clause.unbound = clause := by
  have hitems : clause.items.map Item.unbound = clause.items := by
    conv_rhs => rw [← List.map_id clause.items]
    refine List.map_congr_left fun item hitem => ?_
    obtain ⟨v, rfl⟩ := h item hitem
    rfl
  rw [Clause.unbound, hitems]

/-- Only the conditions have value parts. -/
theorem unbound_of_mem_part {kind : ClauseKind} (hkind : kind ≠ .where) {clause : Clause String}
    (h : clause ∈ c.part .bound kind) : clause.unbound = clause :=
  unbound_of_entries ((writes_of_mem_part h).ofKind.entries hkind)

theorem merged_part (kind : ClauseKind) :
    Merged ((c.part .bound kind).flatMap (placeholdersIn ·.text))
      (if kind = .where then
        (List.range' 1 (c.bindings .bound).length).map parameterName else [])
      ((c.part .bound kind).flatMap (placeholdersIn ·.unbound.text)) := by
  by_cases hkind : kind = .where
  · subst hkind
    have hunbound : (c.part .bound .where).flatMap (placeholdersIn ·.unbound.text) =
        (c.whereItems .bound).flatMap (placeholdersIn ·.unbound.text) := by
      rw [← List.flatMap_map Clause.unbound (placeholdersIn ·.text), part, whereClauses,
        unbound_where, placeholdersIn_where, List.flatMap_map]
    rw [if_pos rfl, hunbound, part, whereClauses, placeholdersIn_where]
    exact c.merged_predicates true 1 c.activeConditions
  · have hunbound : (c.part .bound kind).flatMap (placeholdersIn ·.unbound.text) =
        (c.part .bound kind).flatMap (placeholdersIn ·.text) := by
      refine List.flatMap_congr fun clause h => ?_
      rw [c.unbound_of_mem_part hkind h]
    rw [if_neg hkind, hunbound]
    exact .of_others _

theorem merged_statement : Merged (placeholdersIn (c.statement .bound).text)
    ((c.statement .bound).params.map Prod.fst)
    (placeholdersIn (c.statement .bound).unbound.text) := by
  have htext (s : Statement String) :
      placeholdersIn s.text = s.clauses.flatMap (placeholdersIn ·.text) := by
    rw [Statement.text, placeholdersIn_intercalate (by decide), List.flatMap_map]
  have hparams : (c.statement .bound).params.map Prod.fst =
      (List.range' 1 (c.bindings .bound).length).map parameterName := by
    rw [statement, named_eq, map_fst_namedFrom, List.range'_succ_left, List.map_map]
    rfl
  have hkeys : ClauseKind.inOrder.flatMap (fun kind => if kind = .where then
      (List.range' 1 (c.bindings .bound).length).map parameterName else []) =
      (List.range' 1 (c.bindings .bound).length).map parameterName := by
    simp [ClauseKind.inOrder]
  rw [htext, htext, hparams, ← hkeys]
  show Merged ((c.clauses .bound).flatMap _) _ (((c.clauses .bound).map Clause.unbound).flatMap _)
  rw [List.flatMap_map, clauses_eq_flatMap, List.flatMap_assoc, List.flatMap_assoc]
  exact .flatMap fun kind _ => c.merged_part kind

variable {c}

/-- The placeholders of the parameters are found in their order, among whatever reads like one
in the rest of the text. Nothing else is found exactly if the rest has none. -/
theorem prepare_placeholders
    (hdigits : ∀ x ∈ c.conditions, isFilled x.column = true → x.excess? .bound = none)
    (hlimit : c.PrintsLimit) :
    ∃ s p, c.build .bound = .ok s ∧ (∀ lib, c.prepare lib none = .ok p) ∧
      p.params.map Prod.fst = (List.range p.params.length).map (fun i => "p" ++ toString (i + 1)) ∧
      Merged (placeholdersIn p.text) (p.params.map Prod.fst) (placeholdersIn s.unbound.text) ∧
      (placeholdersIn p.text = p.params.map Prod.fst ↔ placeholdersIn s.unbound.text = []) := by
  have hbuild : c.build .bound = .ok (c.statement .bound) :=
    (c.build_eq_ok_iff .bound).mpr ⟨rfl, hlimit, hdigits⟩
  exact ⟨_, _, hbuild, c.prepare_string hbuild rfl, c.modes_statement.names, c.merged_statement,
    c.merged_statement.eq_keys_iff⟩

/-- The events of a day. -/
def today : Configuration String where
  tables := [⟨"events", "", none⟩]
  conditions := [⟨"starts", .term .between, "8 AND 17", none, "condition_1"⟩]

theorem prepare_placeholders_today :
    (∀ x ∈ today.conditions, isFilled x.column = true → x.excess? .bound = none) ∧
    today.PrintsLimit ∧
    ∃ p, (∀ lib, today.prepare lib none = .ok p) ∧
      placeholdersIn p.text = p.params.map Prod.fst := by
  have hdigits : ∀ x ∈ today.conditions, isFilled x.column = true → x.excess? .bound = none := by
    decide
  have hlimit : today.PrintsLimit := by simp [PrintsLimit, today]
  obtain ⟨s, p, hbuild, hprepare, -, -, hiff⟩ := prepare_placeholders hdigits hlimit
  have hs : s = today.statement .bound := ((today.build_eq_ok_iff .bound).mp hbuild).1
  refine ⟨hdigits, hlimit, p, hprepare, hiff.mpr ?_⟩
  rw [hs]
  decide

/-- A time, and a subquery with a note that reads like a placeholder. -/
def noted : Configuration String where
  tables := [⟨"events", "", none⟩]
  conditions :=
    [⟨"starts", .term .eq, "12", none, "condition_1"⟩,
      ⟨"id", .term .isIn, "(SELECT event FROM notes WHERE body = ':p1')", some (.term .and),
        "condition_2"⟩]

/-- The note is found as a placeholder beside the one of the time. -/
theorem placeholdersIn_noted : ∃ p, (∀ lib, noted.prepare lib none = .ok p) ∧
    p.params.map Prod.fst = ["p1"] ∧ placeholdersIn p.text = ["p1", "p1"] := by
  have hbuild : noted.build .bound = .ok (noted.statement .bound) :=
    (noted.build_eq_ok_iff .bound).mpr
      ⟨rfl, by simp [PrintsLimit, noted], by decide +kernel⟩
  exact ⟨_, noted.prepare_string hbuild rfl, by decide +kernel, by decide +kernel⟩

end Configuration
end SelectQuery
