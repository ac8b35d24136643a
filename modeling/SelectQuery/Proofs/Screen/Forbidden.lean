import SelectQuery.Proofs.Screen.Check
import SelectQuery.Proofs.Screen.Token

/-!
# Which keywords are reported

The screen reads the words of a text, and reports the forbidden ones among them. A text that can
be cut into pieces has its words read outside of quotes and comments, and outside of what follows
a command: the rest of such a statement is taken for one argument, words and all. In a text that
cannot be cut, every run of word characters is read.

The words that are read have places, and follow each other (`readWords`). So what is reported is
told by `ReadAt`: a keyword is reported if it is read at some place, and it stands in front of
another one if it is read before that one for the first time.

A keyword that stands in the text as a whole word, and is not hidden in quotes or in a comment,
is read there, unless it is in the argument of a command (`readAt_of_shown`). So the screen
misses a keyword exactly if it stands in arguments only (`findForbidden_standing`).
-/

namespace SelectQuery.Screen

open Text

/-! ## What is stated -/

/-- A keyword stands at a place as a whole word, in any case of its letters. -/
def KeywordAt (cs : List Char) (i : ℕ) (k : String) : Prop :=
  ∃ word, word.map Char.toLower = k.toList ∧ StandsAt cs i word

/-- A text can be cut, and has a piece behind some others. -/
def Cut (cs : List Char) (before : List Token) (t : Token) : Prop :=
  ∃ after, tokensFrom false cs = some (before ++ t :: after)

/-- A place lies in a quoted text or in a comment. -/
def Hidden (cs : List Char) (i : ℕ) : Prop :=
  ∃ before t, Cut cs before t ∧ Covers before t i ∧ (t.kind = .quoted ∨ t.kind = .skipped)

/-- The position behind a piece. -/
def Position.step (p : Position) (t : Token) : Position :=
  if t.kind == .skipped || (p == .argument && t.kind != .semicolon) then p else p.behind t

/-- The position behind some pieces from the beginning of a text on. -/
def positionBehind (before : List Token) : Position := before.foldl Position.step .start

/-- A word begins at a place, in the argument of a command. -/
def InArgument (cs : List Char) (i : ℕ) : Prop :=
  ∃ before t, Cut cs before t ∧ extent before = i ∧ t.kind = .word ∧
    positionBehind before = .argument

/-- A run of word characters begins at a place, and there are no more of them around it. -/
def RunAt (cs : List Char) (i : ℕ) (run : List Char) : Prop :=
  ∃ front back, cs = front ++ (run ++ back) ∧ front.length = i ∧ run ≠ [] ∧
    (∀ c ∈ run, isWord c = true) ∧ (∀ c ∈ front.getLast?, isWord c = false) ∧
    ∀ c ∈ back.head?, isWord c = false

/-- A word is read at a place: one in no argument, or any run of word characters in a text that
cannot be cut. Its letters are read in lower case. -/
def ReadAt (s : String) (i : ℕ) (k : String) : Prop :=
  (∃ before t, Cut s.toList before t ∧ extent before = i ∧ t.kind = .word ∧
    positionBehind before ≠ .argument ∧ lower (String.ofList t.text) = k) ∨
  (tokensFrom false s.toList = none ∧ RunAt (normalize s).toList i k.toList)

/-! ## Tokens with their places -/

/-- The tokens in no argument, with the places where they begin. -/
def placed : Position → ℕ → List Token → List (ℕ × Token)
  | _, _, [] => []
  | p, i, t :: rest =>
    if t.kind == .skipped || (p == .argument && t.kind != .semicolon) then
      placed p (i + t.text.length) rest
    else (i, t) :: placed (p.behind t) (i + t.text.length) rest

theorem map_snd_placed (p : Position) (i : ℕ) (pieces : List Token) :
    (placed p i pieces).map Prod.snd = outsideArguments p (pieces.filter (·.kind != .skipped)) := by
  induction pieces generalizing p i with
  | nil => cases p <;> rfl
  | cons t rest ih =>
      cases hskipped : t.kind == .skipped with
      | true =>
          rw [placed, hskipped, List.filter_cons_of_neg (by simpa [bne] using hskipped)]
          exact ih p _
      | false =>
          rw [placed, hskipped, List.filter_cons_of_pos (by simp [bne, hskipped])]
          cases hend : t.kind == .semicolon with
          | true =>
              have hbehind : p.behind t = .start := by
                rw [Position.behind, beq_iff_eq.mp hend]
              cases p <;> simp [outsideArguments, bne, hend, ih, hbehind]
          | false => cases p <;> simp [outsideArguments, bne, hend, ih]

theorem placed_cons (p : Position) (i : ℕ) (t : Token) (rest : List Token) :
    placed p i (t :: rest) =
      (if t.kind = .skipped ∨ (p = .argument ∧ t.kind ≠ .semicolon) then [] else [(i, t)]) ++
        placed (p.step t) (i + t.text.length) rest := by
  rw [placed, Position.step]
  by_cases hleft : t.kind = .skipped ∨ (p = .argument ∧ t.kind ≠ .semicolon)
  · have hleft' : (t.kind == .skipped || (p == .argument && t.kind != .semicolon)) = true := by
      simpa using hleft
    rw [if_pos hleft, hleft']
    rfl
  · have hleft' : (t.kind == .skipped || (p == .argument && t.kind != .semicolon)) = false := by
      rw [Bool.eq_false_iff]
      simpa using hleft
    rw [if_neg hleft, hleft']
    rfl

/-- What is left of some pieces are those that neither are skipped nor belong to an argument. -/
theorem mem_placed {p : Position} {i j : ℕ} {pieces : List Token} {t : Token} :
    (j, t) ∈ placed p i pieces ↔ ∃ before after, pieces = before ++ t :: after ∧
      j = i + extent before ∧ t.kind ≠ .skipped ∧
      (before.foldl Position.step p = .argument → t.kind = .semicolon) := by
  induction pieces generalizing p i with
  | nil => simp [placed]
  | cons u rest ih =>
      rw [placed_cons, List.mem_append, ih]
      constructor
      · rintro (hhere | ⟨before, after, rfl, rfl, hskipped, hargument⟩)
        · split at hhere
          · exact absurd hhere (List.not_mem_nil)
          · next hkept =>
              obtain ⟨rfl, rfl⟩ := Prod.mk.inj (List.mem_singleton.mp hhere)
              rw [not_or, not_and, not_not] at hkept
              exact ⟨[], rest, rfl, rfl, hkept.1, hkept.2⟩
        · refine ⟨u :: before, after, rfl, ?_, hskipped, hargument⟩
          rw [extent_cons]
          omega
      · rintro ⟨before, after, hsplit, rfl, hskipped, hargument⟩
        cases before with
        | nil =>
            obtain ⟨rfl, rfl⟩ := List.cons.inj hsplit
            refine .inl ?_
            rw [if_neg (by rw [not_or, not_and, not_not]; exact ⟨hskipped, hargument⟩)]
            exact List.mem_singleton.mpr rfl
        | cons v before =>
            obtain ⟨rfl, rfl⟩ := List.cons.inj hsplit
            refine .inr ⟨before, after, rfl, ?_, hskipped, hargument⟩
            rw [extent_cons]
            omega

/-- The words that are left are those in no argument. -/
theorem mem_placed_word {j : ℕ} {pieces : List Token} {t : Token} (hkind : t.kind = .word) :
    (j, t) ∈ placed .start 0 pieces ↔ ∃ before after, pieces = before ++ t :: after ∧
      extent before = j ∧ positionBehind before ≠ .argument := by
  have hleft (before : List Token) : (t.kind ≠ .skipped ∧
      (before.foldl Position.step .start = .argument → t.kind = .semicolon)) ↔
        positionBehind before ≠ .argument := by
    simp [hkind, positionBehind]
  simp only [mem_placed, hleft, Nat.zero_add, @eq_comm _ j]

theorem pairwise_placed {pieces : List Token} (hne : ∀ t ∈ pieces, t.text ≠ []) (p : Position)
    (i : ℕ) : (placed p i pieces).Pairwise (·.1 < ·.1) := by
  induction pieces generalizing p i with
  | nil => exact .nil
  | cons t rest ih =>
      obtain ⟨ht, hrest⟩ := List.forall_mem_cons.mp hne
      rw [placed_cons, List.pairwise_append]
      refine ⟨?_, ih hrest _ _, ?_⟩
      · split
        · exact .nil
        · exact List.pairwise_singleton _ _
      · rintro ⟨j, u⟩ hj ⟨k, v⟩ hk
        obtain ⟨before, after, -, rfl, -⟩ := mem_placed.mp hk
        have hlength : 0 < t.text.length := List.length_pos_iff.mpr ht
        split at hj
        · exact absurd hj (List.not_mem_nil)
        · obtain ⟨rfl, rfl⟩ := Prod.mk.inj (List.mem_singleton.mp hj)
          show j < j + u.text.length + extent before
          omega

/-! ## Runs with their places -/

/-- The runs of word characters with the places where they begin. The first argument is the
place of the run that was begun, or the place that was come to if there is none. -/
def placedRuns : ℕ → List Char → List Char → List (ℕ × List Char)
  | i, run, [] => if run.isEmpty then [] else [(i, run.reverse)]
  | i, run, c :: rest =>
    if isWord c then placedRuns i (c :: run) rest
    else if run.isEmpty then placedRuns (i + 1) [] rest
    else (i, run.reverse) :: placedRuns (i + run.length + 1) [] rest

theorem map_snd_placedRuns (i : ℕ) (run cs : List Char) :
    (placedRuns i run cs).map Prod.snd = runsFrom run cs := by
  induction cs generalizing i run with
  | nil => cases run <;> simp [placedRuns, runsFrom]
  | cons c rest ih =>
      rw [placedRuns, runsFrom]
      split
      · exact ih ..
      · split
        · exact ih ..
        · rw [List.map_cons, ih]

variable {cs front rest run : List Char} {c : Char} {i j : ℕ}

/-- A run lies in front of a character that it does not have, or behind it. -/
theorem eq_beside {before back : List Char} (hsplit : front ++ c :: rest = before ++ (run ++ back))
    (hne : run ≠ []) (hc : c ∉ run) :
    (∃ inner, front = before ++ (run ++ inner) ∧ back = inner ++ c :: rest) ∨
      ∃ inner, before = front ++ c :: inner ∧ rest = inner ++ (run ++ back) := by
  rcases List.append_eq_append_iff.mp hsplit with ⟨inner, rfl, hrest⟩ | ⟨inner, rfl, hinner⟩
  · cases inner with
    | nil =>
        obtain ⟨d, letters, rfl⟩ := List.exists_cons_of_ne_nil hne
        obtain ⟨rfl, -⟩ := List.cons.inj hrest
        exact absurd List.mem_cons_self hc
    | cons d inner =>
        obtain ⟨rfl, rfl⟩ := List.cons.inj hrest
        exact .inr ⟨inner, rfl, rfl⟩
  · rcases List.append_eq_append_iff.mp hinner with ⟨behind, rfl, rfl⟩ | ⟨behind, rfl, hrest⟩
    · exact .inl ⟨behind, rfl, rfl⟩
    · cases behind with
      | nil => exact .inl ⟨[], by simp, hrest.symm⟩
      | cons d behind =>
          obtain ⟨rfl, -⟩ := List.cons.inj hrest
          exact absurd (by simp) hc

theorem head?_breaks_append (hc : isWord c = false) :
    (∀ d ∈ (front ++ c :: rest).head?, isWord d = false) ↔ ∀ d ∈ front.head?, isWord d = false := by
  cases front <;> simp [hc]

theorem getLast?_breaks_append (hc : isWord c = false) :
    (∀ d ∈ (front ++ c :: rest).getLast?, isWord d = false) ↔
      ∀ d ∈ rest.getLast?, isWord d = false := by
  rw [List.getLast?_append, List.getLast?_cons]
  cases rest.getLast? <;> simp [hc]

/-- No run reaches over a character that is in no word. -/
theorem runAt_append (hc : isWord c = false) : RunAt (front ++ c :: rest) j run ↔
    RunAt front j run ∨ ∃ i, j = front.length + 1 + i ∧ RunAt rest i run := by
  constructor
  · rintro ⟨before, back, hsplit, rfl, hne, hrun, hbefore, hback⟩
    have hnot : c ∉ run := fun hmem => by
      rw [hrun c hmem] at hc
      exact absurd hc (by decide)
    rcases eq_beside hsplit hne hnot with ⟨inner, rfl, rfl⟩ | ⟨inner, rfl, rfl⟩
    · have hinner := (head?_breaks_append hc).mp hback
      exact .inl ⟨before, inner, rfl, rfl, hne, hrun, hbefore, hinner⟩
    · have hinner := (getLast?_breaks_append hc).mp hbefore
      refine .inr ⟨inner.length, ?_, inner, back, rfl, rfl, hne, hrun, hinner, hback⟩
      rw [List.length_append, List.length_cons]
      omega
  · rintro (⟨before, inner, rfl, rfl, hne, hrun, hbefore, hinner⟩ |
      ⟨i, rfl, inner, back, rfl, rfl, hne, hrun, hinner, hback⟩)
    · exact ⟨before, inner ++ c :: rest, by simp, rfl, hne, hrun, hbefore,
        (head?_breaks_append hc).mpr hinner⟩
    · refine ⟨front ++ c :: inner, back, by simp, ?_, hne, hrun,
        (getLast?_breaks_append hc).mpr hinner, hback⟩
      rw [List.length_append, List.length_cons]
      omega

theorem runAt_self (hrun : ∀ c ∈ cs, isWord c = true) :
    RunAt cs j run ↔ cs ≠ [] ∧ j = 0 ∧ run = cs := by
  constructor
  · rintro ⟨before, back, rfl, rfl, hne, -, hbefore, hback⟩
    have hnil : before = [] := by
      by_contra hlast
      have hnot := hbefore _ (List.getLast?_eq_some_getLast hlast)
      rw [hrun _ (List.mem_append_left _ (List.getLast_mem hlast))] at hnot
      exact absurd hnot (by decide)
    subst hnil
    cases back with
    | nil => exact ⟨by simpa using hne, rfl, by simp⟩
    | cons d back =>
        have hnot := hback d rfl
        rw [hrun d (by simp)] at hnot
        exact absurd hnot (by decide)
  · rintro ⟨hne, rfl, rfl⟩
    exact ⟨[], [], by simp, rfl, hne, hrun, by simp, by simp⟩

theorem mem_placedRuns {begun : List Char} (hbegun : ∀ c ∈ begun, isWord c = true) :
    (j, run) ∈ placedRuns i begun cs ↔ ∃ k, j = i + k ∧ RunAt (begun.reverse ++ cs) k run := by
  induction cs generalizing i begun with
  | nil =>
      rw [List.append_nil, placedRuns]
      have hreverse : ∀ c ∈ begun.reverse, isWord c = true := by simpa using hbegun
      simp only [runAt_self hreverse]
      cases begun with
      | nil => simp
      | cons c begun => simp
  | cons c rest ih =>
      rw [placedRuns]
      by_cases hc : isWord c = true
      · rw [if_pos hc, ih (List.forall_mem_cons.mpr ⟨hc, hbegun⟩)]
        simp
      · have hrest := @ih (i + begun.length + 1) [] (by simp)
        rw [List.reverse_nil, List.nil_append] at hrest
        have hreverse : ∀ c ∈ begun.reverse, isWord c = true := by simpa using hbegun
        simp only [if_neg hc, runAt_append (eq_false_of_ne_true hc), runAt_self hreverse,
          List.length_reverse]
        -- the run that was begun ends here, and any other one lies behind the character
        have hbehind : (∃ k, j = i + begun.length + 1 + k ∧ RunAt rest k run) ↔
            ∃ k, j = i + k ∧ ∃ m, k = begun.length + 1 + m ∧ RunAt rest m run := by
          constructor
          · rintro ⟨m, rfl, hm⟩
            exact ⟨_, by omega, m, rfl, hm⟩
          · rintro ⟨_, rfl, m, rfl, hm⟩
            exact ⟨m, by omega, hm⟩
        cases begun with
        | nil => simpa using hrest.trans hbehind
        | cons d begun =>
            rw [List.isEmpty_cons, if_neg (by decide), List.mem_cons, hrest, hbehind]
            simp [and_or_left, exists_or]

theorem pairwise_placedRuns {begun : List Char} (hbegun : ∀ c ∈ begun, isWord c = true) :
    (placedRuns i begun cs).Pairwise (·.1 < ·.1) := by
  induction cs generalizing i begun with
  | nil =>
      rw [placedRuns]
      split
      · exact .nil
      · exact List.pairwise_singleton _ _
  | cons c rest ih =>
      rw [placedRuns]
      split
      · next hc => exact ih (List.forall_mem_cons.mpr ⟨hc, hbegun⟩)
      · split
        · exact ih (by simp)
        · refine List.pairwise_cons.mpr ⟨?_, ih (by simp)⟩
          rintro ⟨k, later⟩ hlater
          obtain ⟨m, rfl, -⟩ := (mem_placedRuns (by simp)).mp hlater
          show i < i + begun.length + 1 + m
          omega

/-! ## The words that are read -/

/-- The words that are read in a text, with the places where they begin. -/
def readWords (s : String) : List (ℕ × String) :=
  match tokensFrom false s.toList with
  | some pieces => ((placed .start 0 pieces).filter (·.2.kind == .word)).map fun (i, t) =>
      (i, lower (String.ofList t.text))
  | none => (placedRuns 0 [] (normalize s).toList).map fun (i, run) => (i, String.ofList run)

theorem map_snd_readWords (s : String) : (readWords s).map Prod.snd = words s := by
  rw [readWords, words, tokens?]
  cases tokensFrom false s.toList with
  | none =>
      rw [runs, ← map_snd_placedRuns 0, List.map_map, List.map_map]
      rfl
  | some pieces =>
      show _ = wordsOf (outsideArguments .start (pieces.filter (·.kind != .skipped)))
      rw [← map_snd_placed .start 0, wordsOf, List.filter_map, List.map_map, List.map_map]
      rfl

theorem mem_readWords {s k : String} : (i, k) ∈ readWords s ↔ ReadAt s i k := by
  have hruns : (i, k.toList) ∈ placedRuns 0 [] (normalize s).toList ↔
      RunAt (normalize s).toList i k.toList := by
    have hmem : (i, k.toList) ∈ placedRuns 0 [] (normalize s).toList ↔
        ∃ j, i = 0 + j ∧ RunAt ([].reverse ++ (normalize s).toList) j k.toList :=
      mem_placedRuns (by simp)
    simpa using hmem
  rw [readWords, ReadAt]
  cases hcut : tokensFrom false s.toList with
  | none =>
      have hno : ¬∃ before t, Cut s.toList before t ∧ extent before = i ∧ t.kind = .word ∧
          positionBehind before ≠ .argument ∧ lower (String.ofList t.text) = k := by
        rintro ⟨before, t, ⟨after, hsome⟩, -⟩
        exact absurd (hcut.symm.trans hsome) (by nofun)
      rw [or_iff_right hno, and_iff_right rfl, ← hruns, List.mem_map]
      constructor
      · rintro ⟨⟨j, run⟩, hmem, heq⟩
        obtain ⟨rfl, rfl⟩ := Prod.mk.inj heq
        rwa [String.toList_ofList]
      · intro hmem
        exact ⟨_, hmem, congrArg (i, ·) String.ofList_toList⟩
  | some pieces =>
      rw [or_iff_left (by nofun), List.mem_map]
      constructor
      · rintro ⟨⟨j, t⟩, hmem, heq⟩
        obtain ⟨rfl, rfl⟩ := Prod.mk.inj heq
        obtain ⟨hplaced, hword⟩ := List.mem_filter.mp hmem
        have hkind : t.kind = .word := beq_iff_eq.mp hword
        obtain ⟨before, after, rfl, hplace, hargument⟩ := (mem_placed_word hkind).mp hplaced
        exact ⟨before, t, ⟨after, hcut⟩, hplace, hkind, hargument, rfl⟩
      · rintro ⟨before, t, ⟨after, hpiece⟩, hplace, hkind, hargument, rfl⟩
        obtain rfl := Option.some.inj (hcut.symm.trans hpiece)
        have hplaced := (mem_placed_word hkind).mpr ⟨before, after, rfl, hplace, hargument⟩
        exact ⟨(i, t), List.mem_filter.mpr ⟨hplaced, by simpa using hkind⟩, rfl⟩

theorem pairwise_readWords (s : String) : (readWords s).Pairwise (·.1 < ·.1) := by
  rw [readWords]
  cases hcut : tokensFrom false s.toList with
  | none => exact List.pairwise_map.mpr (pairwise_placedRuns (by simp))
  | some pieces =>
      have hne : ∀ t ∈ pieces, t.text ≠ [] := by
        intro t ht
        obtain ⟨before, after, rfl⟩ := List.append_of_mem ht
        obtain ⟨_, c, rest, more, -, htext, -⟩ := scanned_of_tokensFrom hcut
        rw [htext]
        exact List.cons_ne_nil _ _
      exact List.pairwise_map.mpr ((pairwise_placed hne _ _).sublist List.filter_sublist)

/-- Words without their repetitions stand in the order of their first places. -/
theorem pairwise_eraseDups {words : List (ℕ × String)} (h : words.Pairwise (·.1 < ·.1)) :
    (words.map Prod.snd).eraseDups.Pairwise fun k l =>
      ∃ i, (i, k) ∈ words ∧ ∀ j, (j, l) ∈ words → i < j := by
  induction hn : words.length using Nat.strong_induction_on generalizing words with
  | _ n ih =>
      cases words with
      | nil => exact .nil
      | cons first later =>
          obtain ⟨i, k⟩ := first
          obtain ⟨hfirst, hlater⟩ := List.pairwise_cons.mp h
          have hfilter : (later.map Prod.snd).filter (fun l => !l == k) =
              (later.filter (fun word => !word.2 == k)).map Prod.snd := List.filter_map
          have hother {j : ℕ} {l : String}
              (hl : l ∈ ((later.map Prod.snd).filter (fun l => !l == k)).eraseDups)
              (hj : (j, l) ∈ (i, k) :: later) :
              (j, l) ∈ later.filter (fun word => !word.2 == k) := by
            have hne := (List.mem_filter.mp (List.mem_eraseDups.mp hl)).2
            rcases List.mem_cons.mp hj with heq | hj
            · obtain ⟨rfl, rfl⟩ := Prod.mk.inj heq
              simp at hne
            · exact List.mem_filter.mpr ⟨hj, hne⟩
          rw [List.map_cons, List.eraseDups_cons, List.pairwise_cons]
          constructor
          · intro l hl
            refine ⟨i, List.mem_cons_self, fun j hj => ?_⟩
            exact hfirst _ (List.mem_filter.mp (hother hl hj)).1
          · rw [hfilter] at hother ⊢
            have hlength : (later.filter (fun word => !word.2 == k)).length < n := by
              rw [← hn, List.length_cons]
              exact Nat.lt_succ_of_le (List.length_filter_le _ _)
            refine (ih _ hlength (hlater.sublist List.filter_sublist) rfl).imp_of_mem ?_
            rintro l m - hm ⟨j, hj, hbefore⟩
            exact ⟨j, List.mem_cons_of_mem _ (List.mem_filter.mp hj).1,
              fun place hplace => hbefore place (hother hm hplace)⟩

theorem mem_findForbidden {s k : String} :
    k ∈ findForbidden s ↔ k ∈ forbiddenKeywords ∧ ∃ i, ReadAt s i k := by
  rw [findForbidden, List.mem_eraseDups, List.mem_filter, ← map_snd_readWords, List.mem_map,
    List.contains_iff_mem, and_comm]
  simp only [← mem_readWords, Prod.exists, exists_eq_right]

theorem pairwise_findForbidden (s : String) : (findForbidden s).Pairwise fun k l =>
    ∃ i, ReadAt s i k ∧ ∀ j, ReadAt s j l → i < j := by
  have hfilter : (words s).filter forbiddenKeywords.contains =
      ((readWords s).filter (forbiddenKeywords.contains ·.2)).map Prod.snd := by
    rw [← map_snd_readWords]
    exact List.filter_map
  have hplaces := pairwise_eraseDups ((pairwise_readWords s).sublist
    (List.filter_sublist (p := (forbiddenKeywords.contains ·.2))))
  rw [← hfilter] at hplaces
  refine List.Pairwise.imp_of_mem ?_ hplaces
  rintro k l - hl ⟨i, hi, hbefore⟩
  refine ⟨i, mem_readWords.mp (List.mem_filter.mp hi).1, fun j hj => hbefore j ?_⟩
  have hforbidden := (mem_findForbidden.mp hl).1
  exact List.mem_filter.mpr ⟨mem_readWords.mpr hj, List.contains_iff_mem.mpr hforbidden⟩

/-! ## Keywords that stand in a text -/

/-- A keyword is a word of plain letters, and begins with one that no number has. -/
theorem letters_of_keyword {k : String} {word : List Char} (hk : k ∈ forbiddenKeywords)
    (hword : word.map Char.toLower = k.toList) :
    (∃ d letters, word = d :: letters ∧ isOperatorChar d = false) ∧
      ∀ c ∈ word, endsWord c = false ∧ c.toNat < 128 := by
  have hfirst : forbiddenKeywords.all (fun k => k.toList.head?.any fun x =>
      !isOperatorChar x && !isOperatorChar x.toUpper) = true := by decide
  have hall : forbiddenKeywords.all (fun k => k.toList.all fun x =>
      (!endsWord x && decide (x.toNat < 128)) &&
        (!endsWord x.toUpper && decide (x.toUpper.toNat < 128))) = true := by decide
  constructor
  · have hhead := List.all_eq_true.mp hfirst k hk
    rw [← hword] at hhead
    cases word with
    | nil => exact absurd hhead (by decide)
    | cons d letters =>
        obtain ⟨hlow, hup⟩ : isOperatorChar d.toLower = false ∧
            isOperatorChar d.toLower.toUpper = false := by simpa using hhead
        refine ⟨d, letters, rfl, ?_⟩
        rcases eq_toLower_or d with hd | hd
        · rwa [← hd] at hlow
        · rwa [← hd] at hup
  · intro c hc
    have hletter := List.all_eq_true.mp (List.all_eq_true.mp hall k hk) c.toLower
      (by rw [← hword]; exact List.mem_map_of_mem hc)
    obtain ⟨hlow, hup⟩ : (endsWord c.toLower = false ∧ c.toLower.toNat < 128) ∧
        endsWord c.toLower.toUpper = false ∧ c.toLower.toUpper.toNat < 128 := by
      simpa using hletter
    rcases eq_toLower_or c with hc | hc
    · rwa [← hc] at hlow
    · rwa [← hc] at hup

variable {s k : String}

/-- A keyword that stands in a text that can be cut is a word of it, unless it is hidden. -/
theorem exists_word_of_shown (hk : k ∈ forbiddenKeywords) (hstands : KeywordAt s.toList i k)
    (hshown : ¬Hidden s.toList i) (hcut : tokensFrom false s.toList ≠ none) :
    ∃ before t, Cut s.toList before t ∧ extent before = i ∧ t.kind = .word ∧
      lower (String.ofList t.text) = k := by
  obtain ⟨word, hword, hstands⟩ := hstands
  obtain ⟨⟨d, letters, rfl, hoperator⟩, hletters⟩ := letters_of_keyword hk hword
  obtain ⟨pieces, hpieces⟩ := Option.ne_none_iff_exists'.mp hcut
  have hi : i < extent pieces := by
    obtain ⟨front, back, hsplit, rfl, -⟩ := hstands
    rw [extent, flatMap_text_tokensFrom hpieces, hsplit]
    simp
  obtain ⟨before, t, after, rfl, hcovers⟩ := exists_piece hi
  obtain ⟨hkind, hplace, htext⟩ := word_of_standing hpieces hcovers
    (fun hhides => hshown ⟨before, t, ⟨after, hpieces⟩, hcovers, hhides⟩) hstands hoperator
    fun c hc => (hletters c hc).1
  refine ⟨before, t, ⟨after, hpieces⟩, hplace, hkind, ?_⟩
  have hplain : IsPlain (d :: letters) := fun c hc => (hletters c hc).2
  have hlow := lowerFrom_plain_append hplain [] []
  rw [List.append_nil, lowerFrom, List.append_nil, hword] at hlow
  rw [htext, lower, String.toList_ofList, hlow, String.ofList_toList]

/-- The code points of the blanks. -/
def blankCodes : List ℕ :=
  List.range' 9 5 ++ List.range' 28 5 ++ List.range' 8192 11 ++
    [133, 160, 5760, 8232, 8233, 8239, 8287, 12288]

theorem mem_blankCodes {n : ℕ} (h : isBlankCode n = true) : n ∈ blankCodes := by
  simp only [isBlankCode, Bool.or_eq_true, Bool.and_eq_true, decide_eq_true_eq, beq_iff_eq] at h
  simp only [blankCodes, List.mem_append, List.mem_range'_1, List.mem_cons, List.not_mem_nil,
    or_false]
  omega

/-- A character that is in no word and has no lower case of its own. -/
def isCaseless (c : Char) : Bool := !isWord c && c != 'Σ' && lowerChar c == [c]

theorem isCaseless_of_endsWord (hc : endsWord c = true) : isCaseless c = true := by
  have hblanks : blankCodes.all (fun n => isCaseless (Char.ofNat n)) = true := by decide +kernel
  have hmarks : marks.all isCaseless = true := by decide +kernel
  rcases Bool.or_eq_true_iff.mp hc with hblank | hmark
  · have hcode := List.all_eq_true.mp hblanks c.toNat (mem_blankCodes hblank)
    rwa [Char.ofNat_toNat] at hcode
  · exact List.all_eq_true.mp hmarks c (List.contains_iff_mem.mp hmark)

theorem isWord_of_endsWord (hc : endsWord c = true) : isWord c = false := by
  have hcaseless := isCaseless_of_endsWord hc
  simp only [isCaseless, Bool.and_eq_true, Bool.not_eq_true'] at hcaseless
  exact hcaseless.1.1

theorem lowerFrom_cons_of_endsWord (hc : endsWord c = true) (before cs : List Char) :
    lowerFrom before (c :: cs) = c :: lowerFrom (c :: before) cs := by
  have hcaseless := isCaseless_of_endsWord hc
  simp only [isCaseless, Bool.and_eq_true, bne_iff_ne, beq_iff_eq] at hcaseless
  rw [lowerFrom, if_neg (by simpa using hcaseless.1.2), hcaseless.2]
  rfl

/-- The lower case of a text that ends words. -/
theorem exists_lowerFrom_break (hfront : ∀ c ∈ front.getLast?, endsWord c = true)
    (cs : List Char) : ∃ low context, lowerFrom [] (front ++ cs) = low ++ lowerFrom context cs ∧
      ∀ c ∈ low.getLast?, isWord c = false := by
  cases front using List.reverseRecOn with
  | nil => exact ⟨[], [], rfl, by simp⟩
  | append_singleton front c =>
      have hc : endsWord c = true := hfront c (by simp)
      obtain ⟨low, hlow⟩ := exists_lowerFrom_append [] front (c :: cs)
      refine ⟨low ++ [c], c :: (front.reverse ++ []), ?_, by simpa using isWord_of_endsWord hc⟩
      rw [List.append_assoc, List.singleton_append, hlow, lowerFrom_cons_of_endsWord hc,
        List.append_assoc, List.singleton_append]

/-- A keyword that stands in a text is a run of word characters in its normal form. -/
theorem exists_runAt_normalize (hk : k ∈ forbiddenKeywords) (hstands : KeywordAt s.toList i k) :
    ∃ j, RunAt (normalize s).toList j k.toList := by
  obtain ⟨word, hword, front, back, hsplit, -, hfront, hback⟩ := hstands
  obtain ⟨⟨d, letters, hletters, -⟩, hplain⟩ := letters_of_keyword hk hword
  have hne : word ≠ [] := by
    rw [hletters]
    exact List.cons_ne_nil _ _
  have hblank : ∀ c ∈ word, isBlank c = false := fun c hc =>
    (Bool.or_eq_false_iff.mp (hplain c hc).1).1
  have htrim : trim s.toList = trimLeft front ++ (word ++ trimRight back) := by
    rw [hsplit, trim_around hne hblank]
  have hfront' : ∀ c ∈ (trimLeft front).getLast?, endsWord c = true :=
    fun c hc => hfront c (getLast?_trimLeft hc)
  obtain ⟨low, context, hlow, hbreak⟩ := exists_lowerFrom_break hfront' (word ++ trimRight back)
  have hall : forbiddenKeywords.all (fun k => !k.toList.isEmpty && k.toList.all isWord) = true := by
    decide
  obtain ⟨hfirst, hletter⟩ := Bool.and_eq_true_iff.mp (List.all_eq_true.mp hall k hk)
  refine ⟨low.length, low, lowerFrom (word.reverse ++ context) (trimRight back), ?_, rfl,
    by simpa using hfirst, List.all_eq_true.mp hletter, hbreak, ?_⟩
  · rw [toList_normalize, htrim, hlow, lowerFrom_plain_append fun c hc => (hplain c hc).2, hword]
  · cases hright : trimRight back with
    | nil => simp [lowerFrom]
    | cons c behind =>
        have hc : endsWord c = true := hback c (head?_trimRight (by rw [hright]; rfl))
        rw [lowerFrom_cons_of_endsWord hc]
        rintro d ⟨⟩
        exact isWord_of_endsWord hc

/-- No place of a word is hidden. -/
theorem not_hidden_of_word {before : List Token} {t : Token} (hcut : Cut cs before t)
    (hkind : t.kind = .word) : ¬Hidden cs (extent before) := by
  rintro ⟨before', t', ⟨after', hcut'⟩, hcovers', hhides⟩
  obtain ⟨after, hcut⟩ := hcut
  have hcovers : Covers before t (extent before) := by
    obtain ⟨_, c, rest, more, -, htext, -⟩ := scanned_of_tokensFrom hcut
    refine ⟨le_rfl, ?_⟩
    rw [htext, List.length_cons]
    omega
  obtain ⟨-, rfl⟩ := eq_of_covers (Option.some.inj (hcut.symm.trans hcut')) hcovers hcovers'
  rw [hkind] at hhides
  rcases hhides with h | h <;> cases h

/-- A keyword that stands in a text outside of quotes and comments is read in it, unless it is in
the argument of a command. -/
theorem readAt_of_shown (hk : k ∈ forbiddenKeywords) (hstands : KeywordAt s.toList i k)
    (hshown : ¬Hidden s.toList i) (hargument : ¬InArgument s.toList i) : ∃ j, ReadAt s j k := by
  by_cases hcut : tokensFrom false s.toList = none
  · obtain ⟨j, hj⟩ := exists_runAt_normalize hk hstands
    exact ⟨j, .inr ⟨hcut, hj⟩⟩
  · obtain ⟨before, t, hpiece, hplace, hkind, hlower⟩ := exists_word_of_shown hk hstands hshown hcut
    exact ⟨i, .inl ⟨before, t, hpiece, hplace, hkind,
      fun hinside => hargument ⟨before, t, hpiece, hplace, hkind, hinside⟩, hlower⟩⟩

/-- The screen reports forbidden keywords only, each once, in the order in which they are read
first. It reports all that stand in a text as whole words outside of quotes and comments, and the
text is not valid then, exactly if none stands in the arguments of commands only. -/
theorem findForbidden_standing (s : String) :
    (findForbidden s).Nodup ∧
    (∀ k, k ∈ findForbidden s ↔ k ∈ forbiddenKeywords ∧ ∃ i, ReadAt s i k) ∧
    ((findForbidden s).Pairwise fun k l => ∃ i, ReadAt s i k ∧ ∀ j, ReadAt s j l → i < j) ∧
    ((∀ k ∈ forbiddenKeywords, ∀ i, KeywordAt s.toList i k → ¬Hidden s.toList i →
        k ∈ findForbidden s ∧ isValid s = false) ↔
      ∀ k ∈ forbiddenKeywords, ∀ i, KeywordAt s.toList i k → InArgument s.toList i →
        ∃ j, ReadAt s j k) := by
  refine ⟨?_, fun k => mem_findForbidden, pairwise_findForbidden s, ?_⟩
  · refine (pairwise_findForbidden s).imp ?_
    rintro k l ⟨i, hi, hbefore⟩ rfl
    exact Nat.lt_irrefl i (hbefore i hi)
  constructor
  · rintro hreported k hk i hstands ⟨before, t, hcut, rfl, hkind, -⟩
    exact (mem_findForbidden.mp
      (hreported k hk _ hstands (not_hidden_of_word hcut hkind)).1).2
  · intro hread k hk i hstands hshown
    have hplace : ∃ j, ReadAt s j k := by
      by_cases hargument : InArgument s.toList i
      · exact hread k hk i hstands hargument
      · exact readAt_of_shown hk hstands hshown hargument
    have hfound : k ∈ findForbidden s := mem_findForbidden.mpr ⟨hk, hplace⟩
    refine ⟨hfound, Bool.eq_false_iff.mpr fun hvalid => ?_⟩
    rw [(isValid_iff.mp hvalid).2.2.2] at hfound
    exact absurd hfound List.not_mem_nil

/-- A query, and a command with a forbidden keyword behind it. -/
def explained : String := "SELECT 1 FROM t; EXPLAIN DELETE FROM users"

/-- The keyword stands in plain sight, and is not reported. -/
theorem findForbidden_explained : KeywordAt explained.toList 25 "delete" ∧
    ¬Hidden explained.toList 25 ∧ findForbidden explained = [] ∧ isValid explained = true := by
  have hstands : StandsAt explained.toList 25 "DELETE".toList := by
    refine ⟨"SELECT 1 FROM t; EXPLAIN ".toList, " FROM users".toList, by decide, by decide, ?_, ?_⟩
    · rintro c ⟨⟩
      decide
    · rintro c ⟨⟩
      decide
  let pieces := (tokensFrom false explained.toList).getD []
  have hcut : Cut explained.toList (pieces.take 11) ⟨.word, "DELETE".toList, false⟩ :=
    ⟨pieces.drop 12, by decide +kernel⟩
  have hplace : extent (pieces.take 11) = 25 := by decide +kernel
  have hshown := not_hidden_of_word hcut rfl
  rw [hplace] at hshown
  exact ⟨⟨_, by decide, hstands⟩, hshown, by decide +kernel, by decide +kernel⟩

end SelectQuery.Screen
