import SelectQuery.Proofs.Text.Blank
import SelectQuery.Proofs.Text.Case
import SelectQuery.Screen.Check

/-!
# What the screens ask of a text

A text is accepted if both screens let it through. The second screen has four rules
(`isValid_iff`). Two of them look for a word, in the trimmed text in lower case: `select` at
the beginning and `from` anywhere. A text that spells the word in capitals, between breaks,
passes the rule whatever stands around it, because neither trimming nor lower case reaches
into the word.
-/

namespace SelectQuery.Screen

open Text

/-- A text that both screens let through. -/
def Accepted (s : String) : Prop := Script.isSelect s = true ∧ isValid s = true

theorem isValid_iff {s : String} : isValid s = true ↔
    startsWithSelect s = true ∧ hasFrom s = true ∧ isBalanced s = true ∧ findForbidden s = [] := by
  simp only [isValid, problems, List.isEmpty_iff, List.append_eq_nil_iff, and_assoc]
  simp

theorem check_eq_ok_iff {s : String} : check s = .ok () ↔ Accepted s := by
  rw [check, refusal?, Accepted]
  cases Script.isSelect s <;> cases isValid s <;> simp

/-! ## Words between breaks -/

/-- Text that begins with a space or a line end, if with anything. -/
def Breaks (cs : List Char) : Prop := ∀ c ∈ cs.head?, c = ' ' ∨ c = '\n'

theorem Breaks.space (cs : List Char) : Breaks (' ' :: cs) := by simp [Breaks]

theorem Breaks.lineEnd (cs : List Char) : Breaks ('\n' :: cs) := by simp [Breaks]

theorem Breaks.trimRight {cs : List Char} (h : Breaks cs) : Breaks (trimRight cs) := by
  intro c hc
  obtain ⟨tail, htail⟩ := trimRight_initial cs
  refine h c ?_
  rw [← htail, List.head?_append, hc]
  rfl

theorem Breaks.lowerFrom {cs : List Char} (h : Breaks cs) (before : List Char) :
    Breaks (lowerFrom before cs) := by
  cases cs with
  | nil => simp [Text.lowerFrom, Breaks]
  | cons c cs =>
      obtain rfl | rfl := h c rfl
      · rw [lowerFrom_cons_plain (by decide)]
        exact .space _
      · rw [lowerFrom_cons_plain (by decide)]
        exact .lineEnd _

theorem Breaks.takeWhile {cs : List Char} (h : Breaks cs) : cs.takeWhile isWord = [] := by
  cases cs with
  | nil => rfl
  | cons c cs =>
      have hc : isWord c = false := by
        obtain rfl | rfl := h c rfl <;> decide
      rw [List.takeWhile_cons, hc]
      rfl

theorem toList_normalize (s : String) : (normalize s).toList = lowerFrom [] (trim s.toList) := by
  simp [normalize, lower, trimmed]

/-- A text that spells `SELECT` at the beginning. -/
theorem startsWithSelect_of_toList {s : String} {back : List Char} (hback : Breaks back)
    (hs : s.toList = "SELECT".toList ++ back) : startsWithSelect s = true := by
  have hhead : ∀ c ∈ "SELECT".toList.head?, isBlank c = false := by rintro c ⟨⟩; decide
  have hlast : ∀ c ∈ "SELECT".toList.getLast?, isBlank c = false := by rintro c ⟨⟩; decide
  have hlow : "SELECT".toList.map Char.toLower = "select".toList := by decide
  have hword : ∀ c ∈ "select".toList, isWord c = true := List.all_eq_true.mp (by decide)
  have hrun : (lowerFrom [] (trim s.toList)).takeWhile isWord = "select".toList := by
    rw [hs, trim_append_right hhead hlast (by decide), lowerFrom_plain_append (by simp [IsPlain]),
      hlow, List.takeWhile_append_of_pos hword, (hback.trimRight.lowerFrom _).takeWhile,
      List.append_nil]
  rw [startsWithSelect, firstRun, toList_normalize, hrun]
  decide

/-- A run behind a character that is in no word. -/
theorem mem_runsFrom_append {c : Char} (hc : isWord c = false) {word back : List Char}
    (hword : word ∈ runsFrom [] back) (run front : List Char) :
    word ∈ runsFrom run (front ++ c :: back) := by
  induction front generalizing run with
  | nil =>
      cases run with
      | nil => simpa [runsFrom, hc] using hword
      | cons d run => simp [runsFrom, hc, hword]
  | cons d front ih =>
      rw [List.cons_append, runsFrom]
      split
      · exact ih _
      · split
        · exact ih _
        · exact List.mem_cons_of_mem _ (ih _)

/-- A run that was begun ends at a break. -/
theorem mem_runsFrom_break {run word back : List Char} (hword : ∀ c ∈ word, isWord c = true)
    (hne : run ++ word ≠ []) (hback : Breaks back) :
    run.reverse ++ word ∈ runsFrom run (word ++ back) := by
  induction word generalizing run with
  | nil =>
      have hrun : run.isEmpty = false := by simpa using hne
      cases back with
      | nil => simp [runsFrom, hrun]
      | cons c back =>
          have hc : isWord c = false := by
            obtain rfl | rfl := hback c rfl <;> decide
          simp [runsFrom, hrun, hc]
  | cons c word ih =>
      have hrest := @ih (c :: run) (fun d hd => hword d (List.mem_cons_of_mem c hd)) (by simp)
      simpa [runsFrom, hword c List.mem_cons_self] using hrest

/-- A text that spells `FROM` at the beginning of a line, though not of the first one. -/
theorem hasFrom_of_toList {s : String} {front back : List Char} (hne : front ≠ [])
    (hfront : ∀ c ∈ front.head?, isBlank c = false) (hback : Breaks back)
    (hs : s.toList = front ++ '\n' :: ("FROM".toList ++ back)) : hasFrom s = true := by
  have hhead : ∀ c ∈ (front ++ "\nFROM".toList).head?, isBlank c = false := by
    rwa [List.head?_append_of_ne_nil _ hne]
  have hlast : ∀ c ∈ (front ++ "\nFROM".toList).getLast?, isBlank c = false := by
    rw [List.getLast?_append_of_ne_nil _ (by decide)]
    rintro c ⟨⟩
    decide
  have htrim : trim s.toList = front ++ '\n' :: ("FROM".toList ++ trimRight back) := by
    have hsplit (cs : List Char) : front ++ '\n' :: ("FROM".toList ++ cs) =
        front ++ "\nFROM".toList ++ cs := by simp
    rw [hs, hsplit, hsplit, trim_append_right hhead hlast (by simp [hne])]
  obtain ⟨low, hlow⟩ := exists_lowerFrom_append [] front ('\n' :: ("FROM".toList ++ trimRight back))
  have hmap : "FROM".toList.map Char.toLower = "from".toList := by decide
  have hletters : ∀ c ∈ "from".toList, isWord c = true := List.all_eq_true.mp (by decide)
  have hword : "from".toList ∈ runsFrom [] (lowerFrom [] (trim s.toList)) := by
    rw [htrim, hlow, lowerFrom_cons_plain (by decide), lowerFrom_plain_append (by simp [IsPlain]),
      hmap]
    exact mem_runsFrom_append (by decide)
      (mem_runsFrom_break hletters (by decide) (hback.trimRight.lowerFrom _)) [] low
  rw [hasFrom, List.contains_iff_mem, runs, List.mem_map, toList_normalize]
  exact ⟨"from".toList, hword, String.ofList_toList⟩

end SelectQuery.Screen
