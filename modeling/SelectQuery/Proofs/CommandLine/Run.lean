import SelectQuery.CommandLine.Run
import SelectQuery.Proofs.Configuration.Typed
import SelectQuery.Proofs.Service.Run
import SelectQuery.Proofs.Statement.Params
import SelectQuery.Proofs.Text.Surrogate
import SelectQuery.Proofs.Value.OneLine
import SelectQuery.Proofs.Value.Reader

/-!
# What the command prints

The command is run on a text, with or without placeholders, in an environment that sets
nothing. Unless it ends with an uncaught error it has printed the query of the configuration
on its input, or it has reported one error and printed nothing (`Renders`, `Refuses`). With
placeholders a second line follows the query, a document that is read back as the parameters.

Only what is wrong with the document as such and with its words is reported. An entry of a
kind that it cannot be used as, an integer with too many digits and a document that is nested too
deep end the command with an uncaught error (`run_tenRows`). Without these it ends well exactly
if what it has to print has no half of a surrogate pair (`run_outcome`).
-/

namespace SelectQuery

/-! ## Printed text -/

namespace Text

variable {cs rest : List Char}

theorem withoutSequences_append (h : escapeCharacter ∉ cs) :
    withoutSequences (cs ++ rest) = cs ++ withoutSequences rest := by
  induction cs with
  | nil => rfl
  | cons c cs ih =>
      rw [List.mem_cons, not_or] at h
      have hc : (c == escapeCharacter) = false := beq_false_of_ne (Ne.symm h.1)
      rw [List.cons_append, withoutSequences, hc, if_neg Bool.false_ne_true, ih h.2,
        List.cons_append]

/-- A text without escape characters has no terminal sequences. -/
theorem withoutSequences_eq_self (h : escapeCharacter ∉ cs) : withoutSequences cs = cs := by
  have hnil := @withoutSequences_append cs [] h
  rwa [withoutSequences, List.append_nil] at hnil

theorem escape_notMem_of_visible (h : Json.Visible cs) : escapeCharacter ∉ cs :=
  fun hmem => absurd (h _ hmem) (by decide)

end Text

namespace CommandLine

open Text

/-! ## Endings -/

/-- A line can be printed: without its terminal sequences it has no half of a surrogate pair. -/
def Printable (line : String) : Prop := ∀ n, .half n ∉ points (withoutSequences line.toList)

/-- What is printed of a text: the text without terminal sequences, which is the text itself
unless it has an escape character or a mark. -/
structure Shows (text shown : String) : Prop where
  plain : withoutSequences text.toList = kept shown.toList
  same : escapeCharacter ∉ text.toList → mark ∉ text.toList → shown = text

/-- The arguments of a run without options, or for a query with placeholders. -/
def arguments (parameterized : Bool) : List String :=
  if parameterized then ["--parameterized"] else []

/-- A document loads as a configuration. -/
def Loads (nesting : ℕ) (document : String) (c : Configuration Value) : Prop :=
  ∃ fields, Json.readWithin nesting document = .ok (.object fields) ∧
    ((Configuration.load (.object fields)).outcome {}).1 = .ok c

/-- The lines that are to be printed of a configuration. -/
def lines (parameterized : Bool) (c : Configuration Value) : List String :=
  if parameterized then
    let s := c.statement .bound
    [s.text, Json.write (.object (s.params.map fun (name, v) => (name, v.toValue)))]
  else [(c.statement .preview).text]

namespace Outcome

/-- The command has printed the query of a configuration: its preview, or the statement with
placeholders and behind it a line that is read back as the parameters. -/
structure Renders (lib : Translator) (o : Outcome) (parameterized : Bool)
    (c : Configuration Value) : Prop where
  exit : o.exit = 0
  messages : o.messages = []
  uncaught : o.uncaught = none
  preview : parameterized = false → ∃ text shown, c.preview lib none = .ok text ∧
    Shows text shown ∧ o.output = shown ++ "\n"
  bound : parameterized = true → ∃ p shown line, c.prepare lib none = .ok p ∧
    Shows p.text shown ∧ o.output = shown ++ "\n" ++ line ++ "\n" ∧
    Json.read (keptText line) = .ok (.object (p.params.map fun (name, v) => (name, v.toValue)))

/-- The command has reported one error and printed nothing. -/
structure Refuses (o : Outcome) : Prop where
  exit : o.exit = 1
  output : o.output = ""
  uncaught : o.uncaught = none
  messages : ∃ message, o.messages = ["Error: " ++ message]

end Outcome

theorem shows_of_eq_kept {text : String} {shown : List Char}
    (h : withoutSequences text.toList = kept shown) : Shows text (String.ofList shown) where
  plain := by rw [h, String.toList_ofList]
  same hescape hmark := by
    rw [withoutSequences_eq_self hescape] at h
    have hplain : plain? text.toList = some text.toList := by
      rw [plain?_eq_some_iff, kept_eq_self hmark]
    have hshown : plain? text.toList = some shown := plain?_eq_some_iff.mpr h
    rw [← Option.some.inj (hplain.symm.trans hshown), String.ofList_toList]

/-! ## Lines -/

theorem printable_iff {line : String} :
    Printable line ↔ ∃ shown, withoutSequences line.toList = kept shown :=
  exists_eq_kept_iff.symm

theorem printed_cons {line : String} {shown : List Char}
    (h : withoutSequences line.toList = kept shown) (rest : List String) :
    Outcome.printed (line :: rest) = { Outcome.printed rest with
      output := String.ofList shown ++ "\n" ++ (Outcome.printed rest).output } := by
  simp [Outcome.printed, plain?_eq_some_iff.mpr h, String.ofList_append]

/-- All lines are printed exactly if each of them can be. -/
theorem uncaught_printed_iff (lines : List String) :
    (Outcome.printed lines).uncaught = none ↔ ∀ line ∈ lines, Printable line := by
  induction lines with
  | nil => exact iff_of_true rfl (List.forall_mem_nil _)
  | cons line rest ih =>
      rw [List.forall_mem_cons, ← ih, Outcome.printed, printable_iff]
      cases hplain : plain? (withoutSequences line.toList) with
      | none =>
          refine iff_of_false (Option.some_ne_none _) ?_
          rintro ⟨⟨shown, hshown⟩, -⟩
          rw [plain?_eq_some_iff.mpr hshown] at hplain
          cases hplain
      | some shown => simp [plain?_eq_some_iff.mp hplain]

/-- A complaint keeps its opening when it is printed. -/
theorem refuses_complaint (message : String) : (Outcome.refused [complaint message]).Refuses where
  exit := rfl
  output := rfl
  uncaught := rfl
  messages := by
    have hopening : escapeCharacter ∉ "Error: ".toList := by decide
    have hmark : mark ∉ "Error: ".toList := by decide
    refine ⟨String.ofList (escaped (withoutSequences message.toList)), ?_⟩
    simp only [Outcome.refused, complaint, List.map_cons, List.map_nil, String.toList_append]
    rw [withoutSequences_append hopening, escaped_append hmark, String.ofList_append,
      String.ofList_toList]

/-! ## Documents -/

variable {lib : Translator} {parameterized : Bool} {nesting : ℕ} {s : String} {o : Outcome}

/-- The options of a run without options, or for a query with placeholders. -/
def options (parameterized : Bool) : Options := { parameterized }

theorem orRefused_eq_ok {opening : String} {e : Error} (h : orRefused opening e = .ok o) :
    o.Refuses := by
  unfold orRefused at h
  split at h
  · obtain rfl := Except.ok.inj h
    exact refuses_complaint _
  · simp at h

theorem renders_preview {c : Configuration Value} {text : String}
    (htext : c.preview lib none = .ok text)
    (huncaught : (Outcome.printed [text]).uncaught = none) :
    (Outcome.printed [text]).Renders lib false c := by
  have hlines := (uncaught_printed_iff _).mp huncaught
  obtain ⟨shown, hshown⟩ := printable_iff.mp (hlines text (List.mem_singleton_self _))
  rw [printed_cons hshown]
  exact {
    exit := rfl
    messages := rfl
    uncaught := rfl
    preview := fun _ => ⟨text, _, htext, shows_of_eq_kept hshown, by simp [Outcome.printed]⟩
    bound := fun htrue => Bool.noConfusion htrue }

/-- A line with a document is printed as it is, and can be read again. -/
theorem read_printed {x : Value} {line : List Char} (hx : x.IsDocument)
    (hline : withoutSequences (Json.write x).toList = kept line) :
    Json.read (keptText (String.ofList line)) = .ok x := by
  rw [withoutSequences_eq_self (escape_notMem_of_visible (Json.visible_write x))] at hline
  rw [keptText, String.toList_ofList, ← hline, String.ofList_toList]
  exact Json.read_write hx

theorem renders_bound {c : Configuration Value} {p : Prepared}
    (hp : c.prepare lib none = .ok p)
    (huncaught : (Outcome.printed [p.text, Json.write (.object
      (p.params.map fun (name, v) => (name, v.toValue)))]).uncaught = none) :
    (Outcome.printed [p.text, Json.write (.object
      (p.params.map fun (name, v) => (name, v.toValue)))]).Renders lib true c := by
  have hprepared := hp
  obtain ⟨built, hbuilt, hprepared⟩ := Except.bind_eq_ok.mp hprepared
  obtain ⟨rendered, hrendered, hprepared⟩ := Except.bind_eq_ok.mp hprepared
  obtain rfl := Except.ok.inj hprepared
  have hlines := (uncaught_printed_iff _).mp huncaught
  obtain ⟨shown, hshown⟩ := printable_iff.mp (hlines _ (List.mem_cons_self ..))
  obtain ⟨line, hline⟩ := printable_iff.mp
    (hlines _ (List.mem_cons_of_mem _ (List.mem_cons_self ..)))
  rw [printed_cons hshown, printed_cons hline]
  exact {
    exit := rfl
    messages := rfl
    uncaught := rfl
    preview := fun hfalse => Bool.noConfusion hfalse
    bound := fun _ => ⟨_, _, String.ofList line, hp, shows_of_eq_kept hshown,
      by simp [Outcome.printed, String.append_assoc],
      read_printed (c.isDocument_params hbuilt) hline⟩ }

theorem query_outcome {c : Configuration Value}
    (h : query lib (options parameterized) none c = .ok o) (huncaught : o.uncaught = none) :
    o.Renders lib parameterized c ∨ o.Refuses := by
  unfold query at h
  cases parameterized with
  | true =>
      simp only [options, if_true] at h
      split at h
      · exact .inr (orRefused_eq_ok h)
      · next p hp =>
          obtain rfl := Except.ok.inj h
          exact .inl (renders_bound hp huncaught)
  | false =>
      obtain ⟨text, htext, h⟩ := Except.bind_eq_ok.mp h
      obtain rfl := Except.ok.inj h
      exact .inl (renders_preview htext huncaught)

theorem document_outcome (h : document lib nesting (options parameterized) none s = .ok o)
    (huncaught : o.uncaught = none) :
    (∃ c, Loads nesting s c ∧ o.Renders lib parameterized c) ∨ o.Refuses := by
  unfold document at h
  split at h
  · split at h
    · obtain rfl := Except.ok.inj h
      exact .inr (refuses_complaint _)
    · simp at h
  · next fields hfields =>
      split at h
      · next c hc =>
          exact (query_outcome h huncaught).imp_left fun hrenders =>
            ⟨c, ⟨fields, hfields, hc⟩, hrenders⟩
      · exact .inr (orRefused_eq_ok h)
  · obtain rfl := Except.ok.inj h
    exact .inr (refuses_complaint _)

/-! ## Documents of the right kind -/

/-- A document in which nothing is of a kind that it cannot be used as, nothing is nested too deep
and no integer has too many digits. With placeholders this goes for integers in the values of
conditions too. -/
structure IsTyped (nesting : ℕ) (parameterized : Bool) (document : String) : Prop where
  digits : ¬ HasLongRun document.toList
  depth : ∀ e, Json.readWithin nesting document = .error e → e.problem ≠ .tooDeep
  fields : ∀ fields, Json.readWithin nesting document = .ok (.object fields) →
    (Value.object fields).isConfiguration = true
  values : parameterized = true → ∀ c, Loads nesting document c → ∀ x ∈ c.conditions,
    ¬ HasLongRun (Entry.chars x.value)

theorem Loads.unique {c d : Configuration Value} (hc : Loads nesting s c)
    (hd : Loads nesting s d) : d = c := by
  obtain ⟨fields, hread, hload⟩ := hc
  obtain ⟨fields', hread', hload'⟩ := hd
  obtain rfl := Value.object.inj (Except.ok.inj (hread.symm.trans hread'))
  exact Except.ok.inj (hload'.symm.trans hload)

/-- The error of a document is no uncaught one unless an integer has too many digits or something
is nested too deep. -/
theorem toError_malformed {e : Json.Error} (hdigits : ∀ n, e.problem ≠ .tooManyDigits n)
    (hdepth : e.problem ≠ .tooDeep) : e.toError = .malformed e := by
  unfold Json.Error.toError
  split
  · next n hn => exact absurd hn (hdigits n)
  · next hdeep => exact absurd hdeep hdepth
  · rfl

theorem excess?_eq_none_of_digits {x : Condition Value} (mode : Mode)
    (h : mode = .bound → ¬ HasLongRun (Entry.chars x.value)) : x.excess? mode = none := by
  unfold Condition.excess?
  split
  · next op _ =>
      split
      · rfl
      · cases hexcess : Literal.excess? op (Entry.chars x.value) with
        | none => rfl
        | some n => exact absurd (Literal.hasLongRun_of_excess? hexcess) (h rfl)
  · rfl

/-- A limit that comes from a document is not too long to be written. -/
theorem Loads.printsLimit {c : Configuration Value} (h : Loads nesting s c) : c.PrintsLimit := by
  obtain ⟨fields, hread, hload⟩ := h
  have hdocument := Json.isDocument_of_readWithin hread
  cases houtcome : (Configuration.load (.object fields)).outcome {} with
  | mk loaded left =>
      rw [houtcome] at hload
      have hyields : (Configuration.load (.object fields)).Yields c :=
        ⟨{}, left, houtcome.trans (congrArg (·, left) hload)⟩
      intro n hn
      have hn := (Configuration.load_spec inherited_isDocument hdocument hyields).2.2 n hn
      rw [Value.IsDocument] at hn
      generalize digitLimit = limit at hn ⊢
      have hcast : ((10 ^ limit : ℕ) : ℤ) = 10 ^ limit := Int.natCast_pow 10 limit
      omega

/-- The query of a configuration that can be used is printed exactly if its lines can be. -/
theorem query_settles {c : Configuration Value} (hc : c.IsUsable) (hlimit : c.PrintsLimit)
    (hvalues : parameterized = true → ∀ x ∈ c.conditions, ¬ HasLongRun (Entry.chars x.value)) :
    query lib (options parameterized) none c = .ok (.printed (lines parameterized c)) := by
  have hrender (mode : Mode) : (c.statement mode).render = .ok (c.statement mode).text := by
    rw [Statement.render, hc.textFault?_eq_none mode]
  have hbuild (mode : Mode) (hmode : mode = .bound → parameterized = true) :
      c.build mode = .ok (c.statement mode) := by
    have hexcess : ∀ x ∈ c.conditions, x.excess? mode = none := fun x hx =>
      excess?_eq_none_of_digits mode fun hbound => hvalues (hmode hbound) x hx
    rw [Configuration.build, hc.fault?_eq_none hexcess hlimit]
  cases parameterized with
  | true =>
      have hprepare : c.prepare lib none = .ok ⟨(c.statement .bound).text,
          (c.statement .bound).params, (c.statement .bound).kinds⟩ := by
        rw [Configuration.prepare, hbuild .bound fun _ => rfl, ok_bind, hrender, ok_bind]
        rfl
      simp only [query, options, if_true, hprepare]
      rfl
  | false =>
      have hpreview : c.preview lib none = .ok (c.statement .preview).text := by
        rw [Configuration.preview, hbuild .preview (by simp), ok_bind, hrender, ok_bind]
        rfl
      simp only [query, options, Bool.false_eq_true, if_false, hpreview, ok_bind]
      rfl

/-- A document of the right kind is reported or printed, up to a line that cannot be. -/
theorem document_settles (h : IsTyped nesting parameterized s) :
    ∃ o, document lib nesting (options parameterized) none s = .ok o ∧
      (o.uncaught = none ↔
        ∀ c, Loads nesting s c → ∀ line ∈ lines parameterized c, Printable line) := by
  unfold document
  split
  · next e he =>
      have hdigits : ∀ n, e.problem ≠ .tooManyDigits n :=
        fun n hn => h.digits (Json.hasLongRun_of_readWithin he hn)
      rw [toError_malformed hdigits (h.depth e he)]
      refine ⟨_, rfl, iff_of_true rfl ?_⟩
      rintro c ⟨fields, hread, -⟩
      rw [he] at hread
      cases hread
  · next fields hfields =>
      have hload := decides_configuration (h.fields fields hfields) {}
      split
      · next c hc =>
          have hloads : Loads nesting s c := ⟨fields, hfields, hc⟩
          rw [hc] at hload
          cases hload with
          | done _ husable =>
              refine ⟨_, query_settles husable hloads.printsLimit
                fun hbound => h.values hbound c hloads, ?_⟩
              rw [uncaught_printed_iff]
              constructor
              · intro hlines d hd
                rw [hloads.unique hd]
                exact hlines
              · exact fun hlines => hlines c hloads
      · next e he =>
          have hnone : ∀ c, ¬ Loads nesting s c := by
            rintro c ⟨fields', hread, hc⟩
            obtain rfl := Value.object.inj (Except.ok.inj (hfields.symm.trans hread))
            rw [he] at hc
            cases hc
          rw [he] at hload
          cases hload with
          | refused _ _ _ => exact ⟨_, rfl, iff_of_true rfl fun c hc => absurd hc (hnone c)⟩
  · next x hx hfields =>
      refine ⟨_, rfl, iff_of_true rfl ?_⟩
      rintro c ⟨fields, hread, -⟩
      rw [hfields] at hread
      exact absurd (Except.ok.inj hread) (hx fields)

/-! ## Runs -/

theorem run_arguments (lib : Translator) (nesting : ℕ) (parameterized : Bool) (input : String)
    (read : String → Option String) :
    run lib nesting [] (arguments parameterized) input read =
      match if inputText input == "" then .ok (.refused [complaint "No input provided"])
        else document lib nesting (options parameterized) none (inputText input) with
      | .ok outcome => outcome
      | .error e => .failed e := by
  have hoptions : Options.ofArguments (arguments parameterized) = some (options parameterized) := by
    cases parameterized <;> decide
  have hsettings : Settings.ofEnvironment [] = .ok {} := rfl
  obtain ⟨thresholds, hlevel⟩ : ∃ thresholds,
      logThresholds ((given? (options parameterized).logLevel).getD ({} : Settings).logLevel) =
        .ok thresholds := by
    cases parameterized <;> exact ⟨_, rfl⟩
  have hsession : session lib nesting [] (options parameterized) input =
      if inputText input == "" then .ok (.refused [complaint "No input provided"])
      else document lib nesting (options parameterized) none (inputText input) := by
    have hvalidate : (options parameterized).validate = false := rfl
    have hdialect : (given? (options parameterized).dialect).or none = none := rfl
    simp only [session, hsettings, ok_bind, hlevel, hvalidate, hdialect, Bool.false_eq_true,
      if_false]
    rfl
  have hrun : run lib nesting [] (arguments parameterized) input read =
      match session lib nesting [] (options parameterized) input with
      | .ok outcome => outcome
      | .error e => .failed e := by
    have hhelp : (options parameterized).help = false := rfl
    have hsource : source? (options parameterized) input read = some input := rfl
    have hkept : (options parameterized).kept = options parameterized := rfl
    have hempty : keptEnvironment [] = [] := rfl
    cases houtcome : session lib nesting [] (options parameterized) input <;>
      simp only [run, hoptions, hhelp, hsource, hkept, hempty, houtcome, Bool.false_eq_true,
        if_false]
  rw [hrun, hsession]

theorem not_loads_empty (c : Configuration Value) : ¬ Loads nesting "" c := by
  rintro ⟨fields, hread, -⟩
  simp [Json.readWithin, Json.readDocument, Json.skip, Json.readValue, Json.readScalar,
    Json.constants, Text.after?, Json.readUnsigned, Json.wholePart, bind, Except.bind] at hread

/-- Whatever is on its input, the command has printed the query of the configuration there, or
has reported one error and printed nothing, unless it ends with an uncaught error. If the document
is of the right kind it does not, unless a line that it has to print has a half of a surrogate
pair. -/
theorem run_outcome (lib : Translator) (nesting : ℕ) (parameterized : Bool) (input : String)
    (read : String → Option String) :
    let o := run lib nesting [] (arguments parameterized) input read
    (o.uncaught = none →
      (∃ c, Loads nesting (inputText input) c ∧ o.Renders lib parameterized c) ∨ o.Refuses) ∧
    (IsTyped nesting parameterized (inputText input) →
      (o.uncaught = none ↔ ∀ c, Loads nesting (inputText input) c →
        ∀ line ∈ lines parameterized c, Printable line)) := by
  intro o
  have ho : o = _ := run_arguments lib nesting parameterized input read
  by_cases hempty : inputText input = ""
  · rw [hempty, beq_self_eq_true, if_pos rfl] at ho
    have hrefuses : o.Refuses := ho ▸ refuses_complaint _
    rw [hempty]
    refine ⟨fun _ => .inr hrefuses, fun _ => iff_of_true hrefuses.uncaught fun c hc => ?_⟩
    exact absurd hc (not_loads_empty c)
  · rw [beq_false_of_ne hempty, if_neg Bool.false_ne_true] at ho
    cases hdocument : document lib nesting (options parameterized) none (inputText input) with
    | ok outcome =>
        rw [hdocument] at ho
        rw [ho]
        refine ⟨document_outcome hdocument, fun htyped => ?_⟩
        obtain ⟨settled, hsettled, hiff⟩ := document_settles htyped
        obtain rfl := Except.ok.inj (hdocument.symm.trans hsettled)
        exact hiff
    | error e =>
        rw [hdocument] at ho
        rw [ho]
        refine ⟨fun huncaught => absurd huncaught (Option.some_ne_none e), fun htyped => ?_⟩
        obtain ⟨settled, hsettled, -⟩ := document_settles htyped
        rw [hsettled] at hdocument
        cases hdocument

/-- The users of some age. -/
def usersOfAge : List (String × Value) :=
  [("selectedTables", .list [.text "users"]),
    ("conditions", .list [.object [("column", .text "age"), ("value", .text "18")]])]

/-- The document of the users of some age. -/
def usersOfAgeText : String :=
  "\x7b\"selectedTables\": [\"users\"], " ++
    "\"conditions\": [\x7b\"column\": \"age\", \"value\": \"18\"\x7d]\x7d"

theorem read_usersOfAgeText :
    Json.readWithin 1000 (inputText usersOfAgeText) = .ok (.object usersOfAge) := by
  have hwrite : inputText usersOfAgeText = Json.write (.object usersOfAge) := by decide +kernel
  rw [hwrite]
  exact Json.readWithin_write
    (by simp [usersOfAge, Value.isDocument_object, Value.isDocument_list]) (by decide +kernel)

theorem isTyped_usersOfAgeText : IsTyped 1000 true (inputText usersOfAgeText) where
  digits := not_hasLongRun_of_length (by decide +kernel)
  depth e he := by
    rw [read_usersOfAgeText] at he
    cases he
  fields fields hread := by
    rw [read_usersOfAgeText] at hread
    cases hread
    rfl
  values _ c hloads x hx := by
    obtain ⟨fields, hread, hload⟩ := hloads
    rw [read_usersOfAgeText] at hread
    cases hread
    obtain rfl := Except.ok.inj hload
    obtain rfl := List.mem_singleton.mp hx
    exact not_hasLongRun_of_length (by decide)

theorem run_outcome_usersOfAge :
    IsTyped 1000 true (inputText usersOfAgeText) ∧
    ∀ lib, (run lib 1000 [] (arguments true) usersOfAgeText fun _ => none).uncaught = none := by
  refine ⟨isTyped_usersOfAgeText, fun lib => ?_⟩
  refine ((run_outcome lib 1000 true usersOfAgeText fun _ => none).2 isTyped_usersOfAgeText).mpr ?_
  rintro c ⟨fields, hread, hload⟩ line hline
  rw [read_usersOfAgeText] at hread
  cases hread
  obtain rfl := Except.ok.inj hload
  have hplain : (plain? (withoutSequences line.toList)).isSome = true := by
    revert line
    decide +kernel
  obtain ⟨shown, hshown⟩ := Option.isSome_iff_exists.mp hplain
  exact printable_iff.mpr ⟨shown, plain?_eq_some_iff.mp hshown⟩

/-- A word for the row limit. -/
def tenRows : String := "\x7b\"limit\": \"ten\"\x7d"

/-- A document that can be read ends the command with an error that is not reported. -/
theorem run_tenRows :
    Json.readWithin 1000 (inputText tenRows) = .ok (.object [("limit", .text "ten")]) ∧
    ∀ lib, (run lib 1000 [] [] tenRows fun _ => none).uncaught =
      some (.badValue (.notInteger (Text.quoted "ten"))) := by
  have hread : Json.readWithin 1000 (inputText tenRows) =
      .ok (.object [("limit", .text "ten")]) := by
    have hwrite : inputText tenRows = Json.write (.object [("limit", .text "ten")]) := by
      decide +kernel
    rw [hwrite]
    exact Json.readWithin_write (by simp [Value.isDocument_object]) (by decide +kernel)
  refine ⟨hread, fun lib => ?_⟩
  have hdocument : document lib 1000 (options false) none (inputText tenRows) =
      .error (.badValue (.notInteger (Text.quoted "ten"))) := by
    rw [document, hread]
    rfl
  have hgiven : (inputText tenRows == "") = false := by decide +kernel
  have hrun := run_arguments lib 1000 false tenRows fun _ => none
  rw [hgiven, if_neg Bool.false_ne_true, hdocument] at hrun
  exact congrArg Outcome.uncaught hrun

end CommandLine
end SelectQuery
