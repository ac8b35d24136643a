import Mathlib.Tactic.ByContra
import SelectQuery.Proofs.Build
import SelectQuery.Proofs.Statement.Screened
import SelectQuery.Service

/-!
# What reaches the database

A run of the service answers any number of requests. A query that comes as text reaches the
database only if both screens accept it, and nothing reaches the database for a rejected
request. A configuration is another matter: its preview is screened and its bound statement
is run. A run hands over nothing but accepted text if and only if every configuration that
it runs keeps what was accepted (`run_accepted_iff`), and not every configuration does
(`run_dropping`).

Requests leave the service as it is, so that a run is its steps side by side, and everything
comes down to a single step. Rejections come from the screens alone, never from the database
or from what is done with its answer (`guarded_call`, `Guarded.andThen`). The text of a call
was accepted, or is the bound statement of a configuration with an accepted preview.
-/

namespace SelectQuery

open Screen

/-! ## Rejections -/

/-- A text was rejected. -/
def IsRejection {α : Type} (outcome : Except Error α) : Prop :=
  ∃ errors sql, outcome = .error (.rejected errors sql)

section Rejections

variable {α β : Type}

theorem not_isRejection_ok (a : α) : ¬ IsRejection (.ok a : Except Error α) := by
  rintro ⟨errors, sql, h⟩
  simp at h

theorem not_isRejection_bind {r : Except Error α} {f : α → Except Error β}
    (hr : ¬ IsRejection r) (hf : ∀ a, ¬ IsRejection (f a)) : ¬ IsRejection (r >>= f) := by
  cases r with
  | ok a => exact hf a
  | error e =>
      rintro ⟨errors, sql, h⟩
      obtain rfl : e = .rejected errors sql := Except.error.inj h
      exact hr ⟨errors, sql, rfl⟩

theorem not_isRejection_mapM {f : α → Except Error β} (hf : ∀ a, ¬ IsRejection (f a))
    (items : List α) : ¬ IsRejection (items.mapM f) := by
  induction items with
  | nil => exact not_isRejection_ok []
  | cons a items ih =>
      rw [List.mapM_cons]
      exact not_isRejection_bind (hf a) fun b =>
        not_isRejection_bind ih fun bs => not_isRejection_ok (b :: bs)

end Rejections

namespace Result

theorem not_isRejection_listed (row : Value) : ¬ IsRejection (listed row) := by
  rintro ⟨errors, sql, h⟩
  unfold listed at h
  split at h <;> simp at h

theorem not_isRejection_csv (r : Result) : ¬ IsRejection r.csv := by
  refine not_isRejection_bind (not_isRejection_mapM (fun row => ?_) _) fun _ =>
    not_isRejection_ok _
  rintro ⟨errors, sql, h⟩
  unfold cells at h
  split at h <;> simp at h

theorem not_isRejection_isTooSmall (v : Value) : ¬ IsRejection (isTooSmall v) := by
  rintro ⟨errors, sql, h⟩
  unfold isTooSmall at h
  split at h <;> simp at h

theorem not_isRejection_count (v : Value) : ¬ IsRejection (count v) := by
  rintro ⟨errors, sql, h⟩
  unfold count at h
  split at h <;> simp at h

theorem not_isRejection_page (r : Result) (number size : Value) :
    ¬ IsRejection (r.page number size) := by
  have hthrow : ¬ IsRejection (throw (.badValue .pageNotPositive) : Except Error Result) := by
    rintro ⟨errors, sql, h⟩
    cases h
  refine not_isRejection_bind (not_isRejection_isTooSmall number) fun few => ?_
  cases few with
  | true => exact hthrow
  | false =>
      refine not_isRejection_bind (not_isRejection_isTooSmall size) fun small => ?_
      cases small with
      | true => exact hthrow
      | false =>
          exact not_isRejection_bind (not_isRejection_count number) fun n =>
            not_isRejection_bind (not_isRejection_count size) fun k => not_isRejection_ok _

end Result

namespace Exchange

variable {α β : Type}

/-- Nothing reaches the database for what is rejected. -/
def Guarded (e : Exchange α) : Prop := IsRejection e.outcome → e.calls = []

theorem guarded_silent (outcome : Except Error α) : (silent outcome).Guarded := fun _ => rfl

theorem Guarded.andThen {e : Exchange α} {f : α → Except Error β} (h : e.Guarded)
    (hf : ∀ a, ¬ IsRejection (f a)) : (e.andThen f).Guarded := by
  intro hrejected
  apply h
  by_contra hnot
  exact not_isRejection_bind hnot hf hrejected

end Exchange

/-! ## Configurations without a dialect -/

variable {ν : Type} [Entry ν]

namespace Configuration

theorem eq_text_of_build_render {c : Configuration ν} {mode : Mode} {built : Statement ν}
    (hbuilt : c.build mode = .ok built) {text : String} (hrendered : built.render = .ok text) :
    text = (c.statement mode).text := by
  unfold build at hbuilt
  split at hbuilt
  · simp at hbuilt
  obtain rfl := Except.ok.inj hbuilt
  unfold Statement.render at hrendered
  split at hrendered
  · simp at hrendered
  · exact (Except.ok.inj hrendered).symm

/-- Without a dialect to adapt to, the preview is shown as it is. -/
theorem preview_eq_ok {c : Configuration ν} {dialect : Option String}
    (hdialect : targetDialect? dialect = none) {lib : Translator} {text : String}
    (h : c.preview lib dialect = .ok text) :
    text = (c.statement .preview).text := by
  obtain ⟨built, hbuilt, h⟩ := Except.bind_eq_ok.mp h
  obtain ⟨rendered, hrendered, h⟩ := Except.bind_eq_ok.mp h
  rw [adapt, hdialect] at h
  obtain rfl := Except.ok.inj h
  exact eq_text_of_build_render hbuilt hrendered

/-- Without a dialect to adapt to, the bound statement is run as it is. -/
theorem prepare_eq_ok {c : Configuration ν} {dialect : Option String}
    (hdialect : targetDialect? dialect = none) {lib : Translator} {p : Prepared}
    (h : c.prepare lib dialect = .ok p) :
    p.text = (c.statement .bound).text := by
  obtain ⟨built, hbuilt, h⟩ := Except.bind_eq_ok.mp h
  obtain ⟨rendered, hrendered, h⟩ := Except.bind_eq_ok.mp h
  rw [hdialect] at h
  obtain rfl := Except.ok.inj h
  exact eq_text_of_build_render hbuilt hrendered

end Configuration

/-! ## Requests -/

/-- What the service is asked to run. -/
inductive Request (ν : Type)
  | statement (sql : String) (params : Value)
  | configuration (c : Configuration ν)
  | page (sql : String) (number size : Value)
  | csv (sql : String)

namespace Service

variable {μ : Type}

/-- The calls for a request, and whether there is an answer to it. -/
def serve (lib : Translator) (s : Service μ) (reply : Reply) : Request ν → Exchange Unit
  | .statement sql params => (s.execute sql params reply).andThen fun _ => .ok ()
  | .configuration c => (s.executeConfiguration lib c reply).andThen fun _ => .ok ()
  | .page sql number size => (s.executePage sql number size reply).andThen fun _ => .ok ()
  | .csv sql => (s.exportCsv sql reply).andThen fun _ => .ok ()

/-- What requests lead to, each with the reply of the database. -/
def run (lib : Translator) (s : Service μ) (steps : List (Request ν × Reply)) :
    List (Exchange Unit) :=
  steps.map fun (request, reply) => s.serve lib reply request

variable (lib : Translator) (s : Service μ)

theorem guarded_call (sql : String) (params : List (String × Value)) (reply : Reply) :
    (s.call sql params reply).Guarded := by
  intro hrejected
  cases reply with
  | error o =>
      obtain ⟨errors, text, h⟩ := hrejected
      cases o <;> simp [call, Outage.toError] at h
  | ok r =>
      refine absurd hrejected ?_
      exact not_isRejection_bind (not_isRejection_mapM Result.not_isRejection_listed _) fun rows =>
        not_isRejection_ok _

/-! ## Text -/

theorem guarded_execute (sql : String) (params : Value) (reply : Reply) :
    (s.execute sql params reply).Guarded := by
  unfold execute
  split
  · exact s.guarded_call _ _ _
  · exact Exchange.guarded_silent _

/-- A text reaches the database as it is, and only if both screens accept it. -/
theorem accepted_of_mem_execute {sql : String} {params : Value} {reply : Reply} {k : Call}
    (hk : k ∈ (s.execute sql params reply).calls) : Accepted k.sql := by
  unfold execute at hk
  split at hk
  · next given hgiven =>
      obtain ⟨⟨⟩, hcheck, -⟩ := Except.bind_eq_ok.mp hgiven
      obtain rfl : k = ⟨sql, given⟩ := List.mem_singleton.mp hk
      exact check_eq_ok_iff.mp hcheck
  · exact absurd hk List.not_mem_nil

/-! ## Configurations -/

theorem guarded_executeConfiguration (c : Configuration ν) (reply : Reply) :
    (s.executeConfiguration lib c reply).Guarded := by
  unfold executeConfiguration
  split
  · exact s.guarded_call _ _ _
  · exact Exchange.guarded_silent _

variable {lib s}

/-- What is run of a configuration is its bound statement, and what is accepted before is its
preview. -/
theorem of_mem_executeConfiguration (hdialect : targetDialect? s.dialect = none)
    {c : Configuration ν} {reply : Reply} {k : Call}
    (hk : k ∈ (s.executeConfiguration lib c reply).calls) :
    Accepted (c.statement .preview).text ∧ k.sql = (c.statement .bound).text := by
  unfold executeConfiguration at hk
  split at hk
  · next p hp =>
      obtain ⟨shown, hshown, hp⟩ := Except.bind_eq_ok.mp hp
      obtain ⟨⟨⟩, hcheck, hp⟩ := Except.bind_eq_ok.mp hp
      rw [Configuration.preview_eq_ok hdialect hshown] at hcheck
      obtain rfl := List.mem_singleton.mp hk
      exact ⟨check_eq_ok_iff.mp hcheck, Configuration.prepare_eq_ok hdialect hp⟩
  · exact absurd hk List.not_mem_nil

/-- Without a dialect, entries of text with an accepted preview are run as their bound statement. -/
theorem calls_executeConfiguration (hdialect : targetDialect? s.dialect = none)
    {c : Configuration String} {built : Statement String} (hlimit : c.PrintsLimit)
    (hbuilt : c.build .bound = .ok built) (haccepted : Accepted (c.statement .preview).text)
    (reply : Reply) : (s.executeConfiguration lib c reply).calls =
      [⟨built.text, built.params.map fun (name, v) => (name, v.toValue)⟩] := by
  have hscreened : s.screened lib c = .ok ⟨built.text, built.params, built.kinds⟩ := by
    rw [screened, preview, c.preview_string hlimit hdialect lib]
    show (check (c.statement .preview).text >>= fun _ => c.prepare lib s.dialect) = _
    rw [check_eq_ok_iff.mpr haccepted]
    exact c.prepare_string hbuilt hdialect lib
  rw [executeConfiguration, hscreened]
  rfl

/-! ## Runs -/

/-- A step is guarded, whatever is asked. -/
theorem guarded_serve (reply : Reply) (request : Request ν) :
    (s.serve lib reply request).Guarded := by
  cases request with
  | statement sql params =>
      exact (s.guarded_execute sql params reply).andThen fun _ => not_isRejection_ok _
  | configuration c =>
      exact (s.guarded_executeConfiguration lib c reply).andThen fun _ => not_isRejection_ok _
  | page sql number size =>
      exact ((s.guarded_execute sql .null reply).andThen fun r =>
        r.not_isRejection_page number _).andThen fun _ => not_isRejection_ok _
  | csv sql =>
      exact ((s.guarded_execute sql .null reply).andThen Result.not_isRejection_csv).andThen
        fun _ => not_isRejection_ok _

/-- A step hands over accepted text, unless it runs a configuration that does not keep what
was accepted. -/
theorem serve_accepted_iff (hdialect : targetDialect? s.dialect = none) (reply : Reply)
    (request : Request ν) :
    (∀ k ∈ (s.serve lib reply request).calls, Accepted k.sql) ↔
      ∀ c, request = .configuration c → (s.executeConfiguration lib c reply).calls ≠ [] →
        c.KeepsAccepted := by
  cases request with
  | configuration c =>
      constructor
      · intro h c' hc hcalls
        obtain rfl : c = c' := Request.configuration.inj hc
        obtain ⟨k, hk⟩ := List.exists_mem_of_ne_nil _ hcalls
        obtain ⟨hpreview, hsql⟩ := of_mem_executeConfiguration hdialect hk
        have haccepted : Accepted k.sql := h k hk
        rw [hsql] at haccepted
        exact (Configuration.accepted_bound_iff hpreview).mp haccepted
      · intro h k hk
        have hcalls : (s.executeConfiguration lib c reply).calls ≠ [] := List.ne_nil_of_mem hk
        obtain ⟨hpreview, hsql⟩ := of_mem_executeConfiguration hdialect hk
        rw [hsql]
        exact (Configuration.accepted_bound_iff hpreview).mpr (h c rfl hcalls)
  | statement sql params =>
      exact iff_of_true (fun k hk => accepted_of_mem_execute s hk) fun c hc => by cases hc
  | page sql number size =>
      exact iff_of_true (fun k hk => accepted_of_mem_execute s hk) fun c hc => by cases hc
  | csv sql =>
      exact iff_of_true (fun k hk => accepted_of_mem_execute s hk) fun c hc => by cases hc

/-- In a run without a dialect nothing reaches the database for a rejected request, and all
that reaches it is accepted by both screens if and only if every configuration that is run
keeps what was accepted. -/
theorem run_accepted_iff (hdialect : targetDialect? s.dialect = none)
    (steps : List (Request ν × Reply)) :
    (∀ e ∈ s.run lib steps, IsRejection e.outcome → e.calls = []) ∧
    ((∀ e ∈ s.run lib steps, ∀ k ∈ e.calls, Accepted k.sql) ↔
      ∀ c reply, (.configuration c, reply) ∈ steps →
        (s.executeConfiguration lib c reply).calls ≠ [] → c.KeepsAccepted) := by
  constructor
  · intro e he
    obtain ⟨⟨request, reply⟩, -, rfl⟩ := List.mem_map.mp he
    exact guarded_serve reply request
  constructor
  · intro h c reply hmem
    have hstep := h _ (List.mem_map_of_mem hmem)
    exact (serve_accepted_iff hdialect reply _).mp hstep c rfl
  · intro h e he
    obtain ⟨⟨request, reply⟩, hmem, rfl⟩ := List.mem_map.mp he
    refine (serve_accepted_iff hdialect reply request).mpr fun c hc => ?_
    exact h c reply (hc ▸ hmem)

/-- A configuration with a value to hand over. -/
def adults : Configuration String where
  tables := [⟨"users", "", none⟩]
  conditions := [⟨"age", .term .ge, "18", none, "condition_1"⟩]

theorem run_accepted_adults :
    targetDialect? ({} : Service String).dialect = none ∧
    ∀ lib, ∀ e ∈ ({} : Service String).run lib [(.configuration adults, .ok {})],
      ∀ k ∈ e.calls, Accepted k.sql := by
  have hdialect : targetDialect? ({} : Service String).dialect = none := rfl
  refine ⟨hdialect, fun lib => (run_accepted_iff hdialect _).2.mpr ?_⟩
  intro c reply hmem _
  obtain ⟨rfl, -⟩ : c = adults ∧ reply = .ok {} := by simpa using hmem
  exact ⟨.inl (by decide), by decide, by decide +kernel, by decide +kernel⟩

/-- In the preview the value opens a comment, which hides the second column. In the bound
statement the quote of the second column closes that of the first one instead, and what
follows is a statement of its own. -/
def dropping : Configuration String where
  tables := [⟨"users", "", none⟩]
  conditions := [⟨"name = '", .term .eq, "/*", none, "condition_1"⟩,
    ⟨"'; drop table users -- */", .term .isNull, "", some (.term .and), "condition_2"⟩]

def droppingText : String :=
  "SELECT *\nFROM users\nWHERE name = ' = :p1 AND '; drop table users -- */ IS NULL"

/-- A text reaches the database that neither screen accepts. -/
theorem run_dropping :
    (∀ lib, ((({} : Service String).run lib [(.configuration dropping, .ok {})]).flatMap
      Exchange.calls).map Call.sql = [droppingText]) ∧
    Script.isSelect droppingText = false ∧ isValid droppingText = false := by
  refine ⟨fun lib => ?_, by decide +kernel, ?_⟩
  · have hlimit : dropping.PrintsLimit := by simp [Configuration.PrintsLimit, dropping]
    have hbuild : dropping.build .bound = .ok (dropping.statement .bound) :=
      dropping.build_string .bound (by decide +kernel) hlimit
    have haccepted : Accepted (dropping.statement .preview).text :=
      ⟨by decide +kernel, by decide +kernel⟩
    have htext : (dropping.statement .bound).text = droppingText := by decide +kernel
    have hcalls : (({} : Service String).executeConfiguration lib dropping (.ok {})).calls =
        [⟨_, _⟩] :=
      calls_executeConfiguration rfl hlimit hbuild haccepted (.ok {})
    rw [run, List.map_singleton, List.flatMap_singleton]
    exact (congrArg (List.map Call.sql) hcalls).trans (congrArg (fun text => [text]) htext)
  have hdrop : findForbidden droppingText = ["drop"] := by decide +kernel
  rw [← Bool.not_eq_true, isValid_iff, hdrop]
  simp

end Service
end SelectQuery
