import ScriptHost.Proofs.Context.Course
import ScriptHost.Session.Basic

/-!
# The course of a run in a session

A run in a session gets the backend ready, runs the script behind the assignments of the kept
variables, and asks for the global names that the run left behind. It can stop at every one of these
steps. `RunCourse` lists all ways in which it can go: its outcome, the calls of the backend that it
makes with what comes of them, and the session behind it.

## Main definitions

* `ScriptHost.Session.sentScript` — the script that the backend is given.
* `ScriptHost.Session.RunCourse` — the ways a run can go.

## Main results

* `ScriptHost.Session.run_course` — every run goes in one of the ways.
* `ScriptHost.Session.run_of_closed` — a closed session refuses every run and stays as it is.
* `ScriptHost.Session.RunCourse.events` — the record of a backend grows by the calls of a run.
-/

namespace ScriptHost

variable {ω α β : Type}

/-! ## Operations on a context that is ready -/

namespace Context

variable (backend : Backend ω)

/-- A context that was not disposed says whether its backend can report global names once the
backend is ready. -/
lemma supportsGlobals_cases {c : Context ω} (hl : c.lifecycle ≠ .disposed) :
    ∃ calls d, (∃ failure, SetUp backend c (.error failure) calls d ∧
        supportsGlobals backend c = (.error failure, d)) ∨
      SetUp backend c (.ok ()) calls d ∧
        supportsGlobals backend c = (.ok (backend.offers d.world).globals, d) := by
  obtain ⟨calls, d, ⟨s, hi⟩ | ⟨failure, s, hi⟩⟩ := init_cases backend c hl
  · exact ⟨calls, d, .inr ⟨s, bind_of_ok hi⟩⟩
  · exact ⟨calls, d, .inl ⟨failure, s, bind_of_error hi⟩⟩

/-- A context whose backend is ready refuses a script, or it is idle and runs the script. -/
lemma run_cases (submission : Submission) {c : Context ω} (hi : c.initialized = true) :
    (∃ failure, run backend submission c = (.error failure, c)) ∨
      c.lifecycle = .idle ∧ run backend submission c =
        ((ask backend (.run (effectiveScript c.config submission.script)) c).1.bind
            (valueOf Record.runResult),
          (ask backend (.run (effectiveScript c.config submission.script)) c).2) := by
  by_cases hidle : c.lifecycle = .idle
  case neg =>
    have hnot : c.lifecycle ∉ (Operation.run submission).allowed := by
      simpa [Operation.allowed] using hidle
    exact .inl ⟨_, perform_of_not_allowed hnot⟩
  cases hinputs : submission.inputs.isEmpty with
  | false => exact .inl ⟨_, bind_of_error (prepare_of_inputs "run" hidle hinputs)⟩
  | true =>
    have hprepare : prepare backend "run" submission c =
        (.ok (effectiveScript c.config submission.script), c) := by
      unfold prepare
      rw [bind_of_ok (require_of_mem "run" (by simp [hidle])), if_pos hinputs]
      exact bind_of_ok (init_of_initialized (by simp [hidle]) hi)
    refine .inr ⟨hidle, (bind_of_ok hprepare).trans ?_⟩
    rw [bind_apply]
    rcases ask backend (.run (effectiveScript c.config submission.script)) c with
      ⟨failure | reply, d⟩
    · rfl
    · exact ofExcept_apply _ d

/-- An idle context whose backend is ready reports the global names that the backend reports, unless
the backend does not offer to. -/
lemma globals_of_ready {c : Context ω} (hidle : c.lifecycle = .idle) (hi : c.initialized = true) :
    globals backend c = if (backend.offers c.world).globals then
        ((ask backend .globals c).1.bind (valueOf Record.globals), (ask backend .globals c).2)
      else (.error (.unsupported backend.name "globals"), c) := by
  unfold globals
  rw [bind_of_ok (require_of_mem "globals" (by simp [hidle])), bind_of_ok (get_apply c), if_pos hi]
  cases hoffered : (backend.offers c.world).globals with
  | false => exact bind_of_error (demand_of_not_offered _ hoffered)
  | true =>
    rw [bind_of_ok (demand_of_offered _ hoffered), bind_apply]
    rcases ask backend .globals c with ⟨failure | reply, d⟩
    · rfl
    · exact ofExcept_apply _ d

/-- A run that ended leaves the backend ready. -/
lemma ready_of_value {call : Backend.Call} {c : Context ω} {answer : call.Answer}
    (hi : c.initialized = true) (h : (ask backend call c).1 = .ok answer) :
    (ask backend call c).2.initialized = true := by
  rw [ask_initialized, hi, h]
  rfl

end Context

namespace Session

open Context (SetUp ask exchange valueOf)

/-! ## Actions on a session -/

lemma get_apply (s : Session ω) : (get : Action ω (Session ω)) s = (.ok s, s) := rfl

/-- An action on the context leaves the kept variables alone. -/
lemma onContext_of_eq {action : Context.Action ω α} {session : Session ω}
    {outcome : Except Failure α} {c : Context ω} (h : action session.context = (outcome, c)) :
    onContext action session = (outcome, { session with context := c }) := by
  show ((action session.context).1, { session with context := (action session.context).2 }) = _
  rw [h]

/-! ## Courses -/

/-- The script that the backend is given for a submission. -/
def sentScript (session : Session ω) (submission : Submission) : Script (Option String) :=
  Context.effectiveScript session.context.config (withPreamble session.kept submission).script

/-- The ways a run in a session can go: the outcome, the calls of the backend, and the session
behind them. -/
inductive RunCourse (backend : Backend ω) (submission : Submission) (session : Session ω) :
    Except Failure RunResult → List Backend.Exchange → Session ω → Prop
  /-- The session or its context refuses the run. -/
  | refused {failure : Failure} : RunCourse backend submission session (.error failure) [] session
  /-- The backend could not be made ready. -/
  | unready {failure : Failure} {calls : List Backend.Exchange} {d : Context ω}
      (s : SetUp backend session.context (.error failure) calls d) :
      RunCourse backend submission session (.error failure) calls { session with context := d }
  /-- The run is refused after the backend was made ready. -/
  | withheld {failure : Failure} {calls : List Backend.Exchange} {d : Context ω}
      (s : SetUp backend session.context (.ok ()) calls d) :
      RunCourse backend submission session (.error failure) calls { session with context := d }
  /-- The run fails. -/
  | failed {failure : Failure} {calls : List Backend.Exchange} {d e : Context ω}
      {script : Script (Option String)} (s : SetUp backend session.context (.ok ()) calls d)
      (hscript : script = sentScript session submission)
      (he : e = (ask backend (.run script) d).2)
      (hran : (ask backend (.run script) d).1.bind (valueOf Record.runResult) = .error failure) :
      RunCourse backend submission session (.error failure)
        (calls ++ [exchange backend (.run script) d]) { session with context := e }
  /-- The script raises an error. -/
  | raised {result : RunResult} {error : ScriptError} {calls : List Backend.Exchange}
      {d e : Context ω} {script : Script (Option String)}
      (s : SetUp backend session.context (.ok ()) calls d)
      (hscript : script = sentScript session submission)
      (he : e = (ask backend (.run script) d).2)
      (hran : (ask backend (.run script) d).1.bind (valueOf Record.runResult) = .ok result)
      (herror : result.error = some error) :
      RunCourse backend submission session
        (.ok { result with error := some (error.shifted (preambleLines session.kept)) })
        (calls ++ [exchange backend (.run script) d]) { session with context := e }
  /-- The backend does not offer to report global names any more. -/
  | unnamed {result : RunResult} {calls : List Backend.Exchange} {d e : Context ω}
      {script : Script (Option String)} (s : SetUp backend session.context (.ok ()) calls d)
      (hscript : script = sentScript session submission)
      (he : e = (ask backend (.run script) d).2)
      (hran : (ask backend (.run script) d).1.bind (valueOf Record.runResult) = .ok result)
      (herror : result.error = none) :
      RunCourse backend submission session (.error (.unsupported backend.name "globals"))
        (calls ++ [exchange backend (.run script) d]) { session with context := e }
  /-- The global names are not reported. -/
  | unread {result : RunResult} {failure : Failure} {calls : List Backend.Exchange}
      {d e : Context ω} {script : Script (Option String)}
      (s : SetUp backend session.context (.ok ()) calls d)
      (hscript : script = sentScript session submission)
      (he : e = (ask backend (.run script) d).2)
      (hran : (ask backend (.run script) d).1.bind (valueOf Record.runResult) = .ok result)
      (herror : result.error = none)
      (hnames : (ask backend .globals e).1.bind (valueOf Record.globals) = .error failure) :
      RunCourse backend submission session (.error failure)
        (calls ++ [exchange backend (.run script) d, exchange backend .globals e])
        { session with context := (ask backend .globals e).2 }
  /-- The global names are reported and take the place of the kept variables. -/
  | captured {result : RunResult} {names : Globals} {calls : List Backend.Exchange}
      {d e : Context ω} {script : Script (Option String)}
      (s : SetUp backend session.context (.ok ()) calls d)
      (hscript : script = sentScript session submission)
      (he : e = (ask backend (.run script) d).2)
      (hran : (ask backend (.run script) d).1.bind (valueOf Record.runResult) = .ok result)
      (herror : result.error = none)
      (hnames : (ask backend .globals e).1.bind (valueOf Record.globals) = .ok names) :
      RunCourse backend submission session (.ok result)
        (calls ++ [exchange backend (.run script) d, exchange backend .globals e])
        { session with context := (ask backend .globals e).2, kept := capture names }

/-- A closed session refuses every run and stays as it is. -/
lemma run_of_closed (backend : Backend ω) (submission : Submission) {session : Session ω}
    (h : session.closed = true) :
    run backend submission session =
      (.error (.state "session run" [.idle] .disposed), session) := by
  unfold run
  rw [bind_of_ok (get_apply session), if_pos h]
  rfl

/-- What is left of a run when the script has ended. -/
def finishRun (backend : Backend ω) (kept : Dict String Json) (result : RunResult) :
    Action ω RunResult :=
  match result.error with
  | some error => return { result with error := some (error.shifted (preambleLines kept)) }
  | none => do
    let names ← onContext (Context.globals backend)
    modify fun session => { session with kept := capture names }
    return result

/-- A run in a session that is open asks whether global names are reported, runs the script, and
finishes. -/
lemma run_of_open (backend : Backend ω) (submission : Submission) {session : Session ω}
    (h : session.closed = false) :
    run backend submission session = (do
      let supported ← onContext (Context.supportsGlobals backend)
      unless supported do
        throw (.unsupported backend.name "session")
      let result ← onContext (Context.run backend (withPreamble session.kept submission))
      finishRun backend session.kept result : Action ω RunResult) session := by
  unfold run
  rw [bind_of_ok (get_apply session), if_neg (by simp [h])]
  rfl

/-- A run whose script ended goes on as its result says.

**Proof sketch.** An error that the script raised ends the run. Otherwise the context is as idle as
it was before the script and its backend is ready, so the global names are asked for when the
backend offers them. -/
lemma finishRun_course (backend : Backend ω) {submission : Submission} {session : Session ω}
    {calls : List Backend.Exchange} {d e : Context ω} {script : Script (Option String)}
    {result : RunResult} (s : SetUp backend session.context (.ok ()) calls d)
    (hscript : script = sentScript session submission) (hidle : d.lifecycle = .idle)
    (hran : (ask backend (.run script) d).1.bind (valueOf Record.runResult) = .ok result)
    (he : e = (ask backend (.run script) d).2) :
    ∃ outcome more next,
      finishRun backend session.kept result { session with context := e } = (outcome, next) ∧
        RunCourse backend submission session outcome more next := by
  unfold finishRun
  cases herror : result.error with
  | some error => exact ⟨_, _, _, rfl, .raised s hscript he hran herror⟩
  | none =>
    have hready : e.initialized = true := by
      rcases hreply : (ask backend (.run script) d).1 with failure | reply
      · rw [hreply] at hran
        cases hran
      · rw [he]
        exact Context.ready_of_value backend s.initialized hreply
    have hnames := Context.globals_of_ready backend (c := e) (by rw [he]; simpa using hidle) hready
    cases hoffered : (backend.offers e.world).globals with
    | false =>
      rw [hoffered, if_neg Bool.false_ne_true] at hnames
      exact ⟨_, _, _, bind_of_error (onContext_of_eq hnames),
        .unnamed s hscript he hran herror⟩
    | true =>
      rw [hoffered, if_pos rfl] at hnames
      rcases hread : (ask backend .globals e).1.bind (valueOf Record.globals) with failure | names
      · rw [hread] at hnames
        exact ⟨_, _, _, bind_of_error (onContext_of_eq hnames),
          .unread s hscript he hran herror hread⟩
      · rw [hread] at hnames
        exact ⟨_, _, _, bind_of_ok (onContext_of_eq hnames),
          .captured s hscript he hran herror hread⟩

/-- **Every run goes in one of the ways.** -/
theorem run_course (backend : Backend ω) (submission : Submission) (session : Session ω) :
    ∃ calls, RunCourse backend submission session (run backend submission session).1 calls
      (run backend submission session).2 := by
  suffices h : ∃ outcome calls next, run backend submission session = (outcome, next) ∧
      RunCourse backend submission session outcome calls next by
    obtain ⟨outcome, calls, next, hrun, k⟩ := h
    exact ⟨calls, by rw [hrun]; exact k⟩
  cases hclosed : session.closed with
  | true => exact ⟨_, _, _, run_of_closed backend submission hclosed, .refused⟩
  | false =>
    rw [run_of_open backend submission hclosed]
    by_cases hl : session.context.lifecycle = .disposed
    case pos =>
      have hsupports : Context.supportsGlobals backend session.context =
          (.error (.state "init" [.idle, .active] .disposed), session.context) :=
        bind_of_error (Context.init_disposed backend hl)
      exact ⟨_, _, _, bind_of_error (onContext_of_eq hsupports), .refused⟩
    obtain ⟨calls, d, ⟨failure, s, hsupports⟩ | ⟨s, hsupports⟩⟩ :=
      Context.supportsGlobals_cases backend hl
    · exact ⟨_, _, _, bind_of_error (onContext_of_eq hsupports), .unready s⟩
    · rw [bind_of_ok (onContext_of_eq hsupports)]
      cases (backend.offers d.world).globals with
      | false => exact ⟨_, _, _, rfl, .withheld s⟩
      | true =>
        have hscript : sentScript session submission = Context.effectiveScript d.config
            (withPreamble session.kept submission).script := by
          rw [s.kept.2.2.2, sentScript]
        rcases Context.run_cases backend (withPreamble session.kept submission) s.initialized with
          ⟨failure, hrun⟩ | ⟨hidle, hrun⟩
        · exact ⟨_, _, _, bind_of_error (onContext_of_eq hrun), .withheld s⟩
        · rw [← hscript] at hrun
          rcases hran : (ask backend (.run (sentScript session submission)) d).1.bind
            (valueOf Record.runResult) with failure | result <;> rw [hran] at hrun
          · exact ⟨_, _, _, bind_of_error (onContext_of_eq hrun), .failed s rfl rfl hran⟩
          · obtain ⟨outcome, more, next, hfinish, k⟩ :=
              finishRun_course backend s rfl hidle hran rfl
            exact ⟨outcome, more, next, (bind_of_ok (onContext_of_eq hrun)).trans hfinish, k⟩

/-! ## What a run records -/

/-- The record of a backend grows by the calls of a run. -/
lemma RunCourse.events {backend : Backend ω} {submission : Submission}
    {session next : Session (Recorded Backend.Exchange ω)} {outcome : Except Failure RunResult}
    {calls : List Backend.Exchange}
    (k : RunCourse backend.recorded submission session outcome calls next) :
    next.context.world.events = session.context.world.events ++ calls := by
  cases k with
  | refused => simp
  | unready s => exact s.events
  | withheld s => exact s.events
  | failed s _ he _ => rw [he, Context.ask_events, s.events, List.append_assoc]
  | raised s _ he _ _ => rw [he, Context.ask_events, s.events, List.append_assoc]
  | unnamed s _ he _ _ => rw [he, Context.ask_events, s.events, List.append_assoc]
  | unread s _ he _ _ _ =>
    rw [Context.ask_events, he, Context.ask_events, s.events]
    simp
  | captured s _ he _ _ _ =>
    rw [Context.ask_events, he, Context.ask_events, s.events]
    simp

end Session

end ScriptHost
