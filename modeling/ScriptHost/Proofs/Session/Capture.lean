import ScriptHost.Proofs.Session.Course

/-!
# The kept variables of a session

A run takes new variables into a session only when it comes to its end without an error: the script
ran, it raised nothing, and the backend then reported the global names, whose data are kept from
then on. A run that ends in any other way leaves the variables as they were, wherever it stops.

A session that was closed stays closed and keeps nothing, and it passes no run on to its context.

## Main definitions

* `ScriptHost.Session.Operation`, `ScriptHost.Session.after` — what the user of a session can do,
  and the session behind it.
* `ScriptHost.Session.Captures` — calls that run a script and then report the variables to be kept.
* `ScriptHost.Session.CaptureLaw` — how a run changes the kept variables.

## Main results

* `ScriptHost.Session.mem_capture_iff` — the variables that are kept are the global names that are
  data.
* `ScriptHost.Session.RunCourse.captureLaw` — every run obeys the law.
* `ScriptHost.Session.capture_law` — so does every run of every session.
-/

namespace ScriptHost.Session

variable {ω : Type}

open Backend (Exchange)
open Context (valueOf)

/-! ## Sessions in use -/

/-- What the user of a session can do with it. -/
inductive Operation (ω : Type) where
  /-- Runs a script. -/
  | run (submission : Submission)
  /-- Forgets the kept variables. -/
  | clear
  /-- Closes the session. -/
  | close
  /-- Closes the session and disposes its context. -/
  | dispose
  /-- Does anything to the context. -/
  | act (change : Context ω → Context ω)

/-- The session behind an operation. -/
def perform (backend : Backend ω) : Operation ω → Session ω → Session ω
  | .run submission, session => (run backend submission session).2
  | .clear, session => session.clear
  | .close, session => session.close
  | .dispose, session => (dispose backend session).2
  | .act change, session => { session with context := change session.context }

/-- The session behind some operations, the latest of which stands first. -/
def after (backend : Backend ω) (start : Session ω) : List (Operation ω) → Session ω
  | [] => start
  | op :: past => perform backend op (after backend start past)

/-! ## The law -/

/-- The last calls run a script with a result and then report global names, the data among which are
kept. -/
def Captures (calls : List Exchange) (result : RunResult) (kept : Dict String Json) : Prop :=
  ∃ earlier script ran names reported,
    calls = earlier ++ [⟨.run script, .ok ran⟩, ⟨.globals, .ok names⟩] ∧
      valueOf Record.runResult ran = .ok result ∧ valueOf Record.globals names = .ok reported ∧
      ∀ name value, (name, value) ∈ kept.entries ↔ (name, .data value) ∈ reported.entries

/-- How a run that makes some calls and ends with an outcome changes the kept variables. -/
structure CaptureLaw (outcome : Except Failure RunResult) (calls : List Exchange)
    (before next : Dict String Json) : Prop where
  /-- A run that ends without an error keeps the global names that were reported after it, and no
  other run keeps any. -/
  captures_iff : ∀ result,
    (outcome = .ok result ∧ result.error = none) ↔ Captures calls result next
  /-- Every other run leaves the variables alone. -/
  kept : (∀ result, outcome = .ok result → result.error ≠ none) → next = before

/-- The variables that are kept are the global names that are data. -/
lemma mem_capture_iff (names : Globals) (name : String) (value : Json) :
    (name, value) ∈ (capture names).entries ↔ (name, Global.data value) ∈ names.entries := by
  simp only [capture, Dict.filterMap, List.mem_filterMap, Option.map_eq_some_iff, Prod.mk.injEq]
  constructor
  · rintro ⟨⟨key, global⟩, hmem, data, hdata, rfl, rfl⟩
    cases global with
    | data value =>
      cases hdata
      exact hmem
    | foreign typeName => cases hdata
  · intro hmem
    exact ⟨_, hmem, value, rfl, rfl, rfl⟩

/-- Captured variables were reported by the last call. -/
lemma Captures.getLast?_eq {calls : List Exchange} {result : RunResult} {kept : Dict String Json}
    (h : Captures calls result kept) : ∃ names reported,
      calls.getLast? = some ⟨.globals, .ok names⟩ ∧
        valueOf Record.globals names = .ok reported := by
  obtain ⟨earlier, script, ran, names, reported, rfl, -, hnames, -⟩ := h
  exact ⟨names, reported, by simp, hnames⟩

/-! ## Runs obey the law -/

/-- A run without captured variables that does not end well obeys the law. -/
lemma CaptureLaw.of_not_captured {outcome : Except Failure RunResult} {calls : List Exchange}
    {before next : Dict String Json}
    (houtcome : ∀ result, outcome = .ok result → result.error ≠ none) (hnext : next = before)
    (hcalls : ∀ names reported, calls.getLast? = some ⟨.globals, .ok names⟩ →
      valueOf Record.globals names ≠ .ok reported) :
    CaptureLaw outcome calls before next where
  captures_iff result := by
    constructor
    · rintro ⟨hresult, herror⟩
      exact absurd herror (houtcome result hresult)
    · intro h
      obtain ⟨names, reported, hlast, hread⟩ := h.getLast?_eq
      exact absurd hread (hcalls names reported hlast)
  kept _ := hnext

/-- A failed run ends without a result. -/
lemma ne_ok_of_error {failure : Failure} (result : RunResult)
    (h : (.error failure : Except Failure RunResult) = .ok result) : result.error ≠ none := by
  cases h

/-- A call of another kind does not report global names. -/
lemma getLast?_ne_globals {calls : List Exchange} {x : Exchange} (hx : x.call ≠ .globals)
    (answer : Except Failure (Reply Globals)) :
    (calls ++ [x]).getLast? ≠ some ⟨.globals, answer⟩ := by
  rw [List.getLast?_concat]
  rintro ⟨⟩
  exact hx rfl

/-- The calls that get a backend ready do not report global names. -/
lemma setUp_getLast?_ne_globals {backend : Backend ω} {c d : Context ω}
    {outcome : Except Failure Unit} {calls : List Exchange}
    (s : Context.SetUp backend c outcome calls d) (answer : Except Failure (Reply Globals)) :
    calls.getLast? ≠ some ⟨.globals, answer⟩ := by
  intro hlast
  cases s.call_eq (List.mem_of_getLast? hlast)

/-- An answer that is read is there. -/
lemma exists_of_bind_eq_ok {α β : Type} {x : Except Failure α} {f : α → Except Failure β} {b : β}
    (h : x.bind f = .ok b) : ∃ a, x = .ok a ∧ f a = .ok b := by
  cases x with
  | error failure => cases h
  | ok a => exact ⟨a, rfl, h⟩

/-- **Every run obeys the law.**

**Proof sketch.** By cases on the course of the run. Wherever it stops, its last call reported no
global names that can be read; when it comes to its end, they were read from the last call. -/
theorem RunCourse.captureLaw {backend : Backend ω} {submission : Submission}
    {session next : Session ω} {outcome : Except Failure RunResult} {calls : List Exchange}
    (k : RunCourse backend submission session outcome calls next) :
    CaptureLaw outcome calls session.kept next.kept := by
  cases k with
  | refused => exact .of_not_captured ne_ok_of_error rfl (by simp)
  | unready s =>
    exact .of_not_captured ne_ok_of_error rfl fun names reported hlast =>
      absurd hlast (setUp_getLast?_ne_globals s _)
  | withheld s =>
    exact .of_not_captured ne_ok_of_error rfl fun names reported hlast =>
      absurd hlast (setUp_getLast?_ne_globals s _)
  | failed s hscript he hran =>
    exact .of_not_captured ne_ok_of_error rfl fun names reported hlast =>
      absurd hlast (getLast?_ne_globals (by simp [Context.exchange]) _)
  | raised s hscript he hran herror =>
    refine .of_not_captured ?_ rfl fun names reported hlast =>
      absurd hlast (getLast?_ne_globals (by simp [Context.exchange]) _)
    rintro result ⟨⟩
    simp
  | unnamed s hscript he hran herror =>
    exact .of_not_captured ne_ok_of_error rfl fun names reported hlast =>
      absurd hlast (getLast?_ne_globals (by simp [Context.exchange]) _)
  | @unread _ _ calls d e script s hscript he hran herror hnames =>
    refine .of_not_captured ne_ok_of_error rfl fun names reported hlast hread => ?_
    have hanswer : (Context.ask backend .globals e).1 = .ok names := by
      simpa [Context.exchange] using hlast
    rw [hanswer] at hnames
    exact absurd (hnames.symm.trans hread) (by simp)
  | @captured result names calls d e script s hscript he hran herror hnames =>
    obtain ⟨ran, hanswer, hresult⟩ := exists_of_bind_eq_ok hran
    obtain ⟨reply, hreply, hreported⟩ := exists_of_bind_eq_ok hnames
    have hcalls : [Context.exchange backend (.run script) d, Context.exchange backend .globals e] =
        [⟨.run script, .ok ran⟩, ⟨.globals, .ok reply⟩] := by
      rw [Context.exchange, Context.exchange, hanswer, hreply]
    rw [hcalls]
    refine ⟨fun other => ⟨?_, ?_⟩, fun hnot => absurd herror (hnot result rfl)⟩
    · rintro ⟨⟨⟩, -⟩
      exact ⟨calls, script, ran, reply, names, rfl, hresult, hreported, mem_capture_iff names⟩
    · rintro ⟨earlier, script', ran', reply', reported', hsame, hother, -, -⟩
      obtain ⟨-, hlast⟩ := List.append_inj' hsame rfl
      simp only [List.cons.injEq, Exchange.mk.injEq, Backend.Call.run.injEq, and_true] at hlast
      obtain ⟨⟨rfl, hran'⟩, -⟩ := hlast
      cases hran'
      obtain rfl : result = other := Except.ok.inj (hresult.symm.trans hother)
      exact ⟨rfl, herror⟩

/-! ## Closed sessions -/

/-- Every course leaves a session as open or closed as it was. -/
lemma RunCourse.closed {backend : Backend ω} {submission : Submission} {session next : Session ω}
    {outcome : Except Failure RunResult} {calls : List Exchange}
    (k : RunCourse backend submission session outcome calls next) :
    next.closed = session.closed := by
  cases k <;> rfl

lemma closed_run (backend : Backend ω) (submission : Submission) (session : Session ω) :
    (run backend submission session).2.closed = session.closed := by
  obtain ⟨calls, k⟩ := run_course backend submission session
  exact k.closed

lemma dispose_snd (backend : Backend ω) (session : Session ω) :
    (dispose backend session).2 =
      { session.close with context := (Context.dispose backend session.context).2 } := rfl

/-- A session that was open at first is closed just when it was closed or disposed of. -/
lemma after_closed_iff (backend : Backend ω) {start : Session ω} (hstart : start.closed = false)
    (past : List (Operation ω)) :
    (after backend start past).closed = true ↔ .close ∈ past ∨ .dispose ∈ past := by
  induction past with
  | nil => simp [after, hstart]
  | cons op past ih =>
    cases op with
    | run submission => simpa [after, perform, closed_run] using ih
    | clear => simpa [after, perform, clear] using ih
    | close => simp [after, perform, close]
    | dispose => simp [after, perform, dispose_snd, close]
    | act change => simpa [after, perform] using ih

/-- A session that is closed keeps nothing. -/
lemma after_kept_of_closed (backend : Backend ω) {start : Session ω}
    (hstart : start.closed = false) (past : List (Operation ω))
    (h : (after backend start past).closed = true) : (after backend start past).kept = .empty := by
  induction past with
  | nil =>
    rw [after, hstart] at h
    cases h
  | cons op past ih =>
    cases op with
    | run submission =>
      have hbefore : (after backend start past).closed = true := by
        simpa [after, perform, closed_run] using h
      rw [after, perform, run_of_closed backend submission hbefore]
      exact ih hbefore
    | clear => rfl
    | close => rfl
    | dispose => rfl
    | act change => exact ih h

/-- **The kept variables change only when a run comes to its end.** Whatever a backend answers and
whatever was done with a session on any context before, a run makes some calls of the backend and
obeys `CaptureLaw`. The session is closed just when it was closed or disposed of, and then it keeps
nothing, and a run fails, asks the backend for nothing and leaves the session what it was. -/
theorem capture_law (backend : Backend ω) (context : Context (Recorded Exchange ω))
    (past : List (Operation (Recorded Exchange ω))) (submission : Submission) :
    let before := after backend.recorded (fresh context) past
    let outcome := (run backend.recorded submission before).1
    let next := (run backend.recorded submission before).2
    (∃ calls, next.context.world.events = before.context.world.events ++ calls ∧
        CaptureLaw outcome calls before.kept next.kept) ∧
      (before.closed = true ↔ .close ∈ past ∨ .dispose ∈ past) ∧
      (before.closed = true → before.kept = .empty ∧ next = before ∧
        outcome = .error (.state "session run" [.idle] .disposed)) := by
  intro before outcome next
  refine ⟨?_, after_closed_iff backend.recorded rfl past, fun hclosed => ?_⟩
  · obtain ⟨calls, k⟩ := run_course backend.recorded submission before
    exact ⟨calls, k.events, k.captureLaw⟩
  · have hrun := run_of_closed backend.recorded submission hclosed
    exact ⟨after_kept_of_closed backend.recorded rfl past hclosed, congrArg Prod.snd hrun,
      congrArg Prod.fst hrun⟩

end ScriptHost.Session
