import ScriptHost.Proofs.Context.Action

/-!
# The course of an operation

An operation is refused by the context, or it gets the backend ready and then makes the one call of
the backend that carries its name. `Refuses` lists the reasons of a context. `Course` lists every
way in which an operation can go: its outcome, the calls of the backend that it makes with what
comes of them, and the context behind it. Laws about operations are cases on their courses.

## Main definitions

* `ScriptHost.Context.AnyAnswer`, `ScriptHost.Context.carryOut` — operations whose answers have one
  type.
* `ScriptHost.Context.SetUp` — the ways to get a backend ready.
* `ScriptHost.Context.Refuses` — the reasons for which a context refuses an operation.
* `ScriptHost.Context.Course` — the ways an operation can go.
* `ScriptHost.Context.after`, `ScriptHost.Context.outcomes` — what a run of operations leads to.

## Main results

* `ScriptHost.Context.Refuses.carryOut_eq` — a refused operation does nothing.
* `ScriptHost.Context.carryOut_cases` — every operation is refused, or it asks the backend or
  succeeds.
* `ScriptHost.Context.carryOut_course` — every operation takes one of the courses.
* `ScriptHost.Context.Course.world` — a course keeps what every call of the backend keeps.
* `ScriptHost.Context.Course.events` — the record of a backend grows by the calls of a course.
-/

namespace ScriptHost.Context

variable {ω : Type}

/-! ## Operations with answers of one type -/

/-- An answer to an operation of any kind. -/
inductive AnyAnswer where
  /-- There is nothing to answer. -/
  | nothing
  /-- The result of a run. -/
  | result (result : RunResult)
  /-- The progress of an execution. -/
  | progress (progress : Progress)
  /-- A sealed state. -/
  | bytes (bytes : List UInt8)
  /-- The global names. -/
  | globals (globals : Globals)
  /-- A truth value. -/
  | flag (value : Bool)
deriving DecidableEq

namespace Operation

/-- An answer to an operation as one of any kind. -/
def anyAnswer : (op : Operation) → op.Answer → AnyAnswer
  | init, _ => .nothing
  | run _, result => .result result
  | start .., progress => .progress progress
  | resume _, progress => .progress progress
  | raise _, progress => .progress progress
  | postpone, progress => .progress progress
  | resolve _, progress => .progress progress
  | snapshot, bytes => .bytes bytes
  | restore _, _ => .nothing
  | globals, names => .globals names
  | supportsGlobals, value => .flag value
  | dispose, _ => .nothing

/-- The step that an operation takes in an execution under way. -/
def step? : Operation → Option (Step (Option String))
  | resume value => some (.resume value)
  | raise message => some (.raise message)
  | postpone => some .postpone
  | resolve answers => some (.resolve answers)
  | _ => none

/-- The operations that get the backend ready. -/
def setsUp : Operation → Bool
  | init => true
  | run _ => true
  | start .. => true
  | snapshot => true
  | restore _ => true
  | supportsGlobals => true
  | _ => false

/-- The operations that get the backend ready also while an execution is suspended. -/
def setsUpActive : Operation → Bool
  | init => true
  | snapshot => true
  | supportsGlobals => true
  | _ => false

/-- The word of the call of the backend that an operation is made for. -/
def word : Operation → String
  | init => "init"
  | run _ => "run"
  | start .. => "start"
  | resume _ => "resume"
  | raise _ => "resume_with_error"
  | postpone => "resume_as_future"
  | resolve _ => "resolve_futures"
  | snapshot => "snapshot"
  | restore _ => "restore"
  | globals => "globals"
  | supportsGlobals => "supports_namespace"
  | dispose => "dispose"

/-- The word of a step is that of its operation. -/
lemma word_of_step? {op : Operation} {step : Step (Option String)} (h : op.step? = some step) :
    step.word = op.word := by
  cases op <;> cases h <;> rfl

end Operation

/-- Carries out an operation; the answer is one of any kind. -/
def carryOut (backend : Backend ω) (op : Operation) : Action ω AnyAnswer :=
  op.anyAnswer <$> perform backend op

/-- The context after some operations, the latest of which stands first. -/
def after (backend : Backend ω) (start : Context ω) : List Operation → Context ω
  | [] => start
  | op :: past => (carryOut backend op (after backend start past)).2

/-- Operations with their outcomes, the latest of which stands first. -/
def outcomes (backend : Backend ω) (start : Context ω) :
    List Operation → List (Operation × Except Failure AnyAnswer)
  | [] => []
  | op :: past =>
    (op, (carryOut backend op (after backend start past)).1) :: outcomes backend start past

/-! ## Getting the backend ready -/

/-- The ways to get the backend of a context ready: the outcome, the calls, and the context behind
them. -/
inductive SetUp (backend : Backend ω) (c : Context ω) :
    Except Failure Unit → List Backend.Exchange → Context ω → Prop
  /-- It is ready. -/
  | present : c.initialized = true → SetUp backend c (.ok ()) [] c
  /-- It is initialized. -/
  | built : c.initialized = false → (ask backend .init c).1 = .ok true →
      SetUp backend c (.ok ()) [exchange backend .init c]
        { (ask backend .init c).2 with initialized := true }
  /-- It has no engine. -/
  | declined : c.initialized = false → (ask backend .init c).1 = .ok false →
      SetUp backend c (.error (.channel .initFailed)) [exchange backend .init c]
        (ask backend .init c).2
  /-- It fails. -/
  | failed {failure : Failure} : c.initialized = false →
      (ask backend .init c).1 = .error failure →
      SetUp backend c (.error failure) [exchange backend .init c] (ask backend .init c).2

/-- A context that was not disposed gets its backend ready in one of the ways. -/
lemma init_setUp (backend : Backend ω) {c : Context ω} (h : c.lifecycle ≠ .disposed) :
    ∃ calls, SetUp backend c (init backend c).1 calls (init backend c).2 := by
  rw [init_apply backend h]
  by_cases hi : c.initialized = true
  · exact ⟨[], by rw [if_pos hi]; exact .present hi⟩
  · have hi' : c.initialized = false := by simpa using hi
    refine ⟨[exchange backend .init c], ?_⟩
    rw [if_neg hi]
    obtain ⟨outcome, d, hask⟩ : ∃ outcome d, ask backend .init c = (outcome, d) := ⟨_, _, rfl⟩
    have ho : (ask backend .init c).1 = outcome := by rw [hask]
    have hd : (ask backend .init c).2 = d := by rw [hask]
    rw [hask]
    rcases outcome with failure | _ | _
    · exact hd ▸ .failed hi' ho
    · exact hd ▸ .declined hi' ho
    · exact hd ▸ .built hi' ho

namespace SetUp

variable {backend : Backend ω} {c d : Context ω} {outcome : Except Failure Unit}
  {calls : List Backend.Exchange}

/-- Getting the backend ready leaves the state and what is known of the execution alone. -/
lemma kept (s : SetUp backend c outcome calls d) :
    d.lifecycle = c.lifecycle ∧ d.seen = c.seen ∧ d.outstanding = c.outstanding ∧
      d.config = c.config := by
  cases s <;> simp

/-- A backend that is ready is initialized. -/
lemma initialized (s : SetUp backend c (.ok ()) calls d) : d.initialized = true := by
  cases s with
  | present h => exact h
  | built _ _ => rfl

/-- A backend is initialized when it was not, and not asked for anything else. -/
lemma calls_eq (s : SetUp backend c outcome calls d) :
    calls = if c.initialized then [] else [exchange backend .init c] := by
  cases s <;> simp [*]

/-- All calls are initializations. -/
lemma call_eq (s : SetUp backend c outcome calls d) {x : Backend.Exchange} (hx : x ∈ calls) :
    x.call = .init := by
  rw [s.calls_eq] at hx
  split at hx
  · simp at hx
  · rw [List.mem_singleton.mp hx]; rfl

/-- A backend that is ready already is left alone. -/
lemma eq_self (s : SetUp backend c outcome calls d) (h : c.initialized = true) : d = c := by
  cases s <;> simp_all

/-- A backend that is not ready yet is asked. -/
lemma calls_ne_nil (s : SetUp backend c outcome calls d) (h : c.initialized = false) :
    calls ≠ [] := by
  rw [s.calls_eq, h]
  simp

/-- A backend that could not be made ready was asked. -/
lemma calls_ne_nil_of_error {failure : Failure} (s : SetUp backend c (.error failure) calls d) :
    calls ≠ [] := by
  cases s <;> simp

/-- Behind the calls that get the backend ready only the last call is something else. -/
lemma eq_last (s : SetUp backend c outcome calls d) {x last : Backend.Exchange}
    (hx : x ∈ calls ++ [last]) (hne : x.call ≠ .init) : x = last := by
  rcases List.mem_append.mp hx with h | h
  · exact absurd (s.call_eq h) hne
  · exact List.mem_singleton.mp h

end SetUp

/-! ## Refusals -/

namespace Operation

/-- The states in which an operation is allowed. -/
def allowed : Operation → List Lifecycle
  | init => [.idle, .active]
  | run _ => [.idle]
  | start .. => [.idle]
  | resume _ => [.active]
  | raise _ => [.active]
  | postpone => [.active]
  | resolve _ => [.active]
  | snapshot => [.active, .idle]
  | restore _ => [.idle]
  | globals => [.idle]
  | supportsGlobals => [.idle, .active]
  | dispose => [.idle, .active, .disposed]

/-- The word by which an operation is refused in other states. Asking for the support of global
names is refused by the initialization that it begins with. -/
def checkedAs : Operation → String
  | supportsGlobals => "init"
  | op => op.word

/-- What an operation submits to the backend, if it is made for a script. -/
def submission? : Operation → Option Submission
  | run submission => some submission
  | start submission _ => some submission
  | _ => none

/-- Whether an operation puts a call off or answers calls that were put off. -/
def needsFutures : Operation → Bool
  | postpone => true
  | resolve _ => true
  | _ => false

end Operation

/-- Why a context refuses an operation on its own account, and the failure that says so. The reasons
exclude each other: a reason that is checked later says that the earlier ones do not hold. -/
inductive Refuses (backend : Backend ω) (c : Context ω) : Operation → Failure → Prop
  /-- The state does not allow the operation. -/
  | state {op : Operation} (h : c.lifecycle ∉ op.allowed) :
      Refuses backend c op (.state op.checkedAs op.allowed c.lifecycle)
  /-- A script comes with global names. -/
  | inputs {op : Operation} {submission : Submission} (hidle : c.lifecycle = .idle)
      (hop : op.submission? = some submission) (h : submission.inputs.isEmpty = false) :
      Refuses backend c op (.unsupported backend.name "inputs")
  /-- Calls cannot be put off. -/
  | noFutures {op : Operation} (hactive : c.lifecycle = .active) (hop : op.needsFutures = true)
      (h : (backend.offers c.world).futures = false) :
      Refuses backend c op (.unsupported backend.name op.word)
  /-- A call is answered twice, or one is answered that was not put off. -/
  | answers {answers : Answers} {fault : ArgumentFault} (hactive : c.lifecycle = .active)
      (hoffered : (backend.offers c.world).futures = true)
      (h : answersFault? c.outstanding answers = some fault) :
      Refuses backend c (.resolve answers) (.argument fault)
  /-- There is nothing to capture before the backend was initialized. -/
  | nothingToCapture (hidle : c.lifecycle = .idle) (h : c.initialized = false) :
      Refuses backend c .snapshot (.state "snapshot" [.active] .idle)
  /-- The backend captures suspended executions only. -/
  | noIdleCapture (hidle : c.lifecycle = .idle) (hi : c.initialized = true)
      (hoffered : (backend.offers c.world).snapshot = true)
      (h : (backend.offers c.world).idleSnapshot = false) :
      Refuses backend c .snapshot (.state "snapshot" [.active] .idle)
  /-- The backend captures nothing. -/
  | noCapture (hl : c.lifecycle ≠ .disposed) (hi : c.initialized = true)
      (h : (backend.offers c.world).snapshot = false) :
      Refuses backend c .snapshot (.unsupported backend.name "snapshot")
  /-- The bytes are no sealed state. -/
  | notSealed {bytes : List UInt8} {fault : SealFault} (hidle : c.lifecycle = .idle)
      (h : Envelope.ofBytes Blake3.digest bytes = .error fault) :
      Refuses backend c (.restore bytes) (.snapshot (.malformed fault))
  /-- The sealed state is that of another backend. -/
  | foreign {bytes : List UInt8} {envelope : Envelope} (hidle : c.lifecycle = .idle)
      (h : Envelope.ofBytes Blake3.digest bytes = .ok envelope)
      (hname : envelope.backend ≠ backend.name) :
      Refuses backend c (.restore bytes)
        (.snapshot (.backendMismatch backend.name envelope.backend))
  /-- The backend does not take states back. -/
  | noRestoration {bytes payload : List UInt8} (hidle : c.lifecycle = .idle)
      (hi : c.initialized = true) (hp : payloadOf backend.name bytes = .ok payload)
      (h : (backend.offers c.world).snapshot = false) :
      Refuses backend c (.restore bytes) (.unsupported backend.name "restore")
  /-- The backend does not report global names. -/
  | noGlobals (hidle : c.lifecycle = .idle) (hi : c.initialized = true)
      (h : (backend.offers c.world).globals = false) :
      Refuses backend c .globals (.unsupported backend.name "globals")

/-! ## All courses -/

/-- The ways an operation on a context can go: the outcome, the calls of the backend in their order,
and the context behind them. -/
inductive Course (backend : Backend ω) (c : Context ω) :
    Operation → Except Failure AnyAnswer → List Backend.Exchange → Context ω → Prop
  /-- The context refuses the operation. -/
  | refused {op : Operation} {failure : Failure} (hop : op ≠ .dispose)
      (hactive : c.lifecycle = .active → op.setsUpActive = false) :
      Course backend c op (.error failure) [] c
  /-- The backend could not be made ready. -/
  | unready {op : Operation} {failure : Failure} {calls : List Backend.Exchange} {d : Context ω}
      (hop : op.setsUp = true) (hactive : c.lifecycle = .active → op.setsUpActive = true)
      (s : SetUp backend c (.error failure) calls d) : Course backend c op (.error failure) calls d
  /-- The context refuses the operation after the backend was made ready. -/
  | withheld {op : Operation} {failure : Failure} {calls : List Backend.Exchange} {d : Context ω}
      (hop : op = .snapshot ∨ c.lifecycle = .idle ∧ ∃ bytes, op = .restore bytes)
      (s : SetUp backend c (.ok ()) calls d) : Course backend c op (.error failure) calls d
  /-- The backend is ready, which is all that is asked for. -/
  | readied {calls : List Backend.Exchange} {d : Context ω}
      (s : SetUp backend c (.ok ()) calls d) : Course backend c .init (.ok .nothing) calls d
  /-- The backend is ready and says whether it can report global names. -/
  | answered {calls : List Backend.Exchange} {d : Context ω}
      (s : SetUp backend c (.ok ()) calls d) :
      Course backend c .supportsGlobals (.ok (.flag (backend.offers d.world).globals)) calls d
  /-- A script is run. -/
  | ran {submission : Submission} {calls : List Backend.Exchange} {d : Context ω}
      (hidle : c.lifecycle = .idle) (s : SetUp backend c (.ok ()) calls d)
      (script : Script (Option String)) :
      Course backend c (.run submission)
        (((ask backend (.run script) d).1.bind (valueOf Record.runResult)).map .result)
        (calls ++ [exchange backend (.run script) d]) (ask backend (.run script) d).2
  /-- A script is started. -/
  | started {submission : Submission} {functions : List String} {calls : List Backend.Exchange}
      {d : Context ω} (hidle : c.lifecycle = .idle) (s : SetUp backend c (.ok ()) calls d)
      (script : Script (Option String)) {e : Context ω}
      (he : e = { d with seen := [], outstanding := some [] }) :
      Course backend c (.start submission functions)
        ((advance backend (.start script functions) e).1.map .progress)
        (calls ++ [exchange backend (.drive (.start script functions)) e])
        (advance backend (.start script functions) e).2
  /-- A step is taken in the execution under way. -/
  | drove {op : Operation} {step : Step (Option String)} (hop : op.step? = some step)
      (hactive : c.lifecycle = .active) :
      Course backend c op ((advance backend step c).1.map .progress)
        [exchange backend (.drive step) c] (advance backend step c).2
  /-- The state of the engine is captured. -/
  | captured {calls : List Backend.Exchange} {d : Context ω}
      (s : SetUp backend c (.ok ()) calls d) (sealed : List UInt8 → Except Failure (List UInt8)) :
      Course backend c .snapshot (((ask backend .snapshot d).1.bind sealed).map .bytes)
        (calls ++ [exchange backend .snapshot d]) (ask backend .snapshot d).2
  /-- A state is put in place. -/
  | restored {bytes payload : List UInt8} {calls : List Backend.Exchange} {d : Context ω}
      (hidle : c.lifecycle = .idle) (s : SetUp backend c (.ok ()) calls d)
      (h : (ask backend (.restore payload) d).1 = .ok ()) :
      Course backend c (.restore bytes) (.ok .nothing)
        (calls ++ [exchange backend (.restore payload) d])
        { (ask backend (.restore payload) d).2 with
          lifecycle := .active, seen := [], outstanding := none }
  /-- A state could not be put in place. -/
  | notRestored {bytes payload : List UInt8} {failure : Failure} {calls : List Backend.Exchange}
      {d : Context ω} (hidle : c.lifecycle = .idle) (s : SetUp backend c (.ok ()) calls d)
      (h : (ask backend (.restore payload) d).1 = .error failure) :
      Course backend c (.restore bytes) (.error failure)
        (calls ++ [exchange backend (.restore payload) d]) (ask backend (.restore payload) d).2
  /-- There are no global names before the backend was initialized. -/
  | nothingToList (hidle : c.lifecycle = .idle) (h : c.initialized = false) :
      Course backend c .globals (.ok (.globals .empty)) [] c
  /-- The global names are reported. -/
  | listed (hidle : c.lifecycle = .idle) (h : c.initialized = true) :
      Course backend c .globals
        (((ask backend .globals c).1.bind (valueOf Record.globals)).map .globals)
        [exchange backend .globals c] (ask backend .globals c).2
  /-- A disposed context is disposed again. -/
  | disposedAgain (h : c.lifecycle = .disposed) : Course backend c .dispose (.ok .nothing) [] c
  /-- A context without an engine is disposed. -/
  | dropped (h : c.lifecycle ≠ .disposed) (hi : c.initialized = false) :
      Course backend c .dispose (.ok .nothing) []
        { c with lifecycle := .disposed, initialized := false, seen := [], outstanding := none }
  /-- A context is disposed together with its engine. -/
  | released (h : c.lifecycle ≠ .disposed) (hi : c.initialized = true) {e : Context ω}
      (he : e = { c with
        lifecycle := .disposed, initialized := false, seen := [], outstanding := none }) :
      Course backend c .dispose ((ask backend .dispose e).1.map fun _ => .nothing)
        [exchange backend .dispose e] (ask backend .dispose e).2

/-! ## Refused operations -/

section Refused

variable {backend : Backend ω} {c : Context ω}

lemma carryOut_of_error {op : Operation} {failure : Failure}
    (h : perform backend op c = (.error failure, c)) :
    carryOut backend op c = (.error failure, c) := by
  rw [carryOut, map_apply, h]
  rfl

/-- An operation begins with the guard on the state. -/
lemma perform_of_not_allowed {op : Operation} (h : c.lifecycle ∉ op.allowed) :
    perform backend op c = (.error (.state op.checkedAs op.allowed c.lifecycle), c) := by
  have hr : require op.checkedAs op.allowed c =
      (.error (.state op.checkedAs op.allowed c.lifecycle), c) := require_of_not_mem _ h
  cases op with
  | init => exact bind_of_error hr
  | run submission => exact bind_of_error (bind_of_error hr)
  | start submission functions => exact bind_of_error (bind_of_error hr)
  | resume value => exact bind_of_error hr
  | raise message => exact bind_of_error hr
  | postpone => exact bind_of_error hr
  | resolve answers => exact bind_of_error hr
  | snapshot => exact bind_of_error hr
  | restore bytes => exact bind_of_error hr
  | globals => exact bind_of_error hr
  | supportsGlobals => exact bind_of_error (bind_of_error hr)
  | dispose =>
    exfalso
    apply h
    cases c.lifecycle <;> decide

/-- Global names are refused before the backend is made ready. -/
lemma prepare_of_inputs (operation : String) {submission : Submission} (hidle : c.lifecycle = .idle)
    (h : submission.inputs.isEmpty = false) :
    prepare backend operation submission c = (.error (.unsupported backend.name "inputs"), c) := by
  unfold prepare
  rw [bind_of_ok (require_of_mem operation (by simp [hidle])), h]
  rfl

/-- A payload is taken out of a sealed state of the backend. -/
lemma payloadOf_eq (name : String) (bytes : List UInt8) :
    payloadOf name bytes = match Envelope.ofBytes Blake3.digest bytes with
      | .error fault => .error (.malformed fault)
      | .ok envelope =>
        if envelope.backend = name then .ok envelope.payload
        else .error (.backendMismatch name envelope.backend) := by
  unfold payloadOf
  cases Envelope.ofBytes Blake3.digest bytes with
  | error fault => rfl
  | ok envelope =>
    show (envelope.verify name).bind (fun _ => .ok envelope.payload) =
      if envelope.backend = name then _ else _
    unfold Envelope.verify
    by_cases h : envelope.backend = name
    · rw [if_pos h, if_pos h]
      rfl
    · rw [if_neg h, if_neg h]
      rfl

/-- Bytes without a payload for the backend are refused before it is made ready. -/
lemma restore_of_fault {bytes : List UInt8} {fault : SnapshotFault} (hidle : c.lifecycle = .idle)
    (h : payloadOf backend.name bytes = .error fault) :
    restore backend bytes c = (.error (.snapshot fault), c) := by
  unfold restore
  rw [bind_of_ok (require_of_mem "restore" (by simp [hidle])), h]
  exact bind_of_error (ofExcept_apply _ c)

/-- Getting a backend ready that is ready does nothing. -/
lemma init_of_initialized (hl : c.lifecycle ≠ .disposed) (hi : c.initialized = true) :
    init backend c = (.ok (), c) := by
  rw [init_apply backend hl, if_pos hi]

variable (backend) in
/-- A capture goes on to make the backend ready unless there is nothing to capture. -/
lemma snapshot_apply (hl : c.lifecycle ≠ .disposed)
    (hready : ¬ (c.lifecycle = .idle ∧ c.initialized = false)) :
    snapshot backend c = (do
      init backend
      demand backend Capabilities.snapshot "snapshot"
      requireUnlessIdle c.lifecycle (backend.offers (← get).world).idleSnapshot
      let payload ← ask backend .snapshot
      MonadExcept.ofExcept <|
        (Envelope.toBytes Blake3.digest ⟨backend.name, payload⟩).mapError fun fault =>
          .snapshot (.captureFailed fault) : Action ω (List UInt8)) c := by
  have hallowed : c.lifecycle ∈ [Lifecycle.active, .idle] := by
    cases h : c.lifecycle <;> simp_all
  unfold snapshot
  rw [bind_of_ok (require_of_mem "snapshot" hallowed), bind_of_ok (get_apply c),
    bind_of_ok (get_apply c), bind_of_ok (by rw [requireUnlessIdle_apply, if_neg hready])]

variable (backend) in
/-- A restoration goes on to make the backend ready when the bytes hold a payload for it. -/
lemma restore_apply {bytes payload : List UInt8} (hidle : c.lifecycle = .idle)
    (h : payloadOf backend.name bytes = .ok payload) :
    restore backend bytes c = (do
      init backend
      demand backend Capabilities.snapshot "restore"
      ask backend (.restore payload)
      modify fun context =>
        { context with lifecycle := .active, seen := [], outstanding := none } :
        Action ω Unit) c := by
  unfold restore
  rw [bind_of_ok (require_of_mem "restore" (by simp [hidle])), h]
  exact bind_of_ok (ofExcept_apply _ c)

/-- **A refused operation does nothing.** It fails for the reason of the refusal, asks the backend
for nothing, and leaves the context what it was.

**Proof sketch.** By cases on the reason: every guard before the one that refuses lets the context
through, and leaves it alone. -/
theorem Refuses.carryOut_eq {op : Operation} {failure : Failure}
    (r : Refuses backend c op failure) : carryOut backend op c = (.error failure, c) := by
  cases r with
  | state h => exact carryOut_of_error (perform_of_not_allowed h)
  | inputs hidle hop h =>
    cases op with
    | run _ =>
      cases hop
      exact carryOut_of_error (bind_of_error (prepare_of_inputs "run" hidle h))
    | start _ _ =>
      cases hop
      exact carryOut_of_error (bind_of_error (prepare_of_inputs "start" hidle h))
    | _ => cases hop
  | noFutures hactive hop h =>
    have hr (operation : String) : require operation [.active] c = (.ok (), c) :=
      require_of_mem operation (by simp [hactive])
    cases op with
    | postpone =>
      exact carryOut_of_error ((bind_of_ok (hr _)).trans
        (bind_of_error (demand_of_not_offered _ h)))
    | resolve _ =>
      exact carryOut_of_error ((bind_of_ok (hr _)).trans
        (bind_of_error (demand_of_not_offered _ h)))
    | _ => cases hop
  | @answers answers fault hactive hoffered h =>
    refine carryOut_of_error ?_
    show resolve backend answers c = _
    unfold resolve
    rw [bind_of_ok (require_of_mem _ (by simp [hactive])),
      bind_of_ok (demand_of_offered _ hoffered), bind_of_ok (get_apply c), h]
    rfl
  | nothingToCapture hidle h =>
    refine carryOut_of_error ?_
    show snapshot backend c = _
    unfold snapshot
    rw [bind_of_ok (require_of_mem _ (by simp [hidle])), bind_of_ok (get_apply c),
      bind_of_ok (get_apply c),
      bind_of_error (by rw [requireUnlessIdle_apply, if_pos ⟨hidle, h⟩])]
  | noIdleCapture hidle hi hoffered h =>
    have hl : c.lifecycle ≠ .disposed := by simp [hidle]
    refine carryOut_of_error ((snapshot_apply backend hl (by simp [hi])).trans ?_)
    rw [bind_of_ok (init_of_initialized hl hi), bind_of_ok (demand_of_offered _ hoffered),
      bind_of_ok (get_apply c),
      bind_of_error (by rw [requireUnlessIdle_apply, if_pos ⟨hidle, h⟩])]
  | noCapture hl hi h =>
    refine carryOut_of_error ((snapshot_apply backend hl (by simp [hi])).trans ?_)
    rw [bind_of_ok (init_of_initialized hl hi), bind_of_error (demand_of_not_offered _ h)]
  | notSealed hidle h =>
    exact carryOut_of_error (restore_of_fault hidle (by rw [payloadOf_eq, h]))
  | foreign hidle h hname =>
    refine carryOut_of_error (restore_of_fault hidle ?_)
    rw [payloadOf_eq, h]
    exact if_neg hname
  | @noRestoration bytes payload hidle hi hp h =>
    refine carryOut_of_error ((restore_apply backend hidle hp).trans ?_)
    rw [bind_of_ok (init_of_initialized (by simp [hidle]) hi),
      bind_of_error (demand_of_not_offered _ h)]
  | noGlobals hidle hi h =>
    refine carryOut_of_error ?_
    show globals backend c = _
    unfold globals
    rw [bind_of_ok (require_of_mem _ (by simp [hidle])), bind_of_ok (get_apply c), if_pos hi]
    exact bind_of_error (demand_of_not_offered _ h)

/-- A refusal is a course without calls. -/
lemma Refuses.course {op : Operation} {failure : Failure} (r : Refuses backend c op failure) :
    Course backend c op (.error failure) [] c := by
  have unlessActive (hidle : c.lifecycle = .idle) (hactive : c.lifecycle = .active) :
      op.setsUpActive = false := by
    rw [hidle] at hactive
    cases hactive
  cases r with
  | state h =>
    refine .refused ?_ ?_
    · rintro rfl
      apply h
      cases c.lifecycle <;> decide
    · intro hactive
      rw [hactive] at h
      cases op <;> first | rfl | exact absurd (by decide) h
  | inputs hidle hop h => exact .refused (by rintro rfl; cases hop) (unlessActive hidle)
  | noFutures hactive hop h =>
    refine .refused ?_ fun _ => ?_
    · rintro rfl
      cases hop
    · cases op <;> first | rfl | cases hop
  | answers hactive hoffered h => exact .refused nofun fun _ => rfl
  | nothingToCapture hidle h => exact .refused nofun (unlessActive hidle)
  | noIdleCapture hidle hi hoffered h => exact .refused nofun (unlessActive hidle)
  | noCapture hl hi h => exact .withheld (.inl rfl) (.present hi)
  | notSealed hidle h => exact .refused nofun (unlessActive hidle)
  | foreign hidle h hname => exact .refused nofun (unlessActive hidle)
  | noRestoration hidle hi hp h => exact .refused nofun (unlessActive hidle)
  | noGlobals hidle hi h => exact .refused nofun (unlessActive hidle)

end Refused

/-! ## Every operation takes a course -/

/-- An operation takes a course on which it asks the backend or succeeds. -/
def Proceeds (backend : Backend ω) (c : Context ω) (op : Operation) : Prop :=
  ∃ calls, Course backend c op (carryOut backend op c).1 calls (carryOut backend op c).2 ∧
    (calls = [] → ∃ answer, (carryOut backend op c).1 = .ok answer)

section Cases

variable (backend : Backend ω) (c : Context ω)

lemma init_cases (h : c.lifecycle ≠ .disposed) :
    ∃ calls d, (SetUp backend c (.ok ()) calls d ∧ init backend c = (.ok (), d)) ∨
      ∃ failure, SetUp backend c (.error failure) calls d ∧
        init backend c = (.error failure, d) := by
  obtain ⟨calls, s⟩ := init_setUp backend h
  obtain ⟨outcome, d, hinit⟩ : ∃ outcome d, init backend c = (outcome, d) := ⟨_, _, rfl⟩
  rw [hinit] at s
  rcases outcome with failure | ⟨⟩
  · exact ⟨calls, d, .inr ⟨failure, s, hinit⟩⟩
  · exact ⟨calls, d, .inl ⟨s, hinit⟩⟩

lemma prepare_cases (operation : String) {submission : Submission} (hidle : c.lifecycle = .idle)
    (h : submission.inputs.isEmpty = true) :
    ∃ calls d, (SetUp backend c (.ok ()) calls d ∧
        ∃ script, prepare backend operation submission c = (.ok script, d)) ∨
      ∃ failure, SetUp backend c (.error failure) calls d ∧
        prepare backend operation submission c = (.error failure, d) := by
  unfold prepare
  rw [bind_of_ok (require_of_mem operation (by simp [hidle])), if_pos h]
  obtain ⟨calls, d, ⟨s, hi⟩ | ⟨failure, s, hi⟩⟩ := init_cases backend c (by simp [hidle])
  · exact ⟨calls, d, .inl ⟨s, effectiveScript d.config submission.script, bind_of_ok hi⟩⟩
  · exact ⟨calls, d, .inr ⟨failure, s, bind_of_error hi⟩⟩

end Cases

section Courses

variable {backend : Backend ω} {c d : Context ω}

lemma proceeds_of_perform {op : Operation} {outcome : Except Failure op.Answer}
    {calls : List Backend.Exchange} (h : perform backend op c = (outcome, d))
    (k : Course backend c op (outcome.map op.anyAnswer) calls d)
    (hcalls : calls = [] → ∃ answer, outcome = .ok answer) : Proceeds backend c op := by
  refine ⟨calls, ?_, fun hnil => ?_⟩
  · rw [carryOut, map_apply, h]
    exact k
  · obtain ⟨answer, ho⟩ := hcalls hnil
    rw [carryOut, map_apply, h, ho]
    exact ⟨op.anyAnswer answer, rfl⟩

/-- An operation whose last call is in its course proceeds. -/
lemma proceeds_of_last {op : Operation} {outcome : Except Failure op.Answer}
    {calls : List Backend.Exchange} {last : Backend.Exchange}
    (h : perform backend op c = (outcome, d))
    (k : Course backend c op (outcome.map op.anyAnswer) (calls ++ [last]) d) :
    Proceeds backend c op :=
  proceeds_of_perform h k (by simp)

/-- An operation proceeds to a failure when the backend could not be made ready. -/
lemma proceeds_of_unready {op : Operation} {failure : Failure} {calls : List Backend.Exchange}
    (h : perform backend op c = (.error failure, d)) (hop : op.setsUp = true)
    (hactive : c.lifecycle = .active → op.setsUpActive = true)
    (s : SetUp backend c (.error failure) calls d) : Proceeds backend c op :=
  proceeds_of_perform h (.unready hop hactive s) fun hnil => absurd hnil s.calls_ne_nil_of_error

/-! Operations that the context does not refuse on the way proceed. -/

lemma init_proceeds (hl : c.lifecycle ≠ .disposed) : Proceeds backend c .init := by
  obtain ⟨calls, d, ⟨s, hi⟩ | ⟨failure, s, hi⟩⟩ := init_cases backend c hl
  · exact proceeds_of_perform hi (.readied s) fun _ => ⟨(), rfl⟩
  · exact proceeds_of_unready hi rfl (fun _ => rfl) s

lemma supportsGlobals_proceeds (hl : c.lifecycle ≠ .disposed) :
    Proceeds backend c .supportsGlobals := by
  obtain ⟨calls, d, ⟨s, hi⟩ | ⟨failure, s, hi⟩⟩ := init_cases backend c hl
  · exact proceeds_of_perform (bind_of_ok hi) (.answered s) fun _ => ⟨_, rfl⟩
  · exact proceeds_of_unready (bind_of_error hi) rfl (fun _ => rfl) s

lemma run_proceeds (hidle : c.lifecycle = .idle) {submission : Submission}
    (h : submission.inputs.isEmpty = true) : Proceeds backend c (.run submission) := by
  obtain ⟨calls, d, ⟨s, script, hp⟩ | ⟨failure, s, hp⟩⟩ := prepare_cases backend c "run" hidle h
  · refine proceeds_of_last ((bind_of_ok hp).trans ?_) (.ran hidle s script)
    rw [bind_apply]
    rcases ask backend (.run script) d with ⟨failure | reply, e⟩
    · rfl
    · exact ofExcept_apply _ e
  · exact proceeds_of_unready (bind_of_error hp) rfl (by simp [hidle]) s

lemma start_proceeds (hidle : c.lifecycle = .idle) {submission : Submission}
    (h : submission.inputs.isEmpty = true) (functions : List String) :
    Proceeds backend c (.start submission functions) := by
  obtain ⟨calls, d, ⟨s, script, hp⟩ | ⟨failure, s, hp⟩⟩ := prepare_cases backend c "start" hidle h
  · exact proceeds_of_last (bind_of_ok hp) (.started hidle s script rfl)
  · exact proceeds_of_unready (bind_of_error hp) rfl (by simp [hidle]) s

/-- An operation proceeds with the step that it takes. -/
lemma step_proceeds (hactive : c.lifecycle = .active) {op : Operation} {step : Step (Option String)}
    (hop : op.step? = some step) {outcome : Except Failure op.Answer}
    (h : perform backend op c = (outcome, (advance backend step c).2))
    (ho : outcome.map op.anyAnswer = (advance backend step c).1.map .progress) :
    Proceeds backend c op := by
  have k : Course backend c op (outcome.map op.anyAnswer) [exchange backend (.drive step) c]
      (advance backend step c).2 := by
    rw [ho]
    exact .drove hop hactive
  exact proceeds_of_perform h k (by simp)

/-- Answers without a fault are a step of the execution under way. -/
lemma resolve_apply (hactive : c.lifecycle = .active)
    (hoffered : (backend.offers c.world).futures = true) {answers : Answers}
    (h : answersFault? c.outstanding answers = none) :
    resolve backend answers c = advance backend (.resolve answers) c := by
  unfold resolve
  rw [bind_of_ok (require_of_mem _ (by simp [hactive])),
    bind_of_ok (demand_of_offered _ hoffered), bind_of_ok (get_apply c), h]

lemma snapshot_refused_or_proceeds (hl : c.lifecycle ≠ .disposed) :
    (∃ failure, Refuses backend c .snapshot failure) ∨ Proceeds backend c .snapshot := by
  by_cases hready : c.lifecycle = .idle ∧ c.initialized = false
  · exact .inl ⟨_, .nothingToCapture hready.1 hready.2⟩
  have hgo := snapshot_apply backend hl hready
  obtain ⟨calls, d, ⟨s, hi⟩ | ⟨failure, s, hi⟩⟩ := init_cases backend c hl
  · rw [bind_of_ok hi] at hgo
    cases hoffered : (backend.offers d.world).snapshot with
    | false =>
      cases hc : c.initialized with
      | true => exact .inl ⟨_, .noCapture hl hc (s.eq_self hc ▸ hoffered)⟩
      | false =>
        exact .inr (proceeds_of_perform
          (hgo.trans (bind_of_error (demand_of_not_offered _ hoffered))) (.withheld (.inl rfl) s)
          fun hnil => absurd hnil (s.calls_ne_nil hc))
    | true =>
      rw [bind_of_ok (demand_of_offered _ hoffered), bind_of_ok (get_apply d)] at hgo
      by_cases hidle : c.lifecycle = .idle ∧ (backend.offers d.world).idleSnapshot = false
      · have hc : c.initialized = true := by
          simpa [hidle.1] using hready
        obtain rfl := s.eq_self hc
        exact .inl ⟨_, .noIdleCapture hidle.1 hc hoffered hidle.2⟩
      · rw [bind_of_ok (by rw [requireUnlessIdle_apply, if_neg hidle]), bind_apply] at hgo
        refine .inr (proceeds_of_last (hgo.trans ?_) (.captured s fun payload =>
          (Envelope.toBytes Blake3.digest ⟨backend.name, payload⟩).mapError fun fault =>
            .snapshot (.captureFailed fault)))
        rcases ask backend .snapshot d with ⟨failure | payload, e⟩
        · rfl
        · exact ofExcept_apply _ e
  · rw [bind_of_error hi] at hgo
    exact .inr (proceeds_of_unready hgo rfl (fun _ => rfl) s)

lemma restore_refused_or_proceeds (hidle : c.lifecycle = .idle) (bytes : List UInt8) :
    (∃ failure, Refuses backend c (.restore bytes) failure) ∨
      Proceeds backend c (.restore bytes) := by
  rcases h : Envelope.ofBytes Blake3.digest bytes with fault | envelope
  · exact .inl ⟨_, .notSealed hidle h⟩
  by_cases hname : envelope.backend = backend.name
  case neg => exact .inl ⟨_, .foreign hidle h hname⟩
  have hpayload : payloadOf backend.name bytes = .ok envelope.payload := by
    rw [payloadOf_eq, h]
    exact if_pos hname
  have hgo := restore_apply backend hidle hpayload
  obtain ⟨calls, d, ⟨s, hi⟩ | ⟨failure, s, hi⟩⟩ := init_cases backend c (by simp [hidle])
  · rw [bind_of_ok hi] at hgo
    cases hoffered : (backend.offers d.world).snapshot with
    | false =>
      cases hc : c.initialized with
      | true => exact .inl ⟨_, .noRestoration hidle hc hpayload (s.eq_self hc ▸ hoffered)⟩
      | false =>
        exact .inr (proceeds_of_perform
          (hgo.trans (bind_of_error (demand_of_not_offered _ hoffered)))
          (.withheld (.inr ⟨hidle, bytes, rfl⟩) s) fun hnil => absurd hnil (s.calls_ne_nil hc))
    | true =>
      rw [bind_of_ok (demand_of_offered _ hoffered)] at hgo
      right
      cases ha : (ask backend (.restore envelope.payload) d).1 with
      | error failure =>
        have hask : ask backend (.restore envelope.payload) d =
            (.error failure, (ask backend (.restore envelope.payload) d).2) := Prod.ext ha rfl
        exact proceeds_of_last (hgo.trans (bind_of_error hask)) (.notRestored hidle s ha)
      | ok answer =>
        have hask : ask backend (.restore envelope.payload) d =
            (.ok (), (ask backend (.restore envelope.payload) d).2) := Prod.ext ha rfl
        exact proceeds_of_last (hgo.trans (bind_of_ok hask)) (.restored hidle s ha)
  · rw [bind_of_error hi] at hgo
    exact .inr (proceeds_of_unready hgo rfl (by simp [hidle]) s)

lemma globals_refused_or_proceeds (hidle : c.lifecycle = .idle) :
    (∃ failure, Refuses backend c .globals failure) ∨ Proceeds backend c .globals := by
  have hgo : globals backend c = (if c.initialized = true then do
      demand backend Capabilities.globals "globals"
      let reply ← ask backend .globals
      MonadExcept.ofExcept (valueOf Record.globals reply)
    else pure .empty : Action ω Globals) c := by
    unfold globals
    rw [bind_of_ok (require_of_mem "globals" (by simp [hidle])), bind_of_ok (get_apply c)]
  cases hi : c.initialized with
  | false =>
    rw [hi] at hgo
    exact .inr (proceeds_of_perform hgo (.nothingToList hidle hi) fun _ => ⟨_, rfl⟩)
  | true =>
    rw [if_pos hi] at hgo
    cases hoffered : (backend.offers c.world).globals with
    | false => exact .inl ⟨_, .noGlobals hidle hi hoffered⟩
    | true =>
      rw [bind_of_ok (demand_of_offered _ hoffered), bind_apply] at hgo
      refine .inr (proceeds_of_perform (hgo.trans ?_) (.listed hidle hi) (by simp))
      rcases ask backend .globals c with ⟨failure | reply, e⟩
      · rfl
      · exact ofExcept_apply _ e

lemma dispose_proceeds (backend : Backend ω) (c : Context ω) : Proceeds backend c .dispose := by
  suffices h : ∃ outcome calls d, dispose backend c = (outcome, d) ∧
      Course backend c .dispose (outcome.map fun _ => .nothing) calls d ∧
      (calls = [] → ∃ answer, outcome = .ok answer) by
    obtain ⟨outcome, calls, d, h, k, hcalls⟩ := h
    exact proceeds_of_perform h k hcalls
  unfold dispose
  rw [bind_of_ok (get_apply c)]
  by_cases hl : c.lifecycle = .disposed
  · exact ⟨.ok (), _, _, by rw [if_pos hl]; rfl, .disposedAgain hl, fun _ => ⟨(), rfl⟩⟩
  · rw [if_neg hl, bind_of_ok (set_apply _ c)]
    by_cases hi : c.initialized = true
    · rw [if_pos hi]
      exact ⟨_, _, _, rfl, .released hl hi rfl, by simp⟩
    · rw [if_neg hi]
      exact ⟨.ok (), _, _, rfl, .dropped hl (by simpa using hi), fun _ => ⟨(), rfl⟩⟩

/-- **Every operation is refused or proceeds.**

**Proof sketch.** Each operation is calculated line after line: at every guard it is refused or goes
on, getting the backend ready is one of the ways of `SetUp`, and what is left is one call. -/
theorem carryOut_cases (backend : Backend ω) (op : Operation) (c : Context ω) :
    (∃ failure, Refuses backend c op failure) ∨ Proceeds backend c op := by
  by_cases hl : c.lifecycle ∈ op.allowed
  case neg => exact .inl ⟨_, .state hl⟩
  have hlive (hmem : c.lifecycle ∈ [Lifecycle.idle, .active] ∨
      c.lifecycle ∈ [Lifecycle.active, .idle]) : c.lifecycle ≠ .disposed := by
    intro h
    simp [h] at hmem
  cases op with
  | init => exact .inr (init_proceeds (hlive (.inl hl)))
  | run submission =>
    have hidle : c.lifecycle = .idle := List.mem_singleton.mp hl
    cases h : submission.inputs.isEmpty with
    | false => exact .inl ⟨_, .inputs hidle rfl h⟩
    | true => exact .inr (run_proceeds hidle h)
  | start submission functions =>
    have hidle : c.lifecycle = .idle := List.mem_singleton.mp hl
    cases h : submission.inputs.isEmpty with
    | false => exact .inl ⟨_, .inputs hidle rfl h⟩
    | true => exact .inr (start_proceeds hidle h functions)
  | resume value =>
    have hactive : c.lifecycle = .active := List.mem_singleton.mp hl
    exact .inr (step_proceeds hactive rfl (bind_of_ok (require_of_mem _ hl)) rfl)
  | raise message =>
    have hactive : c.lifecycle = .active := List.mem_singleton.mp hl
    exact .inr (step_proceeds hactive rfl (bind_of_ok (require_of_mem _ hl)) rfl)
  | postpone =>
    have hactive : c.lifecycle = .active := List.mem_singleton.mp hl
    cases h : (backend.offers c.world).futures with
    | false => exact .inl ⟨_, .noFutures hactive rfl h⟩
    | true =>
      exact .inr (step_proceeds hactive rfl
        ((bind_of_ok (require_of_mem _ hl)).trans (bind_of_ok (demand_of_offered _ h))) rfl)
  | resolve answers =>
    have hactive : c.lifecycle = .active := List.mem_singleton.mp hl
    cases h : (backend.offers c.world).futures with
    | false => exact .inl ⟨_, .noFutures hactive rfl h⟩
    | true =>
      cases hf : answersFault? c.outstanding answers with
      | some fault => exact .inl ⟨_, .answers hactive h hf⟩
      | none => exact .inr (step_proceeds hactive rfl (resolve_apply hactive h hf) rfl)
  | snapshot => exact snapshot_refused_or_proceeds (hlive (.inr hl))
  | restore bytes => exact restore_refused_or_proceeds (List.mem_singleton.mp hl) bytes
  | globals => exact globals_refused_or_proceeds (List.mem_singleton.mp hl)
  | supportsGlobals => exact .inr (supportsGlobals_proceeds (hlive (.inl hl)))
  | dispose => exact .inr (dispose_proceeds backend c)

/-- **Every operation takes a course.** -/
theorem carryOut_course (backend : Backend ω) (op : Operation) (c : Context ω) :
    ∃ calls, Course backend c op (carryOut backend op c).1 calls (carryOut backend op c).2 := by
  rcases carryOut_cases backend op c with ⟨failure, r⟩ | ⟨calls, k, -⟩
  · rw [r.carryOut_eq]
    exact ⟨[], r.course⟩
  · exact ⟨calls, k⟩

end Courses

/-! ## What a course keeps -/

section Worlds

variable {backend : Backend ω} {c d : Context ω} {P : ω → Prop}

/-- Getting the backend ready keeps what every call keeps. -/
lemma SetUp.world (hcall : ∀ call world, P world → P (backend.call call world).2)
    {outcome : Except Failure Unit} {calls : List Backend.Exchange}
    (s : SetUp backend c outcome calls d) (h : P c.world) : P d.world := by
  have hask : P (ask backend .init c).2.world := by
    rw [ask_world]
    exact hcall _ _ h
  cases s with
  | present _ => exact h
  | built _ _ => exact hask
  | declined _ _ => exact hask
  | failed _ _ => exact hask

/-- A course keeps what every call keeps. -/
theorem Course.world (hcall : ∀ call world, P world → P (backend.call call world).2)
    {op : Operation} {outcome : Except Failure AnyAnswer} {calls : List Backend.Exchange}
    (k : Course backend c op outcome calls d) (h : P c.world) : P d.world := by
  have hask (call : Backend.Call) {e : Context ω} (he : P e.world) :
      P (ask backend call e).2.world := by
    rw [ask_world]
    exact hcall _ _ he
  have hadvance (step : Step (Option String)) {e : Context ω} (he : P e.world) :
      P (advance backend step e).2.world := by
    rw [advance_apply, settle_world]
    exact hask _ he
  cases k with
  | refused _ _ => exact h
  | unready _ _ s => exact s.world hcall h
  | withheld _ s => exact s.world hcall h
  | readied s => exact s.world hcall h
  | answered s => exact s.world hcall h
  | ran _ s script => exact hask _ (s.world hcall h)
  | started _ s script he =>
    have hready := s.world hcall h
    refine hadvance _ ?_
    rw [he]
    exact hready
  | drove _ _ => exact hadvance _ h
  | captured s _ => exact hask _ (s.world hcall h)
  | @restored bytes payload _ _ _ s _ => exact hask (.restore payload) (s.world hcall h)
  | notRestored _ s _ => exact hask _ (s.world hcall h)
  | nothingToList _ _ => exact h
  | listed _ _ => exact hask _ h
  | disposedAgain _ => exact h
  | dropped _ _ => exact h
  | released _ _ he =>
    refine hask _ ?_
    rw [he]
    exact h

/-- A run keeps what every call keeps. -/
lemma after_world (hcall : ∀ call world, P world → P (backend.call call world).2)
    {start : Context ω} (h : P start.world) (past : List Operation) :
    P (after backend start past).world := by
  induction past with
  | nil => exact h
  | cons op past ih =>
    obtain ⟨calls, k⟩ := carryOut_course backend op (after backend start past)
    exact k.world hcall ih

end Worlds

/-! ## What a course records -/

/-- Getting a recorded backend ready records the calls. -/
lemma SetUp.events {backend : Backend ω} {c d : Context (Recorded Backend.Exchange ω)}
    {outcome : Except Failure Unit} {calls : List Backend.Exchange}
    (s : SetUp backend.recorded c outcome calls d) :
    d.world.events = c.world.events ++ calls := by
  cases s with
  | present _ => simp
  | built _ _ => exact ask_events backend .init c
  | declined _ _ => exact ask_events backend .init c
  | failed _ _ => exact ask_events backend .init c

/-- A step of a recorded backend records its call. -/
lemma advance_events (backend : Backend ω) (step : Step (Option String))
    (c : Context (Recorded Backend.Exchange ω)) :
    (advance backend.recorded step c).2.world.events =
      c.world.events ++ [exchange backend.recorded (.drive step) c] := by
  rw [advance_apply, settle_world, ask_events]

/-- The record of a backend grows by the calls of a course. -/
theorem Course.events {backend : Backend ω} {c d : Context (Recorded Backend.Exchange ω)}
    {op : Operation} {outcome : Except Failure AnyAnswer} {calls : List Backend.Exchange}
    (k : Course backend.recorded c op outcome calls d) :
    d.world.events = c.world.events ++ calls := by
  cases k with
  | refused _ _ => simp
  | unready _ _ s => exact s.events
  | withheld _ s => exact s.events
  | readied s => exact s.events
  | answered s => exact s.events
  | ran _ s script => rw [ask_events, s.events, List.append_assoc]
  | started _ s script he => rw [advance_events, he, ← List.append_assoc, ← s.events]
  | drove _ _ => exact advance_events backend _ c
  | captured s _ => rw [ask_events, s.events, List.append_assoc]
  | restored _ s _ =>
    rw [← List.append_assoc, ← s.events]
    exact ask_events backend _ _
  | notRestored _ s _ => rw [ask_events, s.events, List.append_assoc]
  | nothingToList _ _ => simp
  | listed _ _ => exact ask_events backend .globals c
  | disposedAgain _ => simp
  | dropped _ _ => simp
  | released _ _ he => rw [ask_events, he]

end ScriptHost.Context
