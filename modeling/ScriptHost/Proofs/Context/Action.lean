import Mathlib.Tactic.Lemma
import ScriptHost.Context.Operation

/-!
# Calculating with actions

An action applied to a context gives an outcome and the context behind it. The equations here say
what the building blocks of the operations do to a context, so that an operation is calculated one
line after the other.

## Main results

* `ScriptHost.bind_apply` — an action after another one runs only when that one succeeds.
* `ScriptHost.Context.require_apply`, `ScriptHost.Context.demand_apply` — the guards leave the
  context alone.
* `ScriptHost.Context.ask_lifecycle` and its companions — what asking the backend leaves alone.
* `ScriptHost.Context.settle_cases` — what can come of a step.
* `ScriptHost.Context.init_apply` — how a context gets its backend ready.
-/

namespace ScriptHost

/-! ## Actions one after the other -/

section Bind

variable {σ α β : Type} {x : ExceptT Failure (StateM σ) α} {f : α → ExceptT Failure (StateM σ) β}

/-- An action after another one runs only when that one succeeds. -/
lemma bind_apply (x : ExceptT Failure (StateM σ) α) (f : α → ExceptT Failure (StateM σ) β)
    (c : σ) : (x >>= f) c = match x c with
      | (.ok a, d) => f a d
      | (.error failure, d) => (.error failure, d) := by
  show (ExceptT.bindCont f (x c).1 (x c).2) = _
  rcases x c with ⟨_ | _, _⟩ <;> rfl

/-- An action goes on from where a successful action left the state. -/
lemma bind_of_ok {c d : σ} {a : α} (h : x c = (.ok a, d)) : (x >>= f) c = f a d := by
  rw [bind_apply, h]

/-- A failure ends the actions behind it. -/
lemma bind_of_error {c d : σ} {failure : Failure} (h : x c = (.error failure, d)) :
    (x >>= f) c = (.error failure, d) := by
  rw [bind_apply, h]

end Bind

namespace Context

variable {ω α β : Type}

/-! ## Building blocks -/

@[simp]
lemma pure_apply (a : α) (c : Context ω) : (pure a : Action ω α) c = (.ok a, c) := rfl

@[simp]
lemma throw_apply (failure : Failure) (c : Context ω) :
    (throw failure : Action ω α) c = (.error failure, c) := rfl

@[simp]
lemma get_apply (c : Context ω) : (get : Action ω (Context ω)) c = (.ok c, c) := rfl

@[simp]
lemma set_apply (d c : Context ω) : (set d : Action ω PUnit) c = (.ok ⟨⟩, d) := rfl

@[simp]
lemma modify_apply (f : Context ω → Context ω) (c : Context ω) :
    (modify f : Action ω PUnit) c = (.ok ⟨⟩, f c) := rfl

/-- A function on the value of an action leaves failures and the context alone. -/
@[simp]
lemma map_apply (f : α → β) (x : Action ω α) (c : Context ω) :
    (f <$> x) c = ((x c).1.map f, (x c).2) := by
  rw [map_eq_pure_bind, bind_apply]
  rcases x c with ⟨_ | _, _⟩ <;> rfl

@[simp]
lemma ofExcept_apply (outcome : Except Failure α) (c : Context ω) :
    (MonadExcept.ofExcept outcome : Action ω α) c = (outcome, c) := by
  cases outcome <;> rfl

/-! ## Guards -/

/-- A guard on the state lets a context through or refuses it, and leaves it alone. -/
lemma require_apply (operation : String) (allowed : List Lifecycle) (c : Context ω) :
    require operation allowed c = if allowed.contains c.lifecycle then (.ok (), c)
      else (.error (.state operation allowed c.lifecycle), c) := by
  unfold require
  rw [bind_apply]
  simp only [get_apply]
  split <;> rfl

/-- A guard on the capabilities lets a context through or refuses it, and leaves it alone. -/
lemma demand_apply (backend : Backend ω) (offered : Capabilities → Bool) (operation : String)
    (c : Context ω) :
    demand backend offered operation c = if offered (backend.offers c.world) then (.ok (), c)
      else (.error (.unsupported backend.name operation), c) := by
  unfold demand
  rw [bind_apply]
  simp only [get_apply]
  split <;> rfl

/-- A context in an allowed state is let through. -/
lemma require_of_mem (operation : String) {allowed : List Lifecycle} {c : Context ω}
    (h : c.lifecycle ∈ allowed) : require operation allowed c = (.ok (), c) := by
  rw [require_apply, if_pos (by simpa using h)]

/-- A context in another state is refused. -/
lemma require_of_not_mem (operation : String) {allowed : List Lifecycle} {c : Context ω}
    (h : c.lifecycle ∉ allowed) :
    require operation allowed c = (.error (.state operation allowed c.lifecycle), c) := by
  rw [require_apply, if_neg (by simpa using h)]

/-- A context whose backend offers the operation is let through. -/
lemma demand_of_offered {backend : Backend ω} {offered : Capabilities → Bool} (operation : String)
    {c : Context ω} (h : offered (backend.offers c.world) = true) :
    demand backend offered operation c = (.ok (), c) := by
  rw [demand_apply, if_pos h]

/-- A context whose backend does not offer the operation is refused. -/
lemma demand_of_not_offered {backend : Backend ω} {offered : Capabilities → Bool}
    (operation : String) {c : Context ω} (h : offered (backend.offers c.world) = false) :
    demand backend offered operation c =
      (.error (.unsupported backend.name operation), c) := by
  rw [demand_apply, if_neg (by simp [h])]

/-- The guard on idle contexts lets a context through or refuses it, and leaves it alone. -/
lemma requireUnlessIdle_apply (lifecycle : Lifecycle) (condition : Bool) (c : Context ω) :
    requireUnlessIdle lifecycle condition c =
      if lifecycle = .idle ∧ condition = false then (.error (.state "snapshot" [.active] .idle), c)
      else (.ok (), c) := by
  unfold requireUnlessIdle
  by_cases h : lifecycle = .idle <;> cases condition <;> simp [h]

/-! ## Asking the backend -/

/-- An outcome that says that the far end is gone. -/
def saysGone (outcome : Except Failure α) : Bool :=
  match outcome with
  | .error failure => failure.isClosed
  | .ok _ => false

/-- A call of the backend of a context, with what comes of it. -/
def exchange (backend : Backend ω) (call : Backend.Call) (c : Context ω) : Backend.Exchange :=
  ⟨call, (ask backend call c).1⟩

lemma observe_eq (outcome : Except Failure α) (c : Context ω) :
    observe outcome c = { c with initialized := c.initialized && !saysGone outcome } := by
  rcases outcome with failure | a
  · simp only [observe, saysGone]
    cases failure.isClosed <;> simp
  · simp [observe, saysGone]

/-- The outcome of asking the backend is that of the backend. -/
lemma ask_outcome (backend : Backend ω) (call : Backend.Call) (c : Context ω) :
    (ask backend call c).1 = (backend.call call c.world).1 := rfl

/-- Asking the backend changes its world, and may show that the far end is gone. -/
lemma ask_context (backend : Backend ω) (call : Backend.Call) (c : Context ω) :
    (ask backend call c).2 =
      { c with world := (backend.call call c.world).2
               initialized := c.initialized && !saysGone (ask backend call c).1 } :=
  observe_eq _ _

@[simp]
lemma ask_world (backend : Backend ω) (call : Backend.Call) (c : Context ω) :
    (ask backend call c).2.world = (backend.call call c.world).2 := by
  rw [ask_context]

@[simp]
lemma ask_config (backend : Backend ω) (call : Backend.Call) (c : Context ω) :
    (ask backend call c).2.config = c.config := by
  rw [ask_context]

@[simp]
lemma ask_lifecycle (backend : Backend ω) (call : Backend.Call) (c : Context ω) :
    (ask backend call c).2.lifecycle = c.lifecycle := by
  rw [ask_context]

@[simp]
lemma ask_seen (backend : Backend ω) (call : Backend.Call) (c : Context ω) :
    (ask backend call c).2.seen = c.seen := by
  rw [ask_context]

@[simp]
lemma ask_outstanding (backend : Backend ω) (call : Backend.Call) (c : Context ω) :
    (ask backend call c).2.outstanding = c.outstanding := by
  rw [ask_context]

lemma ask_initialized (backend : Backend ω) (call : Backend.Call) (c : Context ω) :
    (ask backend call c).2.initialized = (c.initialized && !saysGone (ask backend call c).1) := by
  rw [ask_context]

/-- The record of a backend grows by the exchange. -/
lemma ask_events (backend : Backend ω) (call : Backend.Call)
    (c : Context (Recorded Backend.Exchange ω)) :
    (ask backend.recorded call c).2.world.events =
      c.world.events ++ [exchange backend.recorded call c] := by
  rw [ask_world]; rfl

/-! ## Steps -/

/-- A result without an error ends an execution. -/
lemma settle_complete {result : RunResult} (h : result.error = none) (c : Context ω) :
    settle (.ok (.complete result)) c = (.ok (.complete result), c.finish) := by
  simp only [settle, h]

/-- A result with an error ends an execution with a failure. -/
lemma settle_raised {result : RunResult} {e : ScriptError} (h : result.error = some e)
    (c : Context ω) :
    settle (.ok (.complete result)) c = (.error (.sandbox e result.usage), c.finish) := by
  simp only [settle, h]

/-- An execution waits for a call unless it waited for one of the same number before. -/
lemma settle_pending (call : PendingCall) (c : Context ω) :
    settle (.ok (.pending call)) c =
      if call.callId ∈ c.seen then
        (.error (.protocol (.duplicateCallId call.callId)), c.finish)
      else
        (.ok (.pending call), { c with
          lifecycle := .active, seen := call.callId :: c.seen, outstanding := some [] }) := by
  simp only [settle, List.contains_iff_mem]

/-- What comes of a step ends the execution, with a failure or a result, or the execution waits for
the answer to a new call or to calls that were put off. -/
lemma settle_cases (outcome : Except Failure Progress) (c : Context ω) :
    (∃ failure, settle outcome c = (.error failure, c.finish)) ∨
      (∃ result, settle outcome c = (.ok (.complete result), c.finish)) ∨
      (∃ call, call.callId ∉ c.seen ∧ settle outcome c = (.ok (.pending call),
        { c with lifecycle := .active, seen := call.callId :: c.seen, outstanding := some [] })) ∨
      ∃ ids, settle outcome c =
        (.ok (.futures ids), { c with lifecycle := .active, outstanding := some ids }) := by
  rcases outcome with failure | result | call | ids
  · exact .inl ⟨failure, rfl⟩
  · rcases he : result.error with _ | error
    · exact .inr (.inl ⟨result, settle_complete he c⟩)
    · exact .inl ⟨.sandbox error result.usage, settle_raised he c⟩
  · rw [settle_pending]
    by_cases hs : call.callId ∈ c.seen
    · exact .inl ⟨_, if_pos hs⟩
    · exact .inr (.inr (.inl ⟨call, hs, if_neg hs⟩))
  · exact .inr (.inr (.inr ⟨ids, rfl⟩))

@[simp]
lemma settle_world (outcome : Except Failure Progress) (c : Context ω) :
    (settle outcome c).2.world = c.world := by
  obtain ⟨_, h⟩ | ⟨_, h⟩ | ⟨_, _, h⟩ | ⟨_, h⟩ := settle_cases outcome c <;> rw [h] <;> rfl

@[simp]
lemma settle_initialized (outcome : Except Failure Progress) (c : Context ω) :
    (settle outcome c).2.initialized = c.initialized := by
  obtain ⟨_, h⟩ | ⟨_, h⟩ | ⟨_, _, h⟩ | ⟨_, h⟩ := settle_cases outcome c <;> rw [h] <;> rfl

/-- A step asks the backend and settles what comes of it. -/
lemma advance_apply (backend : Backend ω) (step : Step (Option String)) (c : Context ω) :
    advance backend step c = settle ((ask backend (.drive step) c).1.bind (valueOf Record.progress))
      (ask backend (.drive step) c).2 := rfl

/-! ## Getting the backend ready -/

/-- A context that was not disposed initializes its backend unless that was done. -/
lemma init_apply (backend : Backend ω) {c : Context ω} (h : c.lifecycle ≠ .disposed) :
    init backend c = if c.initialized then (.ok (), c)
      else match ask backend .init c with
        | (.ok true, d) => (.ok (), { d with initialized := true })
        | (.ok false, d) => (.error (.channel .initFailed), d)
        | (.error failure, d) => (.error failure, d) := by
  have hallowed : [Lifecycle.idle, .active].contains c.lifecycle = true := by
    cases hl : c.lifecycle <;> simp_all
  unfold init
  rw [bind_of_ok (a := ()) (d := c) (by rw [require_apply, if_pos hallowed]),
    bind_of_ok (get_apply c)]
  split
  · rfl
  · rw [bind_apply]
    rcases ask backend .init c with ⟨_ | b, d⟩
    · rfl
    · cases b <;> rfl

/-- A disposed context does not initialize its backend any more. -/
lemma init_disposed (backend : Backend ω) {c : Context ω} (h : c.lifecycle = .disposed) :
    init backend c = (.error (.state "init" [.idle, .active] .disposed), c) := by
  unfold init
  rw [bind_of_error (by rw [require_apply, h]; rfl)]

end Context

end ScriptHost
