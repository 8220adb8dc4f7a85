import ScriptHost.Proofs.Backend.Raising
import ScriptHost.Proofs.Context.Suspension
import ScriptHost.Scripted.Engine

/-!
# Kinds of failure are kept apart

Over a backend that raises nothing itself, the outcome of an operation tells an error of a script
from a failure of another kind. A run returns such an error in its result. A step fails with it, and
only when the reply is a completion that carries it; so a step never returns a completion that
carries an error. A record that cannot be read is a breach of the protocol, and what the backend
fails with is passed on as it is.

## Main definitions

* `ScriptHost.Context.NeverRaises` — an action does not fail with an error of a script.
* `ScriptHost.Context.KindsApart` — how the outcome of an operation tells the kinds apart.

## Main results

* `ScriptHost.Context.NeverRaises.perform` — only steps fail with an error of a script.
* `ScriptHost.Context.carryOut_kindsApart` — every operation keeps the kinds apart.
* `ScriptHost.Context.error_kinds_apart` — so does every operation of every run over either backend.
-/

namespace ScriptHost.Context

variable {ω α β : Type}

/-! ## Actions that raise nothing -/

/-- An action does not fail with an error that a script raised. -/
def NeverRaises (x : Action ω α) : Prop :=
  ∀ c, IsUnraised (x c).1

namespace NeverRaises

lemma pure (a : α) : NeverRaises (pure a : Action ω α) := fun _ => .ok a

lemma throw {failure : Failure} (h : failure.isRaised = false) :
    NeverRaises (throw failure : Action ω α) := fun _ => .error h

lemma get : NeverRaises (get : Action ω (Context ω)) := fun c => .ok c

lemma set (d : Context ω) : NeverRaises (set d : Action ω PUnit) := by
  intro c
  rw [set_apply]
  exact IsUnraised.ok PUnit.unit

lemma modify (f : Context ω → Context ω) : NeverRaises (modify f : Action ω PUnit) := by
  intro c
  rw [modify_apply]
  exact IsUnraised.ok PUnit.unit

/-- An action after another one raises nothing when neither does. -/
lemma bind {x : Action ω α} {f : α → Action ω β} (hx : NeverRaises x)
    (hf : ∀ a, NeverRaises (f a)) : NeverRaises (x >>= f) := by
  intro c
  rw [bind_apply]
  rcases h : x c with ⟨failure | a, d⟩
  · exact .error (hx c failure (congrArg Prod.fst h))
  · exact hf a d

lemma ofExcept {outcome : Except Failure α} (h : IsUnraised outcome) :
    NeverRaises (MonadExcept.ofExcept outcome : Action ω α) := by
  intro c
  rw [ofExcept_apply]
  exact h

lemma require (operation : String) (allowed : List Lifecycle) :
    NeverRaises (require operation allowed : Action ω Unit) := by
  intro c
  rw [require_apply]
  split
  · exact .ok ()
  · exact .error rfl

lemma demand (backend : Backend ω) (offered : Capabilities → Bool) (operation : String) :
    NeverRaises (demand backend offered operation) := by
  intro c
  rw [demand_apply]
  split
  · exact .ok ()
  · exact .error rfl

lemma requireUnlessIdle (lifecycle : Lifecycle) (condition : Bool) :
    NeverRaises (requireUnlessIdle lifecycle condition : Action ω Unit) := by
  intro c
  rw [requireUnlessIdle_apply]
  split
  · exact .error rfl
  · exact .ok ()

/-- A record that cannot be read is no error of a script. -/
lemma valueOf (read : Json → Except ProtocolFault α) (reply : Reply α) :
    IsUnraised (valueOf read reply) := by
  unfold Context.valueOf
  rcases reply.value read with fault | value
  · exact .error rfl
  · exact .ok value

section Operations

variable {backend : Backend ω} (h : backend.RaisesNothing)
include h

lemma ask (c : Backend.Call) : NeverRaises (ask backend c) :=
  fun context => h c context.world

lemma init : NeverRaises (init backend) := by
  refine (require _ _).bind fun _ => get.bind fun context => ?_
  split
  · exact pure ()
  · refine (ask h .init).bind fun built => ?_
    split
    · exact modify _
    · exact throw rfl

lemma prepare (operation : String) (submission : Submission) :
    NeverRaises (prepare backend operation submission) := by
  refine (require _ _).bind fun _ => ?_
  split
  · exact (init h).bind fun _ => get.bind fun _ => pure _
  · exact (throw rfl).bind fun _ => (init h).bind fun _ => get.bind fun _ => pure _

/-- **Only steps fail with an error of a script.** -/
theorem perform {op : Operation} (hop : op.drives = false) : NeverRaises (perform backend op) := by
  cases op with
  | init => exact init h
  | run submission =>
    exact (prepare h _ _).bind fun _ => (ask h _).bind fun _ => ofExcept (valueOf _ _)
  | snapshot =>
    refine (require _ _).bind fun _ => get.bind fun _ => get.bind fun _ =>
      (requireUnlessIdle _ _).bind fun _ => (init h).bind fun _ => (demand _ _ _).bind fun _ =>
      get.bind fun _ => (requireUnlessIdle _ _).bind fun _ => (ask h _).bind fun payload =>
      ofExcept ?_
    rcases Envelope.toBytes Blake3.digest ⟨backend.name, payload⟩ with fault | bytes
    · exact .error rfl
    · exact .ok bytes
  | restore bytes =>
    refine (require _ _).bind fun _ => (ofExcept ?_).bind fun _ => (init h).bind fun _ =>
      (demand _ _ _).bind fun _ => (ask h _).bind fun _ => modify _
    rcases payloadOf backend.name bytes with fault | payload
    · exact .error rfl
    · exact .ok payload
  | globals =>
    refine (require _ _).bind fun _ => get.bind fun _ => ?_
    split
    · exact (demand _ _ _).bind fun _ => (ask h _).bind fun _ => ofExcept (valueOf _ _)
    · exact pure _
  | supportsGlobals => exact (init h).bind fun _ => get.bind fun _ => pure _
  | dispose =>
    refine get.bind fun before => ?_
    split
    · exact pure ()
    · refine (set _).bind fun _ => ?_
      split
      · exact ask h _
      · exact pure ()
  | _ => cases hop

end Operations

end NeverRaises

/-! ## What is read of a reply -/

/-- A value that is read is that of the reply. -/
lemma valueOf_of_ok {read : Json → Except ProtocolFault α} {reply : Reply α} {value : α}
    (h : reply.value read = .ok value) : valueOf read reply = .ok value := by
  rw [valueOf, h]
  rfl

/-- A record that cannot be read is a breach of the protocol. -/
lemma valueOf_of_error {read : Json → Except ProtocolFault α} {reply : Reply α}
    {fault : ProtocolFault} (h : reply.value read = .error fault) :
    valueOf read reply = .error (.protocol fault) := by
  rw [valueOf, h]
  rfl

/-- A value that was changed was there before. -/
lemma exists_of_map_eq_ok {outcome : Except Failure α} {f : α → β} {b : β}
    (h : outcome.map f = .ok b) : ∃ a, outcome = .ok a ∧ f a = b := by
  cases outcome with
  | error failure => cases h
  | ok a => exact ⟨a, rfl, Except.ok.inj h⟩

/-- A change of the value leaves a failure alone. -/
lemma eq_error_of_map_eq_error {outcome : Except Failure α} {f : α → β} {failure : Failure}
    (h : outcome.map f = .error failure) : outcome = .error failure := by
  cases outcome with
  | error other => cases h; rfl
  | ok a => cases h

/-! ## Steps that raise -/

section Steps

variable {backend : Backend ω} {step : Step (Option String)} {c : Context ω}

/-- A step whose reply cannot be read breaches the protocol. -/
lemma advance_of_unread {reply : Reply Progress} (h : (ask backend (.drive step) c).1 = .ok reply)
    {fault : ProtocolFault} (hread : reply.value Record.progress = .error fault) :
    (advance backend step c).1 = .error (.protocol fault) := by
  rw [advance_apply, h]
  show (settle (valueOf Record.progress reply) _).1 = _
  rw [valueOf_of_error hread]
  rfl

/-- A step that the backend fails fails in the same way. -/
lemma advance_of_error {failure : Failure} (h : (ask backend (.drive step) c).1 = .error failure) :
    (advance backend step c).1 = .error failure := by
  rw [advance_apply, h]
  rfl

/-- A step settles the progress that is read. -/
lemma advance_of_read {reply : Reply Progress} (h : (ask backend (.drive step) c).1 = .ok reply)
    {progress : Progress} (hread : reply.value Record.progress = .ok progress) :
    (advance backend step c).1 = (settle (.ok progress) (ask backend (.drive step) c).2).1 := by
  rw [advance_apply, h]
  show (settle (valueOf Record.progress reply) _).1 = _
  rw [valueOf_of_ok hread]

/-- Progress becomes an error of a script only when it is a result that carries it. -/
lemma settle_eq_raised_iff (progress : Progress) (error : ScriptError) (usage : Usage) :
    (settle (.ok progress) c).1 = .error (.sandbox error usage) ↔
      ∃ result, progress = .complete result ∧ result.error = some error ∧ result.usage = usage := by
  rcases progress with result | call | ids
  · rcases he : result.error with _ | raised
    · rw [settle_complete he]
      simp [he]
    · rw [settle_raised he]
      simp [he]
  · rw [settle_pending]
    split <;> simp
  · simp [settle]

/-- Progress becomes a result only when it is that result, and carries no error. -/
lemma settle_eq_complete_iff (progress : Progress) (result : RunResult) :
    (settle (.ok progress) c).1 = .ok (.complete result) ↔
      progress = .complete result ∧ result.error = none := by
  rcases progress with other | call | ids
  · rcases he : other.error with _ | raised
    · rw [settle_complete he]
      constructor
      · rintro ⟨⟩
        exact ⟨rfl, he⟩
      · rintro ⟨⟨⟩, -⟩
        rfl
    · rw [settle_raised he]
      constructor
      · rintro ⟨⟩
      · rintro ⟨⟨⟩, h⟩
        cases he.symm.trans h
  · rw [settle_pending]
    split <;> simp
  · simp [settle]

/-- An outcome that is neither a failure of the backend nor a breach of the protocol comes of the
progress that is read. -/
lemma advance_eq_iff {outcome : Except Failure Progress}
    (hpassed : ∀ failure, (ask backend (.drive step) c).1 = .error failure →
      .error failure ≠ outcome)
    (hread : ∀ fault, .error (.protocol fault) ≠ outcome) :
    (advance backend step c).1 = outcome ↔
      ∃ reply progress, (ask backend (.drive step) c).1 = .ok reply ∧
        reply.value Record.progress = .ok progress ∧
        (settle (.ok progress) (ask backend (.drive step) c).2).1 = outcome := by
  rcases hask : (ask backend (.drive step) c).1 with failure | reply
  · rw [advance_of_error hask]
    constructor
    · intro h
      exact absurd h (hpassed failure hask)
    · rintro ⟨_, _, ⟨⟩, _⟩
  · rcases hvalue : reply.value Record.progress with fault | progress
    · rw [advance_of_unread hask hvalue]
      constructor
      · intro h
        exact absurd h (hread fault)
      · rintro ⟨_, _, ⟨⟩, h, _⟩
        cases hvalue.symm.trans h
    · rw [advance_of_read hask hvalue]
      constructor
      · intro h
        exact ⟨reply, progress, rfl, hvalue, h⟩
      · rintro ⟨_, other, ⟨⟩, hother, h⟩
        cases hvalue.symm.trans hother
        exact h

/-- A step fails with an error of a script exactly when the reply is a result that carries it. -/
lemma advance_eq_raised_iff (h : backend.RaisesNothing) (error : ScriptError) (usage : Usage) :
    (advance backend step c).1 = .error (.sandbox error usage) ↔
      ∃ reply result, (ask backend (.drive step) c).1 = .ok reply ∧
        reply.value Record.progress = .ok (.complete result) ∧ result.error = some error ∧
        result.usage = usage := by
  refine (advance_eq_iff ?_ ?_).trans ?_
  · rintro _ hask ⟨⟩
    cases h (.drive step) c.world _ hask
  · rintro _ ⟨⟩
  · simp only [settle_eq_raised_iff]
    constructor
    · rintro ⟨reply, _, hreply, hvalue, result, rfl, hresult⟩
      exact ⟨reply, result, hreply, hvalue, hresult⟩
    · rintro ⟨reply, result, hreply, hvalue, hresult⟩
      exact ⟨reply, _, hreply, hvalue, result, rfl, hresult⟩

/-- A step returns a result exactly when the reply is that result, and carries no error. -/
lemma advance_eq_complete_iff (result : RunResult) :
    (advance backend step c).1 = .ok (.complete result) ↔
      ∃ reply, (ask backend (.drive step) c).1 = .ok reply ∧
        reply.value Record.progress = .ok (.complete result) ∧ result.error = none := by
  refine (advance_eq_iff ?_ ?_).trans ?_
  · rintro _ - ⟨⟩
  · rintro _ ⟨⟩
  · simp only [settle_eq_complete_iff]
    constructor
    · rintro ⟨reply, _, hreply, hvalue, rfl, hresult⟩
      exact ⟨reply, hreply, hvalue, hresult⟩
    · rintro ⟨reply, hreply, hvalue, hresult⟩
      exact ⟨reply, _, hreply, hvalue, rfl, hresult⟩

end Steps

/-! ## How the kinds are told apart -/

/-- A reply among some calls of the backend is a record that cannot be read. -/
inductive IsUnread (calls : List Backend.Exchange) (fault : ProtocolFault) : Prop
  /-- It should be the result of a run. -/
  | run {script : Script (Option String)} {reply : Reply RunResult}
      (hx : ⟨.run script, .ok reply⟩ ∈ calls) (h : reply.value Record.runResult = .error fault)
  /-- It should be progress. -/
  | drive {step : Step (Option String)} {reply : Reply Progress}
      (hx : ⟨.drive step, .ok reply⟩ ∈ calls) (h : reply.value Record.progress = .error fault)
  /-- It should be global names. -/
  | globals {reply : Reply Globals} (hx : ⟨.globals, .ok reply⟩ ∈ calls)
      (h : reply.value Record.globals = .error fault)

/-- A script was run to a result by one of some calls of the backend. -/
def HasRun (calls : List Backend.Exchange) (result : RunResult) : Prop :=
  ∃ script reply, ⟨.run script, .ok reply⟩ ∈ calls ∧ reply.value Record.runResult = .ok result

/-- An execution was driven to a result by one of some calls of the backend. -/
def HasCompleted (calls : List Backend.Exchange) (result : RunResult) : Prop :=
  ∃ step reply, ⟨.drive step, .ok reply⟩ ∈ calls ∧
    reply.value Record.progress = .ok (.complete result)

/-- How the outcome of an operation that makes some calls of the backend tells the kinds of failure
apart. -/
structure KindsApart (op : Operation) (outcome : Except Failure AnyAnswer)
    (calls : List Backend.Exchange) : Prop where
  /-- Only steps fail with an error of a script. -/
  unraised : op.drives = false → IsUnraised outcome
  /-- A result is returned exactly when a run ends with it, also when it carries an error. -/
  ran : ∀ result, outcome = .ok (.result result) ↔ HasRun calls result
  /-- A step fails with an error of a script exactly when the execution ends with it. -/
  raised : ∀ error usage, outcome = .error (.sandbox error usage) ↔
    ∃ result, HasCompleted calls result ∧ result.error = some error ∧ result.usage = usage
  /-- A step returns a result exactly when the execution ends with it, and without an error. -/
  completed : ∀ result, outcome = .ok (.progress (.complete result)) ↔
    HasCompleted calls result ∧ result.error = none
  /-- A record that cannot be read is a breach of the protocol. -/
  unread : ∀ fault, IsUnread calls fault → outcome = .error (.protocol fault)
  /-- What the backend fails with is passed on. -/
  passed : ∀ call failure, ⟨call, .error failure⟩ ∈ calls → outcome = .error failure

section Courses

variable {backend : Backend ω} {c d : Context ω} {op : Operation}
  {outcome : Except Failure AnyAnswer} {calls : List Backend.Exchange}

/-- What is answered to an exchange is what the backend was heard to answer. -/
lemma answer_of_exchange {call : Backend.Call} {answer : Except Failure call.Answer}
    {e : Context ω} (h : ⟨call, answer⟩ = exchange backend call e) :
    (ask backend call e).1 = answer := by
  obtain ⟨-, h⟩ := Backend.Exchange.mk.inj h
  exact (eq_of_heq h).symm

/-- A failure of an exchange is what the backend fails with. -/
lemma failure_of_exchange {call other : Backend.Call} {failure : Failure} {e : Context ω}
    (h : ⟨call, .error failure⟩ = exchange backend other e) :
    (ask backend other e).1 = .error failure := by
  obtain rfl : call = other := congrArg Backend.Exchange.call h
  exact answer_of_exchange h

/-- A failure of getting the backend ready is passed on. -/
lemma SetUp.passed {ready : Except Failure Unit} (s : SetUp backend c ready calls d)
    {call : Backend.Call} {failure : Failure} (hx : ⟨call, .error failure⟩ ∈ calls) :
    ready = .error failure := by
  cases s with
  | present _ => cases hx
  | built _ h => cases h.symm.trans (failure_of_exchange (List.mem_singleton.mp hx))
  | declined _ h => cases h.symm.trans (failure_of_exchange (List.mem_singleton.mp hx))
  | failed _ h => cases h.symm.trans (failure_of_exchange (List.mem_singleton.mp hx)); rfl

/-- Getting the backend ready fails with no error of a script. -/
lemma SetUp.isUnraised {ready : Except Failure Unit} (s : SetUp backend c ready calls d)
    (h : backend.RaisesNothing) : IsUnraised ready := by
  cases s with
  | present _ => exact .ok ()
  | built _ _ => exact .ok ()
  | declined _ _ => exact .error rfl
  | failed _ hask => exact .error (h .init c.world _ hask)

/-- Where the backend is ready, a failure is that of the last call. -/
lemma SetUp.failure_of_last (s : SetUp backend c (.ok ()) calls d) {call other : Backend.Call}
    {failure : Failure} {e : Context ω}
    (hx : ⟨call, .error failure⟩ ∈ calls ++ [exchange backend other e]) :
    (ask backend other e).1 = .error failure := by
  rcases List.mem_append.mp hx with hx | hx
  · cases s.passed hx
  · exact failure_of_exchange (List.mem_singleton.mp hx)

/-- What the backend fails with is passed on. -/
lemma Course.passed (k : Course backend c op outcome calls d) {call : Backend.Call}
    {failure : Failure} (hx : ⟨call, .error failure⟩ ∈ calls) : outcome = .error failure := by
  cases k with
  | refused _ _ => cases hx
  | unready _ _ s => cases s.passed hx; rfl
  | withheld _ s => cases s.passed hx
  | readied s => cases s.passed hx
  | answered s => cases s.passed hx
  | ran _ s script => rw [s.failure_of_last hx]; rfl
  | started _ s script _ => rw [advance_of_error (s.failure_of_last hx)]; rfl
  | drove _ _ =>
    rw [advance_of_error (failure_of_exchange (List.mem_singleton.mp hx))]
    rfl
  | captured s sealed => rw [s.failure_of_last hx]; rfl
  | restored _ s h => cases h.symm.trans (s.failure_of_last hx)
  | notRestored _ s h => cases h.symm.trans (s.failure_of_last hx); rfl
  | nothingToList _ _ => cases hx
  | listed _ _ => rw [failure_of_exchange (List.mem_singleton.mp hx)]; rfl
  | disposedAgain _ => cases hx
  | dropped _ _ => cases hx
  | released _ _ _ => rw [failure_of_exchange (List.mem_singleton.mp hx)]; rfl

/-- What an exchange that carries out a run or lists the global names makes of the operation. -/
def whole? : Backend.Exchange → Option (Except Failure AnyAnswer)
  | ⟨.run _, answer⟩ => some ((answer.bind (valueOf Record.runResult)).map .result)
  | ⟨.globals, answer⟩ => some ((answer.bind (valueOf Record.globals)).map .globals)
  | _ => none

/-- Getting the backend ready makes no whole operation. -/
lemma SetUp.whole?_eq {ready : Except Failure Unit} (s : SetUp backend c ready calls d)
    {x : Backend.Exchange} (hx : x ∈ calls) : whole? x = none := by
  obtain ⟨call, answer⟩ := x
  obtain rfl : call = .init := s.call_eq hx
  rfl

/-- Behind a ready backend only the last call can make a whole operation. -/
lemma SetUp.whole?_last (s : SetUp backend c (.ok ()) calls d) {x last : Backend.Exchange}
    (hx : x ∈ calls ++ [last]) {made : Except Failure AnyAnswer} (h : whole? x = some made) :
    whole? last = some made := by
  rcases List.mem_append.mp hx with hx | hx
  · cases (s.whole?_eq hx).symm.trans h
  · rw [← List.mem_singleton.mp hx, h]

/-- A run and a list of global names are what their exchange makes of them. -/
lemma Course.of_whole (k : Course backend c op outcome calls d) {x : Backend.Exchange}
    (hx : x ∈ calls) {made : Except Failure AnyAnswer} (h : whole? x = some made) :
    outcome = made := by
  cases k with
  | refused _ _ => cases hx
  | unready _ _ s => cases (s.whole?_eq hx).symm.trans h
  | withheld _ s => cases (s.whole?_eq hx).symm.trans h
  | readied s => cases (s.whole?_eq hx).symm.trans h
  | answered s => cases (s.whole?_eq hx).symm.trans h
  | ran _ s script => exact Option.some.inj (s.whole?_last hx h)
  | started _ s script _ => cases s.whole?_last hx h
  | drove _ _ =>
    rw [List.mem_singleton.mp hx] at h
    cases h
  | captured s sealed => cases s.whole?_last hx h
  | restored _ s _ => cases s.whole?_last hx h
  | notRestored _ s _ => cases s.whole?_last hx h
  | nothingToList _ _ => cases hx
  | listed _ _ =>
    rw [List.mem_singleton.mp hx] at h
    exact Option.some.inj h
  | disposedAgain _ => cases hx
  | dropped _ _ => cases hx
  | released _ _ _ =>
    rw [List.mem_singleton.mp hx] at h
    cases h

/-- A record that cannot be read is a breach of the protocol. -/
lemma Course.unread (k : Course backend c op outcome calls d) {fault : ProtocolFault}
    (h : IsUnread calls fault) : outcome = .error (.protocol fault) := by
  cases h with
  | @run script reply hx h =>
    rw [k.of_whole hx rfl]
    show (valueOf Record.runResult reply).map _ = _
    rw [valueOf_of_error h]
    rfl
  | drive hx h =>
    obtain ⟨e, ha, rfl, -⟩ := k.of_drive hx
    rw [advance_of_unread ha h]
    rfl
  | @globals reply hx h =>
    rw [k.of_whole hx rfl]
    show (valueOf Record.globals reply).map _ = _
    rw [valueOf_of_error h]
    rfl

/-- A run that ends with a result returns it. -/
lemma Course.of_hasRun (k : Course backend c op outcome calls d) {result : RunResult}
    (h : HasRun calls result) : outcome = .ok (.result result) := by
  obtain ⟨script, reply, hx, h⟩ := h
  rw [k.of_whole hx rfl]
  show (valueOf Record.runResult reply).map _ = _
  rw [valueOf_of_ok h]
  rfl

/-- A result is returned only when a run ends with it. -/
lemma Course.hasRun (k : Course backend c op outcome calls d) {result : RunResult}
    (h : outcome = .ok (.result result)) : HasRun calls result := by
  cases k with
  | @ran submission calls e hidle s script =>
    obtain ⟨value, hread, ⟨⟩⟩ := exists_of_map_eq_ok h
    rcases ha : (ask backend (.run script) e).1 with failure | reply
    · rw [ha] at hread
      cases hread
    · rw [ha] at hread
      have hread : valueOf Record.runResult reply = .ok result := hread
      rcases hvalue : reply.value Record.runResult with fault | value
      · cases (valueOf_of_error hvalue).symm.trans hread
      · cases (valueOf_of_ok hvalue).symm.trans hread
        refine ⟨script, reply, List.mem_append_right _ ?_, hvalue⟩
        rw [exchange, ha]
        exact List.mem_singleton_self _
  | started _ _ _ _ => obtain ⟨_, -, ⟨⟩⟩ := exists_of_map_eq_ok h
  | drove _ _ => obtain ⟨_, -, ⟨⟩⟩ := exists_of_map_eq_ok h
  | captured _ _ => obtain ⟨_, -, ⟨⟩⟩ := exists_of_map_eq_ok h
  | listed _ _ => obtain ⟨_, -, ⟨⟩⟩ := exists_of_map_eq_ok h
  | released _ _ _ => obtain ⟨_, -, ⟨⟩⟩ := exists_of_map_eq_ok h
  | _ => cases h

/-- An exchange that answers with a result completes the execution. -/
lemma hasCompleted_of_exchange {step : Step (Option String)} {e : Context ω}
    (hx : exchange backend (.drive step) e ∈ calls) {reply : Reply Progress}
    (ha : (ask backend (.drive step) e).1 = .ok reply) {result : RunResult}
    (hvalue : reply.value Record.progress = .ok (.complete result)) :
    HasCompleted calls result := by
  rw [exchange, ha] at hx
  exact ⟨step, reply, hx, hvalue⟩

/-- An operation that takes a step fails before it, or what comes of the step is its outcome. -/
lemma Course.advances (k : Course backend c op outcome calls d) (h : backend.RaisesNothing)
    (hop : op.drives = true) (hcalls : calls = [] → ∃ answer, outcome = .ok answer) :
    (∃ failure, failure.isRaised = false ∧ outcome = .error failure) ∨
      ∃ step e, exchange backend (.drive step) e ∈ calls ∧
        outcome = (advance backend step e).1.map .progress := by
  cases k with
  | refused _ _ => obtain ⟨_, ⟨⟩⟩ := hcalls rfl
  | unready _ _ s => exact .inl ⟨_, s.isUnraised h _ rfl, rfl⟩
  | withheld hw s => rcases hw with rfl | ⟨-, bytes, rfl⟩ <;> cases hop
  | @started submission functions calls e hidle s script f hf =>
    exact .inr ⟨_, f, List.mem_append_right _ (List.mem_singleton_self _), rfl⟩
  | @drove op step hs hactive => exact .inr ⟨step, c, List.mem_singleton_self _, rfl⟩
  | _ => cases hop

/-- A context refuses an operation with no error of a script. -/
lemma Refuses.isRaised {failure : Failure} (r : Refuses backend c op failure) :
    failure.isRaised = false := by
  cases r <;> rfl

/-- Every operation takes a course, on which a step that is taken makes the outcome. -/
lemma exists_course (h : backend.RaisesNothing) (op : Operation) (c : Context ω) :
    ∃ calls, Course backend c op (carryOut backend op c).1 calls (carryOut backend op c).2 ∧
      (op.drives = true →
        (∃ failure, failure.isRaised = false ∧ (carryOut backend op c).1 = .error failure) ∨
          ∃ step e, exchange backend (.drive step) e ∈ calls ∧
            (carryOut backend op c).1 = (advance backend step e).1.map .progress) := by
  rcases carryOut_cases backend op c with ⟨failure, r⟩ | ⟨calls, k, hcalls⟩
  · rw [r.carryOut_eq]
    exact ⟨[], r.course, fun _ => .inl ⟨failure, r.isRaised, rfl⟩⟩
  · exact ⟨calls, k, fun hop => k.advances h hop hcalls⟩

/-- Other operations than steps fail with no error of a script. -/
lemma isUnraised_carryOut (h : backend.RaisesNothing) (hop : op.drives = false) :
    IsUnraised (carryOut backend op c).1 := by
  rw [carryOut, map_apply]
  exact (NeverRaises.perform h hop c).map _

/-- Only steps return progress. -/
lemma drives_of_progress {progress : Progress}
    (h : (carryOut backend op c).1 = .ok (.progress progress)) : op.drives = true := by
  rw [carryOut, map_apply] at h
  obtain ⟨answer, -, hanswer⟩ := exists_of_map_eq_ok h
  cases op <;> first | rfl | cases hanswer

/-- **Every operation keeps the kinds of failure apart**, over a backend that does not fail with
errors of a script.

**Proof sketch.** What a course makes of an exchange is said by `Course.of_whole`, `Course.of_drive`
and `Course.passed`. The other way round, an operation that is no step raises nothing by
`NeverRaises.perform`, and a step that raises or completes was taken: what it fails with before it
is of another kind. What comes of it is settled by `advance_eq_raised_iff` and
`advance_eq_complete_iff`. -/
theorem carryOut_kindsApart (h : backend.RaisesNothing) (op : Operation) (c : Context ω) :
    ∃ calls, Course backend c op (carryOut backend op c).1 calls (carryOut backend op c).2 ∧
      KindsApart op (carryOut backend op c).1 calls := by
  obtain ⟨calls, k, hadvances⟩ := exists_course h op c
  refine ⟨calls, k,
    { unraised := fun hop => isUnraised_carryOut h hop
      ran := fun result => ⟨k.hasRun, k.of_hasRun⟩
      raised := fun error usage => ⟨fun ho => ?_, ?_⟩
      completed := fun result => ⟨fun ho => ?_, ?_⟩
      unread := fun fault => k.unread
      passed := fun call failure => k.passed }⟩
  -- A failure before the step would be of another kind, so the step was taken.
  · cases hop : op.drives with
    | false => cases isUnraised_carryOut h hop _ ho
    | true =>
      rcases hadvances hop with ⟨failure, hraised, hfailed⟩ | ⟨step, e, hx, houtcome⟩
      · cases hfailed.symm.trans ho
        cases hraised
      · have hadvance := eq_error_of_map_eq_error (houtcome.symm.trans ho)
        obtain ⟨reply, result, ha, hvalue, hresult⟩ := (advance_eq_raised_iff h _ _).mp hadvance
        exact ⟨result, hasCompleted_of_exchange hx ha hvalue, hresult⟩
  · rintro ⟨result, ⟨step, reply, hx, hvalue⟩, hresult⟩
    obtain ⟨e, ha, houtcome, -⟩ := k.of_drive hx
    rw [houtcome, (advance_eq_raised_iff h error usage).mpr ⟨reply, result, ha, hvalue, hresult⟩]
    rfl
  · rcases hadvances (drives_of_progress ho) with ⟨failure, -, hfailed⟩ | ⟨step, e, hx, houtcome⟩
    · cases hfailed.symm.trans ho
    · obtain ⟨_, hadvance, ⟨⟩⟩ := exists_of_map_eq_ok (houtcome.symm.trans ho)
      obtain ⟨reply, ha, hvalue, hresult⟩ := (advance_eq_complete_iff _).mp hadvance
      exact ⟨hasCompleted_of_exchange hx ha hvalue, hresult⟩
  · rintro ⟨⟨step, reply, hx, hvalue⟩, hresult⟩
    obtain ⟨e, ha, houtcome, -⟩ := k.of_drive hx
    rw [houtcome, (advance_eq_complete_iff result).mpr ⟨reply, ha, hvalue, hresult⟩]
    rfl

end Courses

/-! ## Runs -/

/-- **Kinds of failure are kept apart.** A worker and a backend over a channel, whatever engine or
far end they have, do not fail with errors of a script, and what the latter cannot read in a reply
is a breach of the protocol. Over every backend that does not fail with errors of a script, every
operation of every run makes some calls of the backend and keeps the kinds apart by `KindsApart`.

**Proof sketch.** `Worker.raisesNothing` and `Remote.raisesNothing` by cases on the calls, and
`carryOut_kindsApart` in the context that the run has led to. -/
theorem error_kinds_apart {ι ν κ : Type} (factory : Engine.Factory ι ν) (channel : Channel κ) :
    (Worker.backend factory).RaisesNothing ∧
      (Remote.backend channel).RaisesNothing ∧
      (∀ call ≠ .dispose, ∀ remote reply failure,
        (Remote.send channel call remote).1 = .ok reply →
        ((Remote.backend channel).call call remote).1 = .error failure →
        ∃ fault, failure = .protocol (.malformed fault)) ∧
      ∀ backend : Backend ω, backend.RaisesNothing →
        ∀ (config : Config) (world : ω) (past : List Operation) (op : Operation),
          let start := fresh config (Recorded.fresh world)
          let before := after backend.recorded start past
          let next := after backend.recorded start (op :: past)
          ∃ calls, next.world.events = before.world.events ++ calls ∧
            KindsApart op (carryOut backend.recorded op before).1 calls := by
  refine ⟨Worker.raisesNothing factory, Remote.raisesNothing channel, ?_, ?_⟩
  · intro call hcall remote reply failure hreply h
    exact Remote.malformed_of_reply channel hcall hreply h
  · intro backend h config world past op start before next
    obtain ⟨calls, k, hkinds⟩ := carryOut_kindsApart h.recorded op before
    exact ⟨calls, k.events, hkinds⟩

/-- The error of a script that divides by zero. -/
def divisionError : ScriptError :=
  ⟨"division by zero", some "ZeroDivisionError", none, none, none, []⟩

/-- Workers whose engine answers with that error. -/
abbrev divisionBackend : Backend (Worker Unit Scripted.EngineScript) :=
  Worker.backend (Scripted.factory .none)

/-- The context of such a worker before its script is started. -/
def divisionStart : Context (Recorded Backend.Exchange (Worker Unit Scripted.EngineScript)) :=
  fresh .standard
    (Recorded.fresh (.idle ⟨[], [.progress (.complete (.failure divisionError .zero))]⟩))

/-- The start of the script. -/
def startDivision : Operation :=
  .start ⟨⟨"1 / 0", none, none⟩, .empty⟩ []

/-- A channel whose far end answers every command with null. -/
def mute : Channel Unit :=
  ⟨fun _ _ far => (.ok .null, far), fun far => (.ok (), far)⟩

/-- The execution of a script that divides by zero fails with its error, which the worker answered
with; and the null of a far end that was asked for its state is a breach of the protocol. -/
theorem error_kinds_apart_division :
    (carryOut divisionBackend.recorded startDivision divisionStart).1 =
        .error (.sandbox divisionError .zero) ∧
      (∃ result, HasCompleted
          (after divisionBackend.recorded divisionStart [startDivision]).world.events result ∧
        result.error = some divisionError ∧ result.usage = .zero) ∧
      ∃ fault, ((Remote.backend mute).call .snapshot ⟨(), true, .none⟩).1 =
        .error (.protocol (.malformed fault)) := by
  obtain ⟨hworker, -, hmalformed, hkinds⟩ := error_kinds_apart (Scripted.factory .none) mute
  have hraised : (carryOut divisionBackend.recorded startDivision divisionStart).1 =
      .error (.sandbox divisionError .zero) := rfl
  refine ⟨hraised, ?_, ?_⟩
  · obtain ⟨calls, hevents, kinds⟩ := hkinds divisionBackend hworker .standard
      (.idle ⟨[], [.progress (.complete (.failure divisionError .zero))]⟩) [] startDivision
    have hcalls : (after divisionBackend.recorded divisionStart [startDivision]).world.events =
        calls := hevents
    rw [hcalls]
    exact (kinds.raised _ _).mp hraised
  · have hreply : (Remote.send mute .snapshot ⟨(), true, .none⟩).1 = .ok .null := rfl
    have hfailed : ((Remote.backend mute).call .snapshot ⟨(), true, .none⟩).1 =
        .error (.protocol (.malformed .snapshotBytes)) := rfl
    obtain ⟨fault, hfault⟩ := hmalformed .snapshot nofun _ _ _ hreply hfailed
    exact ⟨fault, hfailed.trans (congrArg Except.error hfault)⟩

end ScriptHost.Context
