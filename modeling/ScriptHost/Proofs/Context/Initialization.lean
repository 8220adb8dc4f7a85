import ScriptHost.Proofs.Context.Disposal
import ScriptHost.Proofs.Context.Loss

/-!
# The law of initialization

A context initializes its backend when it first needs it, and again when it needs it after a loss.
The flag that it keeps for this can be read off the calls that it made: the backend is initialized
just when an initialization succeeded and nothing that came back since said that the far end is
gone. So the calls that need an initialized backend come behind such an initialization, and between
two initializations there is a loss.

An initialization that does not succeed ends the operation that asked for it. Nothing else is asked,
and the next operation that needs the backend begins with another initialization.

## Main definitions

* `ScriptHost.Context.Ready` — the backend was initialized among some calls, and not lost since.
* `ScriptHost.Context.Orderly` — every call is in its place.
* `ScriptHost.Context.InOrder` — the calls so far are in line with the flag of a context.
* `ScriptHost.Context.TriesAgain` — what an initialization that did not succeed leaves behind.

## Main results

* `ScriptHost.Context.Course.inOrder` — every course keeps the calls in line with the flag.
* `ScriptHost.Context.Course.triesAgain` — an initialization that does not succeed ends its
  operation.
* `ScriptHost.Context.lazy_initialization` — the law for every run.
-/

namespace ScriptHost

/-! ## Calls that matter -/

namespace Backend

/-- The calls that are made only to a backend that is initialized. The steps of an execution under
way are none of them: they are for the engine that suspended, or for no engine. -/
def Call.needsReady : Call → Bool
  | init => false
  | drive (.start ..) => true
  | drive _ => false
  | _ => true

namespace Exchange

/-- A call that found the far end gone. -/
def findsGone (x : Exchange) : Bool :=
  Context.saysGone x.outcome

/-- The failure of an operation whose initialization ends like this, when it does not succeed. -/
def initFailure? : Exchange → Option Failure
  | ⟨.init, .ok false⟩ => some (.channel .initFailed)
  | ⟨.init, .error failure⟩ => some failure
  | _ => none

lemma call_of_initFailure? {x : Exchange} {failure : Failure}
    (h : x.initFailure? = some failure) : x.call = .init := by
  unfold initFailure? at h
  split at h
  · rfl
  · rfl
  · cases h

lemma regains_of_initFailure? {x : Exchange} {failure : Failure}
    (h : x.initFailure? = some failure) : x.regains = false := by
  unfold initFailure? at h
  split at h
  · rfl
  · rfl
  · cases h

/-- Only an initialization sets an engine up. -/
lemma call_of_regains {x : Exchange} (h : x.regains = true) : x.call = .init := by
  unfold regains at h
  split at h
  · rfl
  · cases h

end Exchange

end Backend

namespace Context

variable {ω : Type}

open Backend (Exchange)

/-! ## Calls in their order -/

/-- Among some calls the backend was initialized, and nothing that came back since said that the far
end is gone. -/
def Ready (calls : List Exchange) : Prop :=
  ∃ before x since, calls = before ++ x :: since ∧ x.regains = true ∧
    ∀ y ∈ since, y.findsGone = false

/-- One more call makes the backend ready, or leaves it ready unless it finds the far end gone. -/
lemma ready_append_iff (calls : List Exchange) (y : Exchange) :
    Ready (calls ++ [y]) ↔ y.regains = true ∨ Ready calls ∧ y.findsGone = false :=
  exists_since_append_iff calls y

lemma not_ready_nil : ¬ Ready [] := by
  rintro ⟨before, x, since, h, -⟩
  simp at h

/-- Every call is in its place: what needs an initialized backend comes while it is ready, and an
initialization while it is not. -/
structure Orderly (calls : List Exchange) : Prop where
  /-- The backend is ready for the calls that need it to be. -/
  needed : ∀ earlier x later, calls = earlier ++ x :: later → x.call.needsReady = true →
    Ready earlier
  /-- A backend that is ready is not initialized again. -/
  once : ∀ earlier x later, calls = earlier ++ x :: later → x.call = .init → ¬ Ready earlier

lemma Orderly.nil : Orderly [] where
  needed earlier x later h := by simp at h
  once earlier x later h := by simp at h

/-- One more call in its place. -/
lemma Orderly.append {calls : List Exchange} (h : Orderly calls) {y : Exchange}
    (hneeds : y.call.needsReady = true → Ready calls) (hinit : y.call = .init → ¬ Ready calls) :
    Orderly (calls ++ [y]) where
  needed earlier x later hsplit hx := by
    rcases eq_last_or_before hsplit with ⟨rfl, rfl, -⟩ | ⟨rest, hcalls, -⟩
    · exact hneeds hx
    · exact h.needed earlier x rest hcalls hx
  once earlier x later hsplit hx := by
    rcases eq_last_or_before hsplit with ⟨rfl, rfl, -⟩ | ⟨rest, hcalls, -⟩
    · exact hinit hx
    · exact h.once earlier x rest hcalls hx

/-- Between an initialization that succeeded and the next one there is a loss. -/
lemma Orderly.exists_loss {calls : List Exchange} (h : Orderly calls)
    {earlier between later : List Exchange} {x y : Exchange}
    (hsplit : calls = earlier ++ x :: (between ++ y :: later)) (hx : x.regains = true)
    (hy : y.call = .init) : ∃ z ∈ between, z.findsGone = true := by
  have hlost : ¬ ∀ z ∈ between, z.findsGone = false := by
    intro hnone
    apply h.once (earlier ++ x :: between) y later (by simp [hsplit]) hy
    exact ⟨earlier, x, between, rfl, hx, hnone⟩
  simpa using hlost

/-! ## Calls and the flag -/

/-- The calls so far are in their order, and a context is initialized just when they say so. -/
structure InOrder (c : Context ω) (calls : List Exchange) : Prop where
  /-- Every call is in its place. -/
  orderly : Orderly calls
  /-- The flag says whether the backend is ready. -/
  initialized_iff : c.initialized = true ↔ Ready calls

/-- One more call that is in its place keeps the calls in line with the flag. -/
lemma InOrder.append {c d : Context ω} {calls : List Exchange} (h : InOrder c calls) {y : Exchange}
    (hneeds : y.call.needsReady = true → c.initialized = true)
    (hinit : y.call = .init → c.initialized = false)
    (hd : d.initialized = true ↔ y.regains = true ∨ c.initialized = true ∧ y.findsGone = false) :
    InOrder d (calls ++ [y]) where
  orderly := by
    refine h.orderly.append (fun hy => h.initialized_iff.mp (hneeds hy)) fun hy hready => ?_
    have hc := h.initialized_iff.mpr hready
    rw [hinit hy] at hc
    cases hc
  initialized_iff := by rw [hd, ready_append_iff, h.initialized_iff]

/-- Asking the backend for something else than an initialization keeps the calls in line with the
flag. -/
lemma InOrder.ask {backend : Backend ω} {c : Context ω} {calls : List Exchange}
    (h : InOrder c calls) {call : Backend.Call} (hcall : call ≠ .init)
    (hneeds : call.needsReady = true → c.initialized = true) :
    InOrder (Context.ask backend call c).2 (calls ++ [exchange backend call c]) := by
  refine h.append hneeds (fun hinit => absurd hinit hcall) ?_
  have hregains : (exchange backend call c).regains = false := by
    cases hr : (exchange backend call c).regains with
    | false => rfl
    | true => exact absurd (Exchange.call_of_regains hr) hcall
  rw [hregains, ask_initialized]
  simp [Exchange.findsGone, exchange]

/-- Getting the backend ready keeps the calls in line with the flag. -/
lemma SetUp.inOrder {backend : Backend ω} {c d : Context ω} {outcome : Except Failure Unit}
    {xs calls : List Exchange} (s : SetUp backend c outcome xs d) (h : InOrder c calls) :
    InOrder d (calls ++ xs) := by
  cases s with
  | present _ => rwa [List.append_nil]
  | built hi ha =>
    refine h.append nofun (fun _ => hi) ?_
    simp [exchange, ha, Exchange.regains]
  | declined hi ha =>
    refine h.append nofun (fun _ => hi) ?_
    simp [exchange, ha, Exchange.regains, ask_initialized, hi]
  | failed hi ha =>
    refine h.append nofun (fun _ => hi) ?_
    simp [exchange, ha, Exchange.regains, ask_initialized, hi]

/-- A step keeps the calls in line with the flag. -/
lemma InOrder.advance {backend : Backend ω} {step : Step (Option String)} {c : Context ω}
    {calls : List Exchange} (h : InOrder c calls)
    (hneeds : (Backend.Call.drive step).needsReady = true → c.initialized = true) :
    InOrder (Context.advance backend step c).2 (calls ++ [exchange backend (.drive step) c]) := by
  have hasked : InOrder (Context.ask backend (.drive step) c).2
      (calls ++ [exchange backend (.drive step) c]) := h.ask nofun hneeds
  refine ⟨hasked.orderly, ?_⟩
  rw [advance_apply, settle_initialized]
  exact hasked.initialized_iff

/-- A course keeps the calls in their order, and in line with the flag as long as the context is not
disposed.

**Proof sketch.** By cases on the course. Behind `SetUp` the backend is ready, and a step of an
execution under way does not need it to be. -/
theorem Course.inOrder {backend : Backend ω} {c d : Context ω} {op : Operation}
    {outcome : Except Failure AnyAnswer} {xs calls : List Exchange}
    (k : Course backend c op outcome xs d) (h : InOrder c calls) :
    Orderly (calls ++ xs) ∧ (d.lifecycle ≠ .disposed → InOrder d (calls ++ xs)) := by
  suffices hkept : op ≠ .dispose → InOrder d (calls ++ xs) by
    by_cases hop : op = .dispose
    · subst hop
      cases k with
      | refused hop _ => exact absurd rfl hop
      | unready hop _ _ => cases hop
      | withheld hop _ => simp at hop
      | drove hop _ => cases hop
      | disposedAgain hl => exact ⟨by simpa using h.orderly, fun hlive => absurd hl hlive⟩
      | dropped _ _ => exact ⟨by simpa using h.orderly, fun hlive => absurd rfl hlive⟩
      | released _ hi he =>
        refine ⟨h.orderly.append (fun _ => h.initialized_iff.mp hi) nofun, fun hlive => ?_⟩
        rw [ask_lifecycle, he] at hlive
        exact absurd rfl hlive
    · exact ⟨(hkept hop).orderly, fun _ => hkept hop⟩
  intro hop
  cases k with
  | refused _ _ => rwa [List.append_nil]
  | unready _ _ s => exact s.inOrder h
  | withheld _ s => exact s.inOrder h
  | readied s => exact s.inOrder h
  | answered s => exact s.inOrder h
  | ran _ s script =>
    rw [← List.append_assoc]
    exact (s.inOrder h).ask nofun fun _ => s.initialized
  | started _ s script he =>
    subst he
    rw [← List.append_assoc]
    have hready := s.inOrder h
    exact InOrder.advance ⟨hready.orderly, hready.initialized_iff⟩ fun _ => s.initialized
  | @drove op step hstep _ =>
    refine h.advance fun hneeds => ?_
    -- A step that needs the backend to be ready is a start, which no operation under way takes.
    cases op <;> cases hstep <;> cases hneeds
  | captured s _ =>
    rw [← List.append_assoc]
    exact (s.inOrder h).ask nofun fun _ => s.initialized
  | @restored bytes payload ys e _ s _ =>
    rw [← List.append_assoc]
    have hasked : InOrder (ask backend (.restore payload) e).2
        (calls ++ ys ++ [exchange backend (.restore payload) e]) :=
      (s.inOrder h).ask nofun fun _ => s.initialized
    exact ⟨hasked.orderly, hasked.initialized_iff⟩
  | notRestored _ s _ =>
    rw [← List.append_assoc]
    exact (s.inOrder h).ask nofun fun _ => s.initialized
  | nothingToList _ _ => rwa [List.append_nil]
  | listed _ hi => exact h.ask nofun fun _ => hi
  | disposedAgain _ => exact absurd rfl hop
  | dropped _ _ => exact absurd rfl hop
  | released _ _ _ => exact absurd rfl hop

/-! ## Initializations that do not succeed -/

/-- An initialization that made the backend ready succeeded. -/
lemma SetUp.regains_of_mem {backend : Backend ω} {c d : Context ω} {xs : List Exchange}
    (s : SetUp backend c (.ok ()) xs d) {x : Exchange} (hx : x ∈ xs) : x.regains = true := by
  cases s with
  | present _ => cases hx
  | built _ ha =>
    rw [List.mem_singleton.mp hx]
    simp [exchange, ha, Exchange.regains]

/-- A backend that could not be made ready was asked once, and the failure says what came of it. -/
lemma SetUp.exists_of_error {backend : Backend ω} {c d : Context ω} {failure : Failure}
    {xs : List Exchange} (s : SetUp backend c (.error failure) xs d) :
    ∃ x, xs = [x] ∧ x.initFailure? = some failure ∧ d.initialized = false := by
  cases s with
  | declined hi ha =>
    refine ⟨_, rfl, ?_, by rw [ask_initialized, hi]; rfl⟩
    simp [exchange, ha, Exchange.initFailure?]
  | failed hi ha =>
    refine ⟨_, rfl, ?_, by rw [ask_initialized, hi]; rfl⟩
    simp [exchange, ha, Exchange.initFailure?]

/-- A course with an initialization that did not succeed ends with it.

**Proof sketch.** By cases on the course. Whatever a course asks for behind `SetUp` comes behind an
initialization that succeeded, or behind none. -/
lemma Course.eq_of_initFailure {backend : Backend ω} {c d : Context ω} {op : Operation}
    {outcome : Except Failure AnyAnswer} {xs : List Exchange}
    (k : Course backend c op outcome xs d) {x : Exchange} (hx : x ∈ xs) {failure : Failure}
    (hfailure : x.initFailure? = some failure) :
    xs = [x] ∧ outcome = .error failure ∧ d.lifecycle = c.lifecycle ∧ d.initialized = false := by
  have hcall := Exchange.call_of_initFailure? hfailure
  have hregains := Exchange.regains_of_initFailure? hfailure
  have single {last : Exchange} (hmem : x ∈ [last]) (hne : last.call ≠ .init) : False := by
    rw [List.mem_singleton.mp hmem] at hcall
    exact hne hcall
  have ready {ys : List Exchange} {e : Context ω} (s : SetUp backend c (.ok ()) ys e)
      (hmem : x ∈ ys) : False := by
    rw [s.regains_of_mem hmem] at hregains
    cases hregains
  have asked {ys : List Exchange} {e : Context ω} (s : SetUp backend c (.ok ()) ys e)
      {last : Exchange} (hmem : x ∈ ys ++ [last]) (hne : last.call ≠ .init) : False := by
    rcases List.mem_append.mp hmem with hmem | hmem
    · exact ready s hmem
    · exact single hmem hne
  cases k with
  | refused _ _ => cases hx
  | unready _ _ s =>
    obtain ⟨y, rfl, hy, hd⟩ := s.exists_of_error
    obtain rfl := List.mem_singleton.mp hx
    rw [hfailure] at hy
    obtain rfl := Option.some.inj hy
    exact ⟨rfl, rfl, s.kept.1, hd⟩
  | withheld _ s => exact (ready s hx).elim
  | readied s => exact (ready s hx).elim
  | answered s => exact (ready s hx).elim
  | ran _ s _ => exact (asked s hx nofun).elim
  | started _ s _ _ => exact (asked s hx nofun).elim
  | drove _ _ => exact (single hx nofun).elim
  | captured s _ => exact (asked s hx nofun).elim
  | restored _ s _ => exact (asked s hx nofun).elim
  | notRestored _ s _ => exact (asked s hx nofun).elim
  | nothingToList _ _ => cases hx
  | listed _ _ => exact (single hx nofun).elim
  | disposedAgain _ => cases hx
  | dropped _ _ => cases hx
  | released _ _ _ => exact (single hx nofun).elim

/-- An operation that gets the backend ready begins with an initialization when the backend is not
initialized, unless it fails without any call. -/
lemma Course.init_first {backend : Backend ω} {c d : Context ω} {op : Operation}
    {outcome : Except Failure AnyAnswer} {xs : List Exchange}
    (k : Course backend c op outcome xs d) (hop : op.setsUp = true) (hi : c.initialized = false) :
    (∃ failure, outcome = .error failure ∧ xs = []) ∨
      ∃ rest, xs = exchange backend .init c :: rest := by
  have first {o : Except Failure Unit} {ys zs : List Exchange} {e : Context ω}
      (s : SetUp backend c o ys e) : ∃ rest, ys ++ zs = exchange backend .init c :: rest := by
    rw [s.calls_eq, hi]
    exact ⟨zs, rfl⟩
  have alone {o : Except Failure Unit} {ys : List Exchange} {e : Context ω}
      (s : SetUp backend c o ys e) : ∃ rest, ys = exchange backend .init c :: rest := by
    rw [s.calls_eq, hi]
    exact ⟨[], rfl⟩
  cases k with
  | refused _ _ => exact .inl ⟨_, rfl, rfl⟩
  | unready _ _ s => exact .inr (alone s)
  | withheld _ s => exact .inr (alone s)
  | readied s => exact .inr (alone s)
  | answered s => exact .inr (alone s)
  | ran _ s _ => exact .inr (first s)
  | started _ s _ _ => exact .inr (first s)
  | @drove op step hstep _ => cases op <;> cases hstep <;> cases hop
  | captured s _ => exact .inr (first s)
  | restored _ s _ => exact .inr (first s)
  | notRestored _ s _ => exact .inr (first s)
  | nothingToList _ _ => cases hop
  | listed _ _ => cases hop
  | disposedAgain _ => cases hop
  | dropped _ _ => cases hop
  | released _ _ _ => cases hop

/-- What an initialization that did not succeed leaves behind: nothing else was asked, the operation
fails with `failure`, the state is the one before, and every operation that gets the backend ready
is refused by the context or begins with another initialization. -/
structure TriesAgain (backend : Backend ω) (before : Context (Recorded Exchange ω)) (op : Operation)
    (x : Exchange) (failure : Failure) : Prop where
  /-- Nothing else was asked. -/
  alone : (carryOut backend.recorded op before).2.world.events = before.world.events ++ [x]
  /-- The operation fails. -/
  fails : (carryOut backend.recorded op before).1 = .error failure
  /-- The state stays. -/
  lifecycle : (carryOut backend.recorded op before).2.lifecycle = before.lifecycle
  /-- The backend is not initialized. -/
  uninitialized : (carryOut backend.recorded op before).2.initialized = false
  /-- The next operation that needs the backend initializes it. -/
  again : ∀ next : Operation, next.setsUp = true →
    (∃ refusal, Refuses backend.recorded (carryOut backend.recorded op before).2 next refusal) ∨
      ∃ outcome rest, (carryOut backend.recorded next
          (carryOut backend.recorded op before).2).2.world.events =
        (carryOut backend.recorded op before).2.world.events ++ ⟨.init, outcome⟩ :: rest

/-- An operation on a context that is not initialized is refused or initializes the backend, when it
is one that gets the backend ready. -/
lemma refused_or_init (backend : Backend ω) {c : Context (Recorded Exchange ω)} {op : Operation}
    (hop : op.setsUp = true) (hi : c.initialized = false) :
    (∃ refusal, Refuses backend.recorded c op refusal) ∨
      ∃ outcome rest, (carryOut backend.recorded op c).2.world.events =
        c.world.events ++ ⟨.init, outcome⟩ :: rest := by
  rcases carryOut_cases backend.recorded op c with hrefused | ⟨calls, k, hcalls⟩
  · exact .inl hrefused
  · right
    rcases k.init_first hop hi with ⟨failure, ho, hnil⟩ | ⟨rest, hrest⟩
    · obtain ⟨answer, hanswer⟩ := hcalls hnil
      rw [ho] at hanswer
      cases hanswer
    · refine ⟨(ask backend.recorded .init c).1, rest, ?_⟩
      rw [k.events, hrest]
      rfl

/-- An initialization that does not succeed ends its operation. -/
lemma triesAgain_of_course {backend : Backend ω} {c : Context (Recorded Exchange ω)}
    {op : Operation} {xs : List Exchange}
    (k : Course backend.recorded c op (carryOut backend.recorded op c).1 xs
      (carryOut backend.recorded op c).2)
    {x : Exchange} (hx : x ∈ xs) {failure : Failure}
    (hfailure : x.initFailure? = some failure) : TriesAgain backend c op x failure := by
  obtain ⟨hxs, ho, hlifecycle, hd⟩ := k.eq_of_initFailure hx hfailure
  exact {
    alone := by rw [k.events, hxs]
    fails := ho
    lifecycle := hlifecycle
    uninitialized := hd
    again := fun next hnext => refused_or_init backend hnext hd }

/-! ## Runs -/

/-- The calls of a run are in their order, and in line with the flag until the context is disposed.

**Proof sketch.** By induction on the run. An operation on a disposed context does nothing, and any
other takes a course. -/
lemma after_inOrder (backend : Backend ω) (config : Config) (world : ω) (past : List Operation) :
    let c := after backend.recorded (fresh config (Recorded.fresh world)) past
    Orderly c.world.events ∧ (c.lifecycle ≠ .disposed → InOrder c c.world.events) := by
  induction past with
  | nil => exact ⟨.nil, fun _ => ⟨.nil, ⟨nofun, fun h => absurd h not_ready_nil⟩⟩⟩
  | cons op past ih =>
    intro c
    obtain ⟨before, hbefore⟩ : ∃ before, before =
      after backend.recorded (fresh config (Recorded.fresh world)) past := ⟨_, rfl⟩
    rw [← hbefore] at ih
    have hc : c = (carryOut backend.recorded op before).2 := by rw [hbefore]; rfl
    by_cases hl : before.lifecycle = .disposed
    · rw [hc, carryOut_of_disposed hl]
      exact ih
    · obtain ⟨calls, k⟩ := carryOut_course backend.recorded op before
      rw [hc, k.events]
      exact k.inOrder (ih.2 hl)

/-- **The law of initialization.** Whatever a backend answers, in every run a context that was not
disposed is initialized just when an initialization succeeded and nothing that came back since said
that the far end is gone. Scripts are run and started, states captured and put in place, global
names reported and engines released only then. Between an initialization that succeeded and the next
one some call found the far end gone. An initialization that does not succeed is the only call of
its operation, which fails and leaves the context uninitialized, and the next operation that needs
the backend tries again.

**Proof sketch.** `after_inOrder` for the calls so far, and `triesAgain_of_course` for the course of
the operation. -/
theorem lazy_initialization (backend : Backend ω) (config : Config) (world : ω)
    (past : List Operation) (op : Operation) :
    let start := fresh config (Recorded.fresh world)
    let before := after backend.recorded start past
    let next := after backend.recorded start (op :: past)
    (before.lifecycle ≠ .disposed → (before.initialized = true ↔ Ready before.world.events)) ∧
      (∀ earlier x later, before.world.events = earlier ++ x :: later →
        x.call.needsReady = true → Ready earlier) ∧
      (∀ earlier x between y later,
        before.world.events = earlier ++ x :: (between ++ y :: later) →
        x.regains = true → y.call = .init → ∃ z ∈ between, z.findsGone = true) ∧
      ∃ calls, next.world.events = before.world.events ++ calls ∧
        ∀ x ∈ calls, ∀ failure, x.initFailure? = some failure →
          TriesAgain backend before op x failure := by
  intro start before next
  obtain ⟨horderly, hlive⟩ := after_inOrder backend config world past
  obtain ⟨calls, k⟩ := carryOut_course backend.recorded op before
  refine ⟨fun hl => (hlive hl).initialized_iff, horderly.needed, ?_, calls, k.events, ?_⟩
  · intro earlier x between y later hsplit hx hy
    exact horderly.exists_loss hsplit hx hy
  · intro x hx failure hfailure
    exact triesAgain_of_course k hx hfailure

end Context

end ScriptHost
