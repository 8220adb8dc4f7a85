import ScriptHost.Proofs.Context.Lifecycle

/-!
# The law of disposal

The first disposal of a context is the end of it. It asks the backend to release the engine when the
context is initialized then, and for nothing else. Whatever the backend answers, the context is
disposed from then on: it asks for nothing any more, accepts further disposals and refuses all other
operations. Before the first disposal no operation asks for a release. So the backend is asked for
one at most once, whatever was lost or failed on the way.

## Main definitions

* `ScriptHost.Context.Operation.onceDisposed` — what comes of an operation on a disposed context.
* `ScriptHost.Context.released` — a context that was disposed.
* `ScriptHost.Context.releaseCalls`, `ScriptHost.Context.releaseOutcome` — the call that the first
  disposal makes, and what comes of it.
* `ScriptHost.Context.releases` — how often a backend was asked for a release.
* `ScriptHost.Context.DisposalLaw` — what the first disposal and the operations after it do.

## Main results

* `ScriptHost.Context.carryOut_of_disposed` — an operation on a disposed context does nothing.
* `ScriptHost.Context.first_disposal` — what the first disposal does.
* `ScriptHost.Context.releases_after_le` — how often a run asks for a release.
* `ScriptHost.Context.disposal_final` — the law for every run.
-/

namespace ScriptHost.Context

variable {ω : Type}

/-! ## Disposed contexts -/

/-- What comes of an operation on a disposed context. -/
def Operation.onceDisposed (op : Operation) : Except Failure AnyAnswer :=
  if op = .dispose then .ok .nothing else .error (.state op.checkedAs op.allowed .disposed)

/-- Of a disposed context only a disposal is allowed. -/
lemma Operation.disposed_mem_allowed_iff (op : Operation) :
    Lifecycle.disposed ∈ op.allowed ↔ op = .dispose := by
  cases op <;> simp [Operation.allowed]

section Disposed

variable {backend : Backend ω} {c : Context ω}

/-- **An operation on a disposed context does nothing.** A disposal succeeds, everything else is
refused for the state. -/
theorem carryOut_of_disposed (h : c.lifecycle = .disposed) (op : Operation) :
    carryOut backend op c = (op.onceDisposed, c) := by
  by_cases hop : op = .dispose
  · subst hop
    have hdispose : dispose backend c = (.ok (), c) := by
      unfold dispose
      rw [bind_of_ok (get_apply c), if_pos h]
      rfl
    rw [carryOut, map_apply]
    show ((dispose backend c).1.map _, (dispose backend c).2) = _
    rw [hdispose]
    rfl
  · have hrefused : Refuses backend c op (.state op.checkedAs op.allowed c.lifecycle) :=
      .state (by rwa [h, Operation.disposed_mem_allowed_iff])
    rw [hrefused.carryOut_eq, Operation.onceDisposed, if_neg hop, h]

/-- Operations on a disposed context leave it what it is. -/
lemma after_of_disposed (h : c.lifecycle = .disposed) (later : List Operation) :
    after backend c later = c := by
  induction later with
  | nil => rfl
  | cons op later ih => rw [after, ih, carryOut_of_disposed h]

/-- A run goes on from where its beginning leads. -/
lemma after_append (backend : Backend ω) (start : Context ω) (later earlier : List Operation) :
    after backend start (later ++ earlier) = after backend (after backend start earlier) later := by
  induction later with
  | nil => rfl
  | cons op later ih => rw [List.cons_append, after, after, ih]

end Disposed

/-! ## The first disposal -/

/-- A context that is released, over a world that its backend left. -/
def released (c : Context ω) (world : ω) : Context ω :=
  { c with world, lifecycle := .disposed, initialized := false, seen := [], outstanding := none }

/-- A disposal releases the backend when it was initialized. -/
lemma carryOut_dispose (backend : Backend ω) {c : Context ω} (h : c.lifecycle ≠ .disposed) :
    carryOut backend .dispose c = if c.initialized then
      ((backend.call .dispose c.world).1.map fun _ => .nothing,
        c.released (backend.call .dispose c.world).2) else (.ok .nothing, c.released c.world) := by
  have hask : ask backend .dispose (c.released c.world) =
      ((backend.call .dispose c.world).1, c.released (backend.call .dispose c.world).2) :=
    Prod.ext rfl (ask_context backend .dispose (c.released c.world))
  have hdispose : dispose backend c = if c.initialized then
      ask backend .dispose (c.released c.world) else (.ok (), c.released c.world) := by
    unfold dispose
    rw [bind_of_ok (get_apply c), if_neg h, bind_of_ok (set_apply _ c)]
    split <;> rfl
  rw [carryOut, map_apply]
  change ((dispose backend c).1.map _, (dispose backend c).2) = _
  rw [hdispose, hask]
  split <;> rfl

/-- The call that the first disposal of a context makes: the engine is released if the context is
initialized. -/
def releaseCalls (backend : Backend ω) (c : Context ω) : List Backend.Exchange :=
  if c.initialized then [exchange backend .dispose c] else []

/-- What comes of the first disposal of a context: it fails only if the call that it makes fails. -/
def releaseOutcome (backend : Backend ω) (c : Context ω) : Except Failure AnyAnswer :=
  if c.initialized then (ask backend .dispose c).1.map fun _ => .nothing else .ok .nothing

/-- **What the first disposal does.** It makes its call and leaves the context disposed and not
initialized, whatever comes of the call. -/
theorem first_disposal {backend : Backend ω} {c : Context (Recorded Backend.Exchange ω)}
    (h : c.lifecycle ≠ .disposed) :
    let next := (carryOut backend.recorded .dispose c).2
    next.world.events = c.world.events ++ releaseCalls backend.recorded c ∧
      (carryOut backend.recorded .dispose c).1 = releaseOutcome backend.recorded c ∧
      next.lifecycle = .disposed ∧ next.initialized = false := by
  intro next
  have hcarried := carryOut_dispose backend.recorded h
  have hnext : next = (carryOut backend.recorded .dispose c).2 := rfl
  rw [hnext, hcarried, releaseCalls, releaseOutcome]
  cases c.initialized with
  | true => exact ⟨rfl, rfl, rfl, rfl⟩
  | false => exact ⟨(List.append_nil _).symm, rfl, rfl, rfl⟩

/-! ## Calls before the first disposal -/

/-- An operation asks the backend to get ready, and for what it is made for. -/
lemma Course.call_eq {backend : Backend ω} {c d : Context ω} {op : Operation}
    {outcome : Except Failure AnyAnswer} {calls : List Backend.Exchange}
    (k : Course backend c op outcome calls d) {x : Backend.Exchange} (hx : x ∈ calls) :
    x.call = .init ∨ x.call.word = op.word := by
  by_cases hinit : x.call = .init
  · exact .inl hinit
  right
  cases k with
  | refused _ _ => cases hx
  | unready _ _ s => exact absurd (s.call_eq hx) hinit
  | withheld _ s => exact absurd (s.call_eq hx) hinit
  | readied s => exact absurd (s.call_eq hx) hinit
  | answered s => exact absurd (s.call_eq hx) hinit
  | ran _ s script => rw [s.eq_last hx hinit]; rfl
  | started _ s script he => rw [s.eq_last hx hinit]; rfl
  | drove hop _ => rw [List.mem_singleton.mp hx]; exact Operation.word_of_step? hop
  | captured s sealed => rw [s.eq_last hx hinit]; rfl
  | restored _ s _ => rw [s.eq_last hx hinit]; rfl
  | notRestored _ s _ => rw [s.eq_last hx hinit]; rfl
  | nothingToList _ _ => cases hx
  | listed _ _ => rw [List.mem_singleton.mp hx]; rfl
  | disposedAgain _ => cases hx
  | dropped _ _ => cases hx
  | released _ _ _ => rw [List.mem_singleton.mp hx]; rfl

/-- Only a disposal asks for a release. -/
lemma Course.call_ne_dispose {backend : Backend ω} {c d : Context ω} {op : Operation}
    {outcome : Except Failure AnyAnswer} {calls : List Backend.Exchange}
    (k : Course backend c op outcome calls d) (hop : op ≠ .dispose) {x : Backend.Exchange}
    (hx : x ∈ calls) : x.call ≠ .dispose := by
  intro hdispose
  obtain hinit | hword := k.call_eq hx
  · rw [hdispose] at hinit
    cases hinit
  · rw [hdispose] at hword
    cases op <;> first | exact hop rfl | simp [Operation.word, Backend.Call.word] at hword

/-! ## The law -/

/-- What the first disposal of a context does, and what the operations after it do: `before` is the
context that it finds, `next` the context right behind it, and `last` a context later on. -/
structure DisposalLaw (backend : Backend ω)
    (before next last : Context (Recorded Backend.Exchange ω)) : Prop where
  /-- The first disposal asks for a release if the context is initialized, and for nothing else. -/
  released : next.world.events = before.world.events ++ releaseCalls backend.recorded before
  /-- It fails only if the release fails. -/
  outcome : (carryOut backend.recorded .dispose before).1 = releaseOutcome backend.recorded before
  /-- From then on the context is disposed. -/
  disposed : last.lifecycle = .disposed
  /-- It is not initialized any more. -/
  uninitialized : last.initialized = false
  /-- The backend is asked for nothing any more. -/
  silent : last.world.events = next.world.events
  /-- Further disposals succeed, and everything else is refused for the state. -/
  final : ∀ op, carryOut backend.recorded op last = (op.onceDisposed, last)

/-! ## Runs -/

/-- How often the backend was asked for a release, by the record of it. -/
def releases (events : List Backend.Exchange) : Nat :=
  events.countP fun x => x.call = .dispose

lemma releases_append (before next : List Backend.Exchange) :
    releases (before ++ next) = releases before + releases next :=
  List.countP_append

/-- A disposal asks for a release once at most. -/
lemma releases_releaseCalls_le (backend : Backend ω) (c : Context ω) :
    releases (releaseCalls backend c) ≤ 1 := by
  unfold releaseCalls
  split
  · exact List.countP_le_length
  · exact Nat.zero_le 1

section Runs

variable (backend : Backend ω) (config : Config) (world : ω)

/-- A run asks for no release before its first disposal, and for one at most with it.

**Proof sketch.** By induction on the run. A context behind a disposal asks for nothing; before it
only the first disposal asks for a release. -/
lemma releases_after_le (past : List Operation) :
    releases (after backend.recorded (fresh config (Recorded.fresh world)) past).world.events ≤
      if .dispose ∈ past then 1 else 0 := by
  induction past with
  | nil => exact Nat.zero_le _
  | cons op past ih =>
    have hdisposed := after_disposed_iff backend.recorded config (Recorded.fresh world) past
    rw [after]
    by_cases hpast : .dispose ∈ past
    -- The context is disposed already and the operation does nothing.
    · rw [carryOut_of_disposed (hdisposed.mpr hpast), if_pos (List.mem_cons_of_mem op hpast)]
      rwa [if_pos hpast] at ih
    -- Nothing was asked for yet, so that all releases are those of the operation.
    rw [if_neg hpast, Nat.le_zero] at ih
    by_cases hop : op = .dispose
    · subst hop
      rw [(first_disposal fun h => hpast (hdisposed.mp h)).1, releases_append, ih, Nat.zero_add,
        if_pos List.mem_cons_self]
      exact releases_releaseCalls_le _ _
    · obtain ⟨calls, k⟩ := carryOut_course backend.recorded op
        (after backend.recorded (fresh config (Recorded.fresh world)) past)
      have hnone : releases calls = 0 :=
        List.countP_eq_zero.mpr fun x hx => by simpa using k.call_ne_dispose hop hx
      rw [k.events, releases_append, ih, hnone]
      exact Nat.zero_le _

/-- **Disposal is final.** Whatever a backend answers, every run asks it for a release at most once,
and for none before the first disposal. The first disposal asks for a release just when the context
is initialized, and from then on, whatever came of it, the context is disposed and not initialized,
no operation asks the backend for anything, further disposals succeed, and all other operations are
refused for the state.

**Proof sketch.** `releases_after_le` counts. The first disposal is calculated by
`first_disposal`, and the operations after it do nothing by `after_of_disposed`. -/
theorem disposal_final (past : List Operation) :
    let start := fresh config (Recorded.fresh world)
    releases (after backend.recorded start past).world.events ≤ 1 ∧
      (.dispose ∉ past →
        ∀ x ∈ (after backend.recorded start past).world.events, x.call ≠ .dispose) ∧
      ∀ later earlier, past = later ++ .dispose :: earlier → .dispose ∉ earlier →
        DisposalLaw backend (after backend.recorded start earlier)
          (after backend.recorded start (.dispose :: earlier))
          (after backend.recorded start past) := by
  intro start
  have hle := releases_after_le backend config world past
  refine ⟨Nat.le_trans hle (by split <;> decide), fun hpast => ?_,
    fun later earlier hsplit hfirst => ?_⟩
  · rw [if_neg hpast, Nat.le_zero] at hle
    simpa using List.countP_eq_zero.mp hle
  · have hlive : (after backend.recorded start earlier).lifecycle ≠ .disposed := fun h =>
      hfirst ((after_disposed_iff backend.recorded config _ earlier).mp h)
    obtain ⟨hreleased, houtcome, hdisposed, huninitialized⟩ := first_disposal hlive
    have hlast : after backend.recorded start past =
        after backend.recorded start (.dispose :: earlier) := by
      rw [hsplit, after_append]
      exact after_of_disposed hdisposed later
    rw [hlast]
    exact {
      released := hreleased
      outcome := houtcome
      disposed := hdisposed
      uninitialized := huninitialized
      silent := rfl
      final := carryOut_of_disposed hdisposed }

end Runs

end ScriptHost.Context
