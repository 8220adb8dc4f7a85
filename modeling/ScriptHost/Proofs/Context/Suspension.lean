import Mathlib.Data.List.Nodup
import ScriptHost.Proofs.Context.Lifecycle

/-!
# What a context knows of a suspended execution

A context keeps the numbers of the calls that the present execution has waited for, and the calls
that were put off. Both can be told from what its user has seen: from the progress that was returned
since the execution began with a start or with a sealed state.

The numbers of the calls that an execution waits for are therefore distinct. A backend that repeats
a number within one execution ends it, and numbers of earlier executions count for nothing.

## Main definitions

* `ScriptHost.Context.returned` — the progress that was returned since the last execution began.
* `ScriptHost.Context.callIds`, `ScriptHost.Context.announced` — the numbers of the calls that
  progress waits for, and the calls that the latest progress has put off.
* `ScriptHost.Context.Bookkeeping` — what a context knows is what was returned.

## Main results

* `ScriptHost.Context.Course.bookkeeping` — every course keeps `Bookkeeping`.
* `ScriptHost.Context.suspension_law` — so does every run, and a repeated number ends an execution.
-/

namespace ScriptHost.Context

variable {ω : Type}

/-! ## What was returned -/

/-- Whether an operation starts a script. -/
def Operation.starts : Operation → Bool
  | start .. => true
  | _ => false

/-- The progress that was returned since the last execution began, the latest first. -/
def returned : List (Operation × Except Failure AnyAnswer) → List Progress
  | [] => []
  | (.restore _, .ok _) :: _ => []
  | (op, .ok (.progress progress)) :: past =>
    if op.starts then [progress] else progress :: returned past
  | _ :: past => returned past

/-- The numbers of the calls that progress waits for. -/
def callIds (progress : List Progress) : List UInt32 :=
  progress.filterMap fun p => p.pending?.map PendingCall.callId

/-- The calls that were put off by the latest progress; nothing is known of them before there is
any. -/
def announced : List Progress → Option (List UInt32)
  | [] => none
  | .futures ids :: _ => some ids
  | _ :: _ => some []

/-- A failure returns no progress. -/
@[simp]
lemma returned_error (op : Operation) (failure : Failure)
    (past : List (Operation × Except Failure AnyAnswer)) :
    returned ((op, .error failure) :: past) = returned past := by
  simp [returned]

/-- Progress of a step that was taken in an execution under way is returned beside the earlier. -/
lemma returned_step {op : Operation} {step : Step (Option String)} (h : op.step? = some step)
    (progress : Progress) (past : List (Operation × Except Failure AnyAnswer)) :
    returned ((op, .ok (.progress progress)) :: past) = progress :: returned past := by
  cases op <;> simp_all [returned, Operation.step?, Operation.starts]

/-- An outcome without progress adds nothing to what was returned, unless a sealed state was put in
place. -/
lemma returned_skip {op : Operation} {outcome : Except Failure AnyAnswer}
    (hop : ∀ bytes, op ≠ .restore bytes) (hp : ∀ progress, outcome ≠ .ok (.progress progress))
    (past : List (Operation × Except Failure AnyAnswer)) :
    returned ((op, outcome) :: past) = returned past := by
  rcases outcome with failure | answer
  · exact returned_error op failure past
  · cases op <;> cases answer <;> simp_all [returned]

/-- The outcome of a call whose answers are no progress has no progress. -/
lemma map_ne_progress {α : Type} {outcome : Except Failure α} {f : α → AnyAnswer}
    (h : ∀ a p, f a ≠ .progress p) (p : Progress) : outcome.map f ≠ .ok (.progress p) := by
  rcases outcome with failure | a
  · simp [Except.map]
  · simpa [Except.map] using h a p

/-! ## The invariant -/

/-- What a context knows of the present execution is what was returned since it began. -/
structure Bookkeeping (c : Context ω) (progress : List Progress) : Prop where
  /-- An idle context knows of no calls. -/
  idle : c.lifecycle = .idle → c.seen = [] ∧ c.outstanding = some []
  /-- An active context has seen the calls that were returned, and the calls that were put off are
  those of the latest progress. -/
  active : c.lifecycle = .active → c.seen = callIds progress ∧ c.outstanding = announced progress
  /-- The calls that were returned are distinct. -/
  distinct : (callIds progress).Nodup

namespace Bookkeeping

variable {c d : Context ω} {progress : List Progress} {op : Operation}
  {past : List (Operation × Except Failure AnyAnswer)}

/-- What a context knows stays true while it does not change. -/
lemma of_kept (h : Bookkeeping c progress) (hl : d.lifecycle = c.lifecycle)
    (hs : d.seen = c.seen) (ho : d.outstanding = c.outstanding) : Bookkeeping d progress where
  idle hd := by
    rw [hs, ho]
    exact h.idle (hl ▸ hd)
  active hd := by
    rw [hs, ho]
    exact h.active (hl ▸ hd)
  distinct := h.distinct

/-- Nothing is known of a disposed context. -/
lemma of_disposed (h : Bookkeeping c progress) (hd : d.lifecycle = .disposed) :
    Bookkeeping d progress where
  idle hi := by
    rw [hd] at hi
    cases hi
  active hi := by
    rw [hd] at hi
    cases hi
  distinct := h.distinct

/-- What a context knows stays true when an operation fails and leaves it alone. -/
lemma of_error (h : Bookkeeping c (returned past)) (failure : Failure) :
    Bookkeeping c (returned ((op, .error failure) :: past)) := by
  rwa [returned_error]

/-- What a context knows stays true when an operation returns no progress and leaves it alone. -/
lemma of_skip {outcome : Except Failure AnyAnswer} (h : Bookkeeping c (returned past))
    (hop : ∀ bytes, op ≠ .restore bytes) (hp : ∀ progress, outcome ≠ .ok (.progress progress)) :
    Bookkeeping c (returned ((op, outcome) :: past)) := by
  rwa [returned_skip hop hp]

/-- At the end of an execution nothing is left of it. -/
lemma of_finish (h : (callIds progress).Nodup) : Bookkeeping c.finish progress where
  idle _ := ⟨rfl, rfl⟩
  active hi := by cases hi
  distinct := h

/-- What comes of a step is noted beside what was returned before it.

**Proof sketch.** A failure ends the execution, and so does a result. A call that the context has
not seen yet is none of those that were returned. Calls that were put off are noted. -/
lemma of_settle {e : Context ω} (hseen : e.seen = callIds progress)
    (hdistinct : (callIds progress).Nodup) (outcome : Except Failure Progress) :
    match (settle outcome e).1 with
    | .error _ => (settle outcome e).2 = e.finish
    | .ok p => Bookkeeping (settle outcome e).2 (p :: progress) := by
  obtain ⟨failure, h⟩ | ⟨result, h⟩ | ⟨call, hnew, h⟩ | ⟨ids, h⟩ := settle_cases outcome e <;>
    rw [h]
  · exact of_finish hdistinct
  · refine ⟨nofun, fun _ => ⟨?_, rfl⟩, ?_⟩
    · show call.callId :: e.seen = call.callId :: callIds progress
      rw [hseen]
    · rw [hseen] at hnew
      exact List.nodup_cons.mpr ⟨hnew, hdistinct⟩
  · exact ⟨nofun, fun _ => ⟨hseen, rfl⟩, hdistinct⟩

/-- A step of an execution adds what comes of it to what was returned since the execution began. -/
lemma of_advance {backend : Backend ω} {step : Step (Option String)} {e : Context ω}
    (hseen : e.seen = callIds progress) (hdistinct : (callIds progress).Nodup)
    (hpast : (callIds (returned past)).Nodup)
    (hreturned : ∀ p, returned ((op, .ok (.progress p)) :: past) = p :: progress) :
    Bookkeeping (advance backend step e).2
      (returned ((op, (advance backend step e).1.map .progress) :: past)) := by
  have hsettled := of_settle (e := (ask backend (.drive step) e).2)
    (by rw [ask_seen, hseen]) hdistinct
    ((ask backend (.drive step) e).1.bind (valueOf Record.progress))
  rw [advance_apply]
  split at hsettled
  · rename_i failure heq
    rw [heq, hsettled]
    exact .of_error (.of_finish hpast) failure
  · rename_i p heq
    rw [heq]
    exact hreturned p ▸ hsettled

end Bookkeeping

/-- Every course keeps what the context knows in line with what was returned.

**Proof sketch.** By cases on the course. A start begins with nothing known, every other step with
what is known already, and `Bookkeeping.of_settle` says what comes of it. A sealed state that was
put in place begins with nothing returned. All else leaves the context and what was returned
alone. -/
theorem Course.bookkeeping {backend : Backend ω} {c d : Context ω} {op : Operation}
    {outcome : Except Failure AnyAnswer} {calls : List Backend.Exchange}
    (k : Course backend c op outcome calls d)
    {past : List (Operation × Except Failure AnyAnswer)} (h : Bookkeeping c (returned past)) :
    Bookkeeping d (returned ((op, outcome) :: past)) := by
  have kept {o : Except Failure Unit} {xs : List Backend.Exchange} {e : Context ω}
      (s : SetUp backend c o xs e) : Bookkeeping e (returned past) :=
    h.of_kept s.kept.1 s.kept.2.1 s.kept.2.2.1
  have asked (call : Backend.Call) {e : Context ω} (he : Bookkeeping e (returned past)) :
      Bookkeeping (ask backend call e).2 (returned past) :=
    he.of_kept (ask_lifecycle _ _ _) (ask_seen _ _ _) (ask_outstanding _ _ _)
  cases k with
  | refused hop hactive => exact h.of_error _
  | unready hop hactive s => exact (kept s).of_error _
  | withheld hop s => exact (kept s).of_error _
  | readied s => exact (kept s).of_skip (by simp) (by simp)
  | answered s => exact (kept s).of_skip (by simp) (by simp)
  | ran hidle s script => exact (asked _ (kept s)).of_skip (by simp) (map_ne_progress (by simp))
  | @started submission functions calls e hidle s script f hf =>
    have hseen : f.seen = callIds [] := by
      rw [hf]
      rfl
    exact .of_advance hseen List.nodup_nil h.distinct fun _ => rfl
  | drove hop hactive =>
    exact .of_advance (h.active hactive).1 h.distinct h.distinct fun p => returned_step hop p past
  | captured s sealed => exact (asked _ (kept s)).of_skip (by simp) (map_ne_progress (by simp))
  | restored hidle s ha => exact ⟨nofun, fun _ => ⟨rfl, rfl⟩, List.nodup_nil⟩
  | notRestored hidle s ha => exact (asked _ (kept s)).of_error _
  | nothingToList hidle hi => exact h.of_skip (by simp) (by simp)
  | listed hidle hi => exact (asked _ h).of_skip (by simp) (map_ne_progress (by simp))
  | disposedAgain hd => exact h.of_skip (by simp) (by simp)
  | dropped hd hi => exact .of_skip (h.of_disposed rfl) (by simp) (by simp)
  | released hd hi he =>
    exact .of_skip (h.of_disposed (by rw [ask_lifecycle, he])) (by simp)
      (map_ne_progress (by simp))

/-! ## Repeated calls -/

/-- A step and its answer are those of the context that the backend was asked from. -/
lemma exchange_eq {backend : Backend ω} {step other : Step (Option String)} {e : Context ω}
    {answer : Except Failure (Reply Progress)}
    (h : (⟨.drive step, answer⟩ : Backend.Exchange) = exchange backend (.drive other) e) :
    step = other ∧ (ask backend (.drive other) e).1 = answer := by
  unfold exchange at h
  cases h
  exact ⟨rfl, rfl⟩

/-- The step that a course takes, if it takes one. Where the operation is no start, it is taken in
the execution under way. -/
lemma Course.of_drive {backend : Backend ω} {c d : Context ω} {op : Operation}
    {outcome : Except Failure AnyAnswer} {calls : List Backend.Exchange}
    (k : Course backend c op outcome calls d) {step : Step (Option String)}
    {answer : Except Failure (Reply Progress)} (hx : ⟨.drive step, answer⟩ ∈ calls) :
    ∃ e, (ask backend (.drive step) e).1 = answer ∧
      outcome = (advance backend step e).1.map .progress ∧ d = (advance backend step e).2 ∧
      if op.starts then e.seen = [] else c.lifecycle = .active ∧ e = c := by
  -- Every other call of a course is told apart by its kind.
  have other {call : Backend.Call} {e : Context ω} (hcall : ∀ step, .drive step ≠ call)
      (h : (⟨.drive step, answer⟩ : Backend.Exchange) = exchange backend call e) : False :=
    hcall step (congrArg Backend.Exchange.call h)
  cases k with
  | refused hop hactive => cases hx
  | unready hop hactive s => cases s.call_eq hx
  | withheld hop s => cases s.call_eq hx
  | readied s => cases s.call_eq hx
  | answered s => cases s.call_eq hx
  | ran hidle s script => exact (other (by simp) (s.eq_last hx (by simp))).elim
  | @started submission functions calls e hidle s script f hf =>
    obtain ⟨rfl, ha⟩ := exchange_eq (s.eq_last hx (by simp))
    exact ⟨f, ha, rfl, rfl, by rw [hf]; exact rfl⟩
  | drove hop hactive =>
    obtain ⟨rfl, ha⟩ := exchange_eq (List.mem_singleton.mp hx)
    exact ⟨c, ha, rfl, rfl, by cases op <;> cases hop <;> exact ⟨hactive, rfl⟩⟩
  | captured s sealed => exact (other (by simp) (s.eq_last hx (by simp))).elim
  | restored hidle s ha => exact (other (by simp) (s.eq_last hx (by simp))).elim
  | notRestored hidle s ha => exact (other (by simp) (s.eq_last hx (by simp))).elim
  | nothingToList hidle hi => cases hx
  | listed hidle hi => exact (other (by simp) (List.mem_singleton.mp hx)).elim
  | disposedAgain hd => cases hx
  | dropped hd hi => cases hx
  | released hd hi he => exact (other (by simp) (List.mem_singleton.mp hx)).elim

/-- A backend that answers a step with a call ends the execution when the call was returned since it
began, and suspends it otherwise.

**Proof sketch.** The step is the one of `Course.of_drive`, and `settle` decides on the calls that
the context had seen before it: none at a start, and those that were returned otherwise. -/
lemma Course.of_pending {backend : Backend ω} {c d : Context ω} {op : Operation}
    {outcome : Except Failure AnyAnswer} {calls : List Backend.Exchange}
    (k : Course backend c op outcome calls d) {progress : List Progress}
    (h : Bookkeeping c progress) {step : Step (Option String)} {reply : Reply Progress}
    {call : PendingCall} (hx : ⟨.drive step, .ok reply⟩ ∈ calls)
    (hreply : reply.value Record.progress = .ok (.pending call)) :
    if call.callId ∈ (if op.starts then [] else callIds progress) then
      outcome = .error (.protocol (.duplicateCallId call.callId)) ∧ d.lifecycle = .idle
    else outcome = .ok (.progress (.pending call)) ∧ d.lifecycle = .active := by
  obtain ⟨e, ha, rfl, rfl, he⟩ := k.of_drive hx
  have hread : (ask backend (.drive step) e).1.bind (valueOf Record.progress) =
      .ok (.pending call) := by
    rw [ha]
    show (reply.value Record.progress).mapError _ = _
    rw [hreply]
    rfl
  have hseen : (ask backend (.drive step) e).2.seen =
      if op.starts then [] else callIds progress := by
    rw [ask_seen]
    split at he
    · rw [he, if_pos ‹_›]
    · rw [he.2, (h.active he.1).1, if_neg ‹_›]
  rw [advance_apply, hread, ← hseen]
  split
  · rename_i hmem
    rw [settle, if_pos (by simpa using hmem)]
    exact ⟨rfl, rfl⟩
  · rename_i hmem
    rw [settle, if_neg (by simpa using hmem)]
    exact ⟨rfl, rfl⟩

/-! ## Runs -/

/-- A context that was fresh keeps what it knows in line with what was returned. -/
lemma after_bookkeeping (backend : Backend ω) (config : Config) (world : ω)
    (past : List Operation) :
    Bookkeeping (after backend (fresh config world) past)
      (returned (outcomes backend (fresh config world) past)) := by
  induction past with
  | nil => exact ⟨fun _ => ⟨rfl, rfl⟩, nofun, List.nodup_nil⟩
  | cons op past ih =>
    obtain ⟨calls, k⟩ := carryOut_course backend op (after backend (fresh config world) past)
    exact k.bookkeeping ih

/-- **The law of suspended executions.** Whatever a backend answers, in every run the context knows
of the present execution what was returned since it began, and the calls that were returned are
distinct. A step that the backend answers with a call ends the execution when the call was returned
in the same execution; otherwise the call is returned, whatever was returned in earlier executions.

**Proof sketch.** `Course.bookkeeping` by induction on the run, and `Course.of_pending` where the
backend answers with a call: the context has seen just the calls that were returned, and a context
in which a step is taken is active unless the step is a start. -/
theorem suspension_law (backend : Backend ω) (config : Config) (world : ω)
    (past : List Operation) (op : Operation) :
    let start := fresh config (Recorded.fresh world)
    let before := after backend.recorded start past
    let next := after backend.recorded start (op :: past)
    let outcome := (carryOut backend.recorded op before).1
    let progress := returned (outcomes backend.recorded start past)
    Bookkeeping before progress ∧
      ∃ calls, next.world.events = before.world.events ++ calls ∧
        ∀ step reply call, ⟨.drive step, .ok reply⟩ ∈ calls →
          reply.value Record.progress = .ok (.pending call) →
          if call.callId ∈ (if op.starts then [] else callIds progress) then
            outcome = .error (.protocol (.duplicateCallId call.callId)) ∧ next.lifecycle = .idle
          else outcome = .ok (.progress (.pending call)) ∧ next.lifecycle = .active := by
  intro start before next outcome progress
  have hbook : Bookkeeping before progress := after_bookkeeping _ _ _ _
  obtain ⟨calls, k⟩ := carryOut_course backend.recorded op before
  exact ⟨hbook, calls, k.events, fun step reply call hx hreply => k.of_pending hbook hx hreply⟩

end ScriptHost.Context
