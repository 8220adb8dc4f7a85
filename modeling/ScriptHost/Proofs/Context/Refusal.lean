import ScriptHost.Proofs.Context.Suspension
import ScriptHost.Proofs.Dict

/-!
# Refusals are atomic

A context refuses an operation before it asks its backend for anything. `Refuses` lists the reasons:
the state, global names, calls that cannot be put off, answers to calls that do not wait for them, a
capture of an idle context, bytes that are no sealed state of the backend, and what the backend does
not offer. Whatever the reason is, the operation fails with it and the context stays what it was;
and an operation that fails without asking the backend was refused for one of them.

Answers to calls that were put off therefore reach the backend just when the context has no
objection, which can be told from what was returned before.

## Main results

* `ScriptHost.Context.answersFault?_eq_none_iff` — when there is no objection to answers.
* `ScriptHost.Context.refusal_iff` — the refusals are the failures without a call.
* `ScriptHost.Context.refusals_atomic` — refusals in a run.
-/

namespace ScriptHost.Context

variable {ω : Type}

/-! ## Answers to calls that were put off -/

/-- No call is answered twice just when no call is answered with a value and with an error. -/
lemma answeredTwice?_eq_none_iff (answers : Answers) :
    answeredTwice? answers = none ↔
      ∀ id ∈ answers.results.keys, id ∉ answers.errors.keys := by
  simp only [answeredTwice?, List.find?_eq_none, Dict.contains_iff_mem_keys]

/-- Every call that is answered was put off, when it is known which calls were. -/
lemma notAwaiting?_eq_none_iff (outstanding : Option (List UInt32)) (answers : Answers) :
    notAwaiting? outstanding answers = none ↔
      ∀ ids, outstanding = some ids →
        ∀ id, id ∈ answers.results.keys ∨ id ∈ answers.errors.keys → id ∈ ids := by
  cases outstanding with
  | none => simp [notAwaiting?]
  | some ids => simp [notAwaiting?, List.find?_eq_none, or_imp, forall_and]

/-- There is no objection to answers when no call is answered twice and every call that is answered
was put off, as far as that is known. -/
lemma answersFault?_eq_none_iff (outstanding : Option (List UInt32)) (answers : Answers) :
    answersFault? outstanding answers = none ↔
      (∀ id ∈ answers.results.keys, id ∉ answers.errors.keys) ∧
        ∀ ids, outstanding = some ids →
          ∀ id, id ∈ answers.results.keys ∨ id ∈ answers.errors.keys → id ∈ ids := by
  rw [← answeredTwice?_eq_none_iff, ← notAwaiting?_eq_none_iff]
  unfold answersFault?
  cases answeredTwice? answers with
  | some id => simp
  | none => simp

/-! ## Refusals and calls -/

section Recorded

variable {backend : Backend ω} {c : Context (Recorded Backend.Exchange ω)}

/-- **The refusals are the failures without a call.** An operation is refused with a failure just
when it fails with it and the record of the backend stays what it was.

**Proof sketch.** A refused operation leaves the whole context alone. An operation that is not
refused proceeds, and without a call it succeeds then. -/
theorem refusal_iff {op : Operation} {failure : Failure} :
    Refuses backend.recorded c op failure ↔
      (carryOut backend.recorded op c).1 = .error failure ∧
        (carryOut backend.recorded op c).2.world.events = c.world.events := by
  constructor
  · intro r
    rw [r.carryOut_eq]
    exact ⟨rfl, rfl⟩
  · rintro ⟨hfailure, hevents⟩
    rcases carryOut_cases backend.recorded op c with ⟨other, r⟩ | ⟨calls, k, hcalls⟩
    · have hother : other = failure := by
        rw [r.carryOut_eq] at hfailure
        exact Except.error.inj hfailure
      exact hother ▸ r
    · have hnil : calls = [] := by
        rw [k.events] at hevents
        exact List.append_right_eq_self.mp hevents
      obtain ⟨answer, ho⟩ := hcalls hnil
      rw [hfailure] at ho
      cases ho

variable (backend c) in
/-- Answers to calls that were put off reach the backend of an active context that offers to take
them, unless there is an objection to them. -/
lemma resolve_reaches_iff (answers : Answers) :
    (∃ answer, (carryOut backend.recorded (.resolve answers) c).2.world.events =
        c.world.events ++ [⟨.drive (.resolve answers), answer⟩]) ↔
      c.lifecycle = .active ∧ (backend.offers c.world.world).futures = true ∧
        answersFault? c.outstanding answers = none := by
  have refused {failure : Failure}
      (r : Refuses backend.recorded c (.resolve answers) failure) :
      ¬ ∃ answer, (carryOut backend.recorded (.resolve answers) c).2.world.events =
        c.world.events ++ [⟨.drive (.resolve answers), answer⟩] := by
    rintro ⟨answer, h⟩
    rw [r.carryOut_eq] at h
    simp at h
  constructor
  · intro hreaches
    have hactive : c.lifecycle = .active := by
      by_contra hl
      exact refused (.state (by simpa [Operation.allowed] using hl)) hreaches
    have hoffered : (backend.offers c.world.world).futures = true := by
      by_contra ho
      exact refused (.noFutures hactive rfl (Bool.not_eq_true _ ▸ ho)) hreaches
    refine ⟨hactive, hoffered, ?_⟩
    by_contra hfault
    obtain ⟨fault, h⟩ := Option.ne_none_iff_exists'.mp hfault
    exact refused (.answers hactive hoffered h) hreaches
  · rintro ⟨hactive, hoffered, hfault⟩
    have hgo : resolve backend.recorded answers c =
        advance backend.recorded (.resolve answers) c := resolve_apply hactive hoffered hfault
    refine ⟨(ask backend.recorded (.drive (.resolve answers)) c).1, ?_⟩
    rw [carryOut, map_apply]
    show (resolve backend.recorded answers c).2.world.events = _
    rw [hgo, advance_events]
    rfl

end Recorded

/-! ## Runs -/

/-- **Refusals are atomic.** Whatever a backend answers, in every run an operation is refused just
when it fails without any call of the backend, and a refused operation leaves the context what it
was. In particular answers to calls that were put off reach the backend just when an execution is
suspended, the backend offers to put calls off, no call is answered twice, and every call that is
answered was put off by the latest progress, if there was any progress since the state was put in
place.

**Proof sketch.** `refusal_iff` and `resolve_reaches_iff` for the context that the run leads to; an
active context knows the calls that were announced by `after_bookkeeping`. -/
theorem refusals_atomic (backend : Backend ω) (config : Config) (world : ω)
    (past : List Operation) (op : Operation) (answers : Answers) :
    let start := fresh config (Recorded.fresh world)
    let before := after backend.recorded start past
    let next := after backend.recorded start (op :: past)
    let resolved := after backend.recorded start (.resolve answers :: past)
    (∀ failure, Refuses backend.recorded before op failure ↔
        (carryOut backend.recorded op before).1 = .error failure ∧
          next.world.events = before.world.events) ∧
      (∀ failure, Refuses backend.recorded before op failure → next = before) ∧
      ((∃ answer, resolved.world.events =
          before.world.events ++ [⟨.drive (.resolve answers), answer⟩]) ↔
        before.lifecycle = .active ∧ (backend.offers before.world.world).futures = true ∧
          (∀ id ∈ answers.results.keys, id ∉ answers.errors.keys) ∧
          ∀ ids, announced (returned (outcomes backend.recorded start past)) = some ids →
            ∀ id, id ∈ answers.results.keys ∨ id ∈ answers.errors.keys → id ∈ ids) := by
  intro start before next resolved
  refine ⟨fun failure => refusal_iff, fun failure r => congrArg Prod.snd r.carryOut_eq, ?_⟩
  have hbook : Bookkeeping before (returned (outcomes backend.recorded start past)) :=
    after_bookkeeping _ _ _ _
  have hreaches := resolve_reaches_iff backend before answers
  rw [answersFault?_eq_none_iff] at hreaches
  refine hreaches.trans (and_congr_right fun hactive => ?_)
  rw [(hbook.active hactive).2]

end ScriptHost.Context
