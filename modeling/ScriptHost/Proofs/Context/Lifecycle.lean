import ScriptHost.Proofs.Context.Course

/-!
# The law of the lifecycle

Where a context is in its life depends only on the operations and on what comes of them. A step that
reached the backend leaves the context active when the execution waits, and idle otherwise. A sealed
state is put in place of no execution and makes the context active. Nothing else but a disposal
changes the state, and a disposal is final.

## Main definitions

* `ScriptHost.Context.suspends` — the outcomes of a step that leave an execution suspended.
* `ScriptHost.Context.Operation.IsReached` — an operation made the call that it is for.
* `ScriptHost.Context.LifecycleLaw` — how an operation changes the state.

## Main results

* `ScriptHost.Context.Course.lifecycleLaw` — every course obeys the law.
* `ScriptHost.Context.lifecycle_law` — so does every operation of a run.
-/

namespace ScriptHost.Context

variable {ω : Type}

/-! ## The law -/

/-- Whether an execution is suspended when a step ends this way. -/
def suspends : Except Failure AnyAnswer → Bool
  | .ok (.progress (.pending _)) => true
  | .ok (.progress (.futures _)) => true
  | _ => false

namespace Operation

/-- Whether an operation takes a step of an execution. -/
def drives : Operation → Bool
  | start .. => true
  | op => op.step?.isSome

/-- Whether an operation leaves the state alone, whatever comes of it. -/
def keepsLifecycle : Operation → Bool
  | init => true
  | run _ => true
  | snapshot => true
  | globals => true
  | supportsGlobals => true
  | _ => false

/-- Among some calls of the backend is the one that an operation is made for. -/
def IsReached (op : Operation) (calls : List Backend.Exchange) : Prop :=
  ∃ x ∈ calls, x.call.word = op.word

end Operation

/-- How an operation that makes some calls and ends with an outcome changes the state of a
context. -/
structure LifecycleLaw (op : Operation) (outcome : Except Failure AnyAnswer)
    (calls : List Backend.Exchange) (before next : Lifecycle) : Prop where
  /-- A step that reached the backend leaves the context active when the execution waits, and idle
  in every other case. -/
  driven : op.drives = true → op.IsReached calls →
    next = if suspends outcome then .active else .idle
  /-- A sealed state is put in place in an idle context only, which is active then. -/
  restored : ∀ bytes answer, op = .restore bytes → outcome = .ok answer →
    before = .idle ∧ next = .active
  /-- A sealed state that is refused changes nothing. -/
  notRestored : ∀ bytes failure, op = .restore bytes → outcome = .error failure → next = before
  /-- Operations that take no step change nothing. -/
  kept : op.keepsLifecycle = true → next = before
  /-- An operation that stops before its call of the backend changes nothing. -/
  stopped : ¬ op.IsReached calls → op ≠ .dispose ∨ (∃ failure, outcome = .error failure) →
    next = before
  /-- A context is disposed by a disposal and by nothing else, and stays disposed. -/
  disposed : next = .disposed ↔ before = .disposed ∨ op = .dispose

/-! ## Courses obey the law -/

/-- Whatever comes of a step, the context is active when the execution waits and idle otherwise. -/
lemma settle_lifecycle (outcome : Except Failure Progress) (c : Context ω) :
    (settle outcome c).2.lifecycle =
      if suspends ((settle outcome c).1.map .progress) then .active else .idle := by
  obtain ⟨_, h⟩ | ⟨_, h⟩ | ⟨_, _, h⟩ | ⟨_, h⟩ := settle_cases outcome c <;> rw [h] <;> rfl

lemma advance_lifecycle (backend : Backend ω) (step : Step (Option String)) (c : Context ω) :
    (advance backend step c).2.lifecycle =
      if suspends ((advance backend step c).1.map .progress) then .active else .idle :=
  settle_lifecycle _ _

/-- Getting the backend ready is no call that an operation of another word is made for. -/
lemma SetUp.not_isReached {backend : Backend ω} {c d : Context ω} {o : Except Failure Unit}
    {calls : List Backend.Exchange} (s : SetUp backend c o calls d) {op : Operation}
    (hop : op ≠ .init) : ¬ op.IsReached calls := by
  rintro ⟨x, hx, hword⟩
  rw [s.call_eq hx] at hword
  cases op <;> simp_all [Operation.word, Backend.Call.word]

/-- The states that a step leaves are neither of them disposed. -/
lemma waits_ne_disposed (b : Bool) : (if b then Lifecycle.active else .idle) ≠ .disposed := by
  cases b <;> decide

/-- A course on which the state stays obeys the law, when it is not the success of a restoration or
a disposal and does not drive an execution. -/
lemma LifecycleLaw.of_kept {op : Operation} {outcome : Except Failure AnyAnswer}
    {calls : List Backend.Exchange} {before next : Lifecycle} (hnext : next = before)
    (hdrives : op.drives = true → ¬ op.IsReached calls)
    (hrestore : ∀ bytes answer, op = .restore bytes → outcome ≠ .ok answer)
    (hdispose : op = .dispose → before = .disposed) :
    LifecycleLaw op outcome calls before next where
  driven hd hr := absurd hr (hdrives hd)
  restored bytes answer hop ho := absurd ho (hrestore bytes answer hop)
  notRestored _ _ _ _ := hnext
  kept _ := hnext
  stopped _ _ := hnext
  disposed := by
    rw [hnext]
    exact ⟨.inl, fun h => h.elim id hdispose⟩

/-- An operation that takes no step obeys the law when it leaves the state alone. -/
lemma LifecycleLaw.of_keeps {op : Operation} {outcome : Except Failure AnyAnswer}
    {calls : List Backend.Exchange} {before next : Lifecycle} (hop : op.keepsLifecycle = true)
    (hnext : next = before) : LifecycleLaw op outcome calls before next := by
  refine .of_kept hnext ?_ ?_ ?_
  · intro hd
    cases op <;> simp_all [Operation.drives, Operation.keepsLifecycle, Operation.step?]
  · rintro bytes answer rfl
    simp [Operation.keepsLifecycle] at hop
  · rintro rfl
    simp [Operation.keepsLifecycle] at hop

/-- A step that reached the backend obeys the law. -/
lemma LifecycleLaw.of_driven {op : Operation} {outcome : Except Failure AnyAnswer}
    {calls : List Backend.Exchange} {before next : Lifecycle}
    (hnext : next = if suspends outcome then .active else .idle) (hreached : op.IsReached calls)
    (hop : op.drives = true) (hbefore : before ≠ .disposed) :
    LifecycleLaw op outcome calls before next := by
  have hother : op.keepsLifecycle = false ∧ op ≠ .dispose ∧ ∀ bytes, op ≠ .restore bytes := by
    cases op <;> simp_all [Operation.drives, Operation.step?, Operation.keepsLifecycle]
  refine ⟨fun _ _ => hnext, fun bytes _ h => absurd h (hother.2.2 bytes),
    fun bytes _ h => absurd h (hother.2.2 bytes), fun h => ?_, fun h => absurd hreached h, ?_⟩
  · rw [hother.1] at h
    cases h
  · have hne := waits_ne_disposed (suspends outcome)
    rw [← hnext] at hne
    exact ⟨fun h => absurd h hne, fun h => h.elim (absurd · hbefore) (absurd · hother.2.1)⟩

/-- A disposal obeys the law. -/
lemma LifecycleLaw.of_disposed {outcome : Except Failure AnyAnswer}
    {calls : List Backend.Exchange} {before next : Lifecycle} (hnext : next = .disposed)
    (hok : ∀ failure, outcome = .error failure → Operation.dispose.IsReached calls) :
    LifecycleLaw .dispose outcome calls before next where
  driven hd := by cases hd
  restored _ _ h := by cases h
  notRestored _ _ h := by cases h
  kept h := by cases h
  stopped hr h := by
    rcases h with h | ⟨failure, ho⟩
    · exact absurd rfl h
    · exact absurd (hok failure ho) hr
  disposed := by simp [hnext]

/-- Every course obeys the law of the lifecycle.

**Proof sketch.** By cases on the course. Getting the backend ready and asking it leave the state
alone; the state after a step is that of `settle_lifecycle`. -/
theorem Course.lifecycleLaw {backend : Backend ω} {c d : Context ω} {op : Operation}
    {outcome : Except Failure AnyAnswer} {calls : List Backend.Exchange}
    (k : Course backend c op outcome calls d) :
    LifecycleLaw op outcome calls c.lifecycle d.lifecycle := by
  cases k with
  | refused hop hactive =>
    exact .of_kept rfl (fun _ ⟨x, hx, _⟩ => by cases hx) (by simp) (absurd · hop)
  | unready hop hactive s =>
    refine .of_kept s.kept.1 (fun hd => s.not_isReached ?_) (by simp) ?_
    · rintro rfl
      cases hd
    · rintro rfl
      cases hop
  | withheld hop s =>
    refine .of_kept s.kept.1 (fun hd => s.not_isReached ?_) (by simp) ?_
    · rintro rfl
      cases hd
    · rintro rfl
      simp at hop
  | readied s => exact .of_keeps rfl s.kept.1
  | answered s => exact .of_keeps rfl s.kept.1
  | ran hidle s script => exact .of_keeps rfl (by rw [ask_lifecycle, s.kept.1])
  | @started submission functions calls e hidle s script f hf =>
    refine .of_driven (advance_lifecycle _ _ _) ⟨_, List.mem_append_right _ List.mem_cons_self, rfl⟩
      rfl ?_
    rw [hidle]
    decide
  | @drove op step hop hactive =>
    refine .of_driven (advance_lifecycle _ _ _)
      ⟨_, List.mem_cons_self, Operation.word_of_step? hop⟩ ?_ ?_
    · cases op <;> cases hop <;> rfl
    · rw [hactive]
      decide
  | captured s sealed => exact .of_keeps rfl (by rw [ask_lifecycle, s.kept.1])
  | @restored bytes payload calls e hidle s h =>
    refine ⟨by simp [Operation.drives, Operation.step?], fun _ _ _ _ => ⟨hidle, rfl⟩, by simp,
      by simp [Operation.keepsLifecycle], fun hr => ?_, by simp [hidle]⟩
    exact absurd ⟨_, List.mem_append_right _ List.mem_cons_self, rfl⟩ hr
  | notRestored hidle s h =>
    exact .of_kept (by rw [ask_lifecycle, s.kept.1]) (by simp [Operation.drives, Operation.step?])
      (by simp) (by simp)
  | nothingToList hidle h => exact .of_keeps rfl rfl
  | listed hidle h => exact .of_keeps rfl (ask_lifecycle _ _ _)
  | disposedAgain h =>
    exact .of_kept rfl (by simp [Operation.drives, Operation.step?]) (by simp) fun _ => h
  | dropped h hi => exact .of_disposed rfl (by simp)
  | released h hi he =>
    exact .of_disposed (by rw [ask_lifecycle, he]) fun _ _ => ⟨_, List.mem_cons_self, rfl⟩

/-! ## Runs obey the law -/

/-- A context that was fresh is disposed just when a disposal was carried out. -/
lemma after_disposed_iff (backend : Backend ω) (config : Config) (world : ω)
    (past : List Operation) :
    (after backend (fresh config world) past).lifecycle = .disposed ↔ .dispose ∈ past := by
  induction past with
  | nil => simp [after, fresh]
  | cons op past ih =>
    obtain ⟨calls, k⟩ := carryOut_course backend op (after backend (fresh config world) past)
    rw [after, k.lifecycleLaw.disposed, ih, List.mem_cons, or_comm, eq_comm]

/-- **The law of the lifecycle.** Whatever a backend answers, in every run every operation makes
some calls of the backend, obeys `LifecycleLaw`, and leaves the context disposed just when it or an
operation before it was a disposal. -/
theorem lifecycle_law (backend : Backend ω) (config : Config) (world : ω)
    (past : List Operation) (op : Operation) :
    let start := fresh config (Recorded.fresh world)
    let before := after backend.recorded start past
    let next := after backend.recorded start (op :: past)
    (∃ calls, next.world.events = before.world.events ++ calls ∧
        LifecycleLaw op (carryOut backend.recorded op before).1 calls before.lifecycle
          next.lifecycle) ∧
      (next.lifecycle = .disposed ↔ .dispose ∈ op :: past) := by
  intro start before next
  refine ⟨?_, after_disposed_iff _ _ _ _⟩
  obtain ⟨calls, k⟩ := carryOut_course backend.recorded op before
  exact ⟨calls, k.events, k.lifecycleLaw⟩

end ScriptHost.Context
