import ScriptHost.Proofs.Context.Lifecycle
import ScriptHost.Scripted.Backend

/-!
# Engines lost while an execution is suspended

A context notes that it has to initialize its backend again whenever the backend says that the far
end is gone. When that happens in a step, the execution is over. When it happens while the state of
the engine is captured, the context stays active: the suspended execution is lost with the engine,
and the next capture is one of a fresh engine.

This is the only way in which an active context comes to be without an engine, and so the only
reason for which an active context initializes its backend.

## Main definitions

* `ScriptHost.Context.Lost` — the latest loss among some calls was not made good.
* `ScriptHost.Context.Current` — what the calls of the present execution say about the engine.

## Main results

* `ScriptHost.Context.Course.inExecution` — every course keeps the calls of the present execution
  in line with whether the backend is initialized.
* `ScriptHost.Context.active_initialized_iff` — when an active context lacks its engine, and when it
  initializes its backend.
-/

namespace ScriptHost

/-! ## Calls that matter -/

namespace Backend.Exchange

/-- A call that begins an execution. -/
def begins : Exchange → Bool
  | ⟨.drive (.start ..), _⟩ => true
  | ⟨.restore _, _⟩ => true
  | _ => false

/-- A call that captures the state of the engine and finds the far end gone. -/
def loses : Exchange → Bool
  | ⟨.snapshot, .error failure⟩ => failure.isClosed
  | _ => false

/-- A call that sets an engine up. -/
def regains : Exchange → Bool
  | ⟨.init, .ok true⟩ => true
  | _ => false

end Backend.Exchange

namespace Context

variable {ω : Type}

open Backend (Exchange)

/-- Among some calls the far end was found gone, and no engine was set up since. -/
def Lost (calls : List Exchange) : Prop :=
  ∃ before x later, calls = before ++ x :: later ∧ x.loses = true ∧
    ∀ y ∈ later, y.regains = false

/-- Every initialization among some calls comes behind a call that found the far end gone. -/
def InitsBehindLoss (calls : List Exchange) : Prop :=
  ∀ before x later, calls = before ++ x :: later → x.call = .init → ∃ y ∈ before, y.loses = true

/-- An entry of a list with another entry behind it is the last one or stands before it. -/
lemma eq_last_or_before {α : Type} {xs before later : List α} {y x : α}
    (h : xs ++ [y] = before ++ x :: later) :
    (xs = before ∧ y = x ∧ later = []) ∨
      ∃ rest, xs = before ++ x :: rest ∧ later = rest ++ [y] := by
  rcases List.eq_nil_or_concat later with rfl | ⟨rest, z, rfl⟩
  · obtain ⟨rfl, hyx⟩ := List.append_inj' h rfl
    exact .inl ⟨rfl, by simpa using hyx, rfl⟩
  · rw [List.concat_eq_append, ← List.cons_append, ← List.append_assoc] at h
    obtain ⟨rfl, hyz⟩ := List.append_inj' h rfl
    obtain rfl : y = z := by simpa using hyz
    exact .inr ⟨rest, rfl, List.concat_eq_append⟩

/-- Behind the latest entry of one kind there is none of another kind, also with one more entry: it
is of the first kind, or it is not of the other one and so it was without it. -/
lemma exists_since_append_iff {α : Type} {p q : α → Bool} (xs : List α) (y : α) :
    (∃ before x later, xs ++ [y] = before ++ x :: later ∧ p x = true ∧ ∀ z ∈ later, q z = false) ↔
      p y = true ∨ (∃ before x later, xs = before ++ x :: later ∧ p x = true ∧
        ∀ z ∈ later, q z = false) ∧ q y = false := by
  constructor
  · rintro ⟨before, x, later, h, hx, hlater⟩
    rcases eq_last_or_before h with ⟨-, rfl, -⟩ | ⟨rest, rfl, rfl⟩
    · exact .inl hx
    · exact .inr ⟨⟨before, x, rest, rfl, hx, fun z hz => hlater z (List.mem_append_left _ hz)⟩,
        hlater y (List.mem_append_right _ List.mem_cons_self)⟩
  · rintro (hy | ⟨⟨before, x, later, rfl, hx, hlater⟩, hy⟩)
    · exact ⟨xs, y, [], rfl, hy, by simp⟩
    · refine ⟨before, x, later ++ [y], by simp, hx, fun z hz => ?_⟩
      rcases List.mem_append.mp hz with hz | hz
      · exact hlater z hz
      · rwa [List.mem_singleton.mp hz]

/-- One more call loses the engine, or leaves a loss as it is unless it sets an engine up. -/
lemma lost_append_iff (calls : List Exchange) (y : Exchange) :
    Lost (calls ++ [y]) ↔ y.loses = true ∨ Lost calls ∧ y.regains = false :=
  exists_since_append_iff calls y

/-- One more call comes behind a loss, or it is no initialization. -/
lemma InitsBehindLoss.append {calls : List Exchange} (h : InitsBehindLoss calls) {y : Exchange}
    (hy : y.call = .init → ∃ z ∈ calls, z.loses = true) : InitsBehindLoss (calls ++ [y]) := by
  intro before x later hsplit hx
  rcases eq_last_or_before hsplit with ⟨rfl, rfl, -⟩ | ⟨rest, hcalls, -⟩
  · exact hy hx
  · exact h before x rest hcalls hx

/-! ## The present execution -/

/-- What the calls since the present execution began say about the engine. -/
structure Current (c : Context ω) (calls : List Exchange) : Prop where
  /-- The backend is not initialized just when the engine was lost. -/
  lost_iff : c.initialized = false ↔ Lost calls
  /-- The backend was initialized behind a loss only. -/
  inits : InitsBehindLoss calls
  /-- No other execution began. -/
  going : ∀ x ∈ calls, x.begins = false

/-- An execution that has just begun has its engine. -/
lemma Current.of_begun {c : Context ω} (h : c.initialized = true) : Current c [] where
  lost_iff := by
    rw [h]
    refine ⟨nofun, ?_⟩
    rintro ⟨before, x, later, hnil, -⟩
    simp at hnil
  inits before x later hnil := by simp at hnil
  going := by simp

/-- One more call keeps the calls of the execution in line with the context. -/
lemma Current.append {c d : Context ω} {calls : List Exchange} (h : Current c calls) {y : Exchange}
    (hbegins : y.begins = false) (hinit : y.call = .init → c.initialized = false)
    (hd : d.initialized = false ↔ y.loses = true ∨ c.initialized = false ∧ y.regains = false) :
    Current d (calls ++ [y]) where
  lost_iff := by rw [hd, lost_append_iff, h.lost_iff]
  inits := by
    refine h.inits.append fun hy => ?_
    obtain ⟨before, x, later, rfl, hx, -⟩ := h.lost_iff.mp (hinit hy)
    exact ⟨x, by simp, hx⟩
  going x hx := by
    rcases List.mem_append.mp hx with hx | hx
    · exact h.going x hx
    · rwa [List.mem_singleton.mp hx]

/-- Getting the backend ready keeps the calls of the execution in line with the context. -/
lemma SetUp.current {backend : Backend ω} {c d : Context ω} {outcome : Except Failure Unit}
    {xs calls : List Exchange} (s : SetUp backend c outcome xs d) (h : Current c calls) :
    Current d (calls ++ xs) := by
  cases s with
  | present _ => rwa [List.append_nil]
  | built hi ha =>
    refine h.append rfl (fun _ => hi) ?_
    simp only [exchange, ha]
    simp [Exchange.loses, Exchange.regains]
  | declined hi ha =>
    refine h.append rfl (fun _ => hi) ?_
    simp only [exchange, ha]
    simp [Exchange.loses, Exchange.regains, ask_initialized, hi]
  | failed hi ha =>
    refine h.append rfl (fun _ => hi) ?_
    simp only [exchange, ha]
    simp [Exchange.loses, Exchange.regains, ask_initialized, hi]

/-- A step that leaves the execution suspended leaves the engine as it is. -/
lemma advance_initialized {backend : Backend ω} {step : Step (Option String)} {c : Context ω}
    (h : (advance backend step c).2.lifecycle = .active) :
    (advance backend step c).2.initialized = c.initialized := by
  rw [advance_apply] at h ⊢
  rw [settle_initialized, ask_initialized]
  rcases ha : (ask backend (.drive step) c).1 with failure | reply
  · rw [ha] at h
    cases h
  · simp [saysGone]

/-- A course from an active context to an active one keeps the calls of the execution in line with
the context.

**Proof sketch.** By cases on the course; scripts and sealed states need an idle context. A step
leaves the engine as it is when the execution goes on, and a capture loses it when the backend says
so. -/
lemma Course.current {backend : Backend ω} {c d : Context ω} {op : Operation}
    {outcome : Except Failure AnyAnswer} {xs calls : List Exchange}
    (k : Course backend c op outcome xs d) (hc : c.lifecycle = .active)
    (hd : d.lifecycle = .active) (h : Current c calls) : Current d (calls ++ xs) := by
  have busy (hidle : c.lifecycle = .idle) : False := by
    rw [hc] at hidle
    cases hidle
  cases k with
  | refused hop hactive => rwa [List.append_nil]
  | unready hop hactive s => exact s.current h
  | withheld hop s => exact s.current h
  | readied s => exact s.current h
  | answered s => exact s.current h
  | ran hidle s script => exact (busy hidle).elim
  | started hidle s script he => exact (busy hidle).elim
  | @drove op step hop hactive =>
    refine h.append ?_ nofun ?_
    · cases op <;> cases hop <;> rfl
    · rw [advance_initialized hd]
      simp [exchange, Exchange.loses, Exchange.regains]
  | @captured calls e s sealed =>
    rw [← List.append_assoc]
    refine (s.current h).append rfl nofun ?_
    rw [ask_initialized, s.initialized]
    rcases ha : (ask backend .snapshot e).1 with failure | payload <;>
      simp [exchange, saysGone, Exchange.loses, ha]
  | restored hidle s ha => exact (busy hidle).elim
  | notRestored hidle s ha => exact (busy hidle).elim
  | nothingToList hidle hi => exact (busy hidle).elim
  | listed hidle hi => exact (busy hidle).elim
  | disposedAgain hl => rwa [List.append_nil]
  | dropped hl hi => cases hd
  | released hl hi he => rw [ask_lifecycle, he] at hd; cases hd

/-- The record of a backend ends with the calls of an execution, which are in line with the
context. -/
def InExecution (c : Context (Recorded Exchange ω)) : Prop :=
  ∃ earlier first calls, c.world.events = earlier ++ first :: calls ∧ first.begins = true ∧
    Current c calls

/-- A course to an active context ends in an execution, when it begins in one or in a context that
is not active.

**Proof sketch.** From an active context, by `Course.current`. A context becomes active by a start
or by a sealed state, behind which the backend is initialized and no other calls stand. -/
theorem Course.inExecution {backend : Backend ω} {c d : Context (Recorded Exchange ω)}
    {op : Operation} {outcome : Except Failure AnyAnswer} {xs : List Exchange}
    (k : Course backend.recorded c op outcome xs d)
    (h : c.lifecycle = .active → InExecution c) (hd : d.lifecycle = .active) : InExecution d := by
  by_cases hc : c.lifecycle = .active
  · obtain ⟨earlier, first, calls, hevents, hfirst, hcalls⟩ := h hc
    refine ⟨earlier, first, calls ++ xs, ?_, hfirst, k.current hc hd hcalls⟩
    rw [k.events, hevents, List.append_assoc, List.cons_append]
  · have hchange : d.lifecycle ≠ c.lifecycle := fun he => hc (he ▸ hd)
    have begun {earlier : List Exchange} {first : Exchange}
        (hevents : d.world.events = c.world.events ++ (earlier ++ [first]))
        (hfirst : first.begins = true) (hi : d.initialized = true) : InExecution d :=
      ⟨c.world.events ++ earlier, first, [], by rw [hevents, List.append_assoc], hfirst,
        .of_begun hi⟩
    have hevents := k.events
    cases k with
    | started hidle s script he =>
      refine begun hevents rfl ?_
      rw [advance_initialized hd, he]
      exact s.initialized
    | restored hidle s ha =>
      refine begun hevents rfl ?_
      show (ask _ _ _).2.initialized = true
      rw [ask_initialized, s.initialized, ha]
      rfl
    | drove hop hactive => exact absurd hactive hc
    | refused hop hactive => exact absurd rfl hchange
    | unready hop hactive s => exact absurd s.kept.1 hchange
    | withheld hop s => exact absurd s.kept.1 hchange
    | readied s => exact absurd s.kept.1 hchange
    | answered s => exact absurd s.kept.1 hchange
    | ran hidle s script => exact absurd ((ask_lifecycle _ _ _).trans s.kept.1) hchange
    | captured s sealed => exact absurd ((ask_lifecycle _ _ _).trans s.kept.1) hchange
    | notRestored hidle s ha => exact absurd ((ask_lifecycle _ _ _).trans s.kept.1) hchange
    | nothingToList hidle hi => exact absurd rfl hchange
    | listed hidle hi => exact absurd (ask_lifecycle _ _ _) hchange
    | disposedAgain hl => exact absurd rfl hchange
    | dropped hl hi => cases hd
    | released hl hi he => rw [ask_lifecycle, he] at hd; cases hd

/-- An operation on an active context initializes the backend just when the engine was lost and the
operation needs one.

**Proof sketch.** By cases on the course. Initializing, capturing and asking for the support of
global names are not refused while an execution is suspended, and begin with getting the backend
ready. -/
lemma Course.init_mem_iff {backend : Backend ω} {c d : Context ω} {op : Operation}
    {outcome : Except Failure AnyAnswer} {xs : List Exchange}
    (k : Course backend c op outcome xs d) (hc : c.lifecycle = .active) :
    (∃ x ∈ xs, x.call = .init) ↔
      c.initialized = false ∧ op.setsUpActive = true := by
  have busy (hidle : c.lifecycle = .idle) : False := by
    rw [hc] at hidle
    cases hidle
  have setUp {o : Except Failure Unit} {ys : List Exchange} {e : Context ω}
      (s : SetUp backend c o ys e) (hop : op.setsUpActive = true) :
      (∃ x ∈ ys, x.call = .init) ↔ c.initialized = false ∧ op.setsUpActive = true := by
    rw [s.calls_eq, and_iff_left hop]
    cases c.initialized <;> simp [exchange]
  cases k with
  | refused hop hactive => simp [hactive hc]
  | unready hop hactive s => exact setUp s (hactive hc)
  | withheld hop s =>
    rcases hop with rfl | ⟨hidle, -⟩
    · exact setUp s rfl
    · exact (busy hidle).elim
  | readied s => exact setUp s rfl
  | answered s => exact setUp s rfl
  | ran hidle s script => exact (busy hidle).elim
  | started hidle s script he => exact (busy hidle).elim
  | @drove op step hop hactive =>
    cases op <;> cases hop <;> simp [exchange, Operation.setsUpActive]
  | captured s sealed =>
    rw [← setUp s rfl]
    simp [exchange]
  | restored hidle s ha => exact (busy hidle).elim
  | notRestored hidle s ha => exact (busy hidle).elim
  | nothingToList hidle hi => exact (busy hidle).elim
  | listed hidle hi => exact (busy hidle).elim
  | disposedAgain hl => simp [Operation.setsUpActive]
  | dropped hl hi => simp [Operation.setsUpActive]
  | released hl hi he => simp [exchange, Operation.setsUpActive]

/-! ## Runs -/

/-- A context that was fresh is in an execution whenever it is active. -/
lemma after_inExecution (backend : Backend ω) (config : Config) (world : ω)
    (past : List Operation)
    (h : (after backend.recorded (fresh config (Recorded.fresh world)) past).lifecycle = .active) :
    InExecution (after backend.recorded (fresh config (Recorded.fresh world)) past) := by
  induction past with
  | nil => cases h
  | cons op past ih =>
    obtain ⟨calls, k⟩ := carryOut_course backend.recorded op
      (after backend.recorded (fresh config (Recorded.fresh world)) past)
    exact k.inExecution ih h

/-- **When an active context lacks its engine.** Whatever a backend answers, in every run the calls
since the present execution began say whether an active context is initialized: it is not just when
the far end was found gone by a capture and no engine was set up since. Only behind such a capture
was an engine set up, and the next operation sets one up just when the context lacks its engine and
the operation gets the backend ready. -/
theorem active_initialized_iff (backend : Backend ω) (config : Config) (world : ω)
    (past : List Operation) (op : Operation)
    (h : (after backend.recorded (fresh config (Recorded.fresh world)) past).lifecycle = .active) :
    let start := fresh config (Recorded.fresh world)
    let before := after backend.recorded start past
    let next := after backend.recorded start (op :: past)
    (∃ earlier first calls, before.world.events = earlier ++ first :: calls ∧
        first.begins = true ∧ (∀ x ∈ calls, x.begins = false) ∧
        (before.initialized = false ↔ Lost calls) ∧ InitsBehindLoss calls) ∧
      ∃ calls, next.world.events = before.world.events ++ calls ∧
        ((∃ x ∈ calls, x.call = .init) ↔
          before.initialized = false ∧ op.setsUpActive = true) := by
  intro start before next
  obtain ⟨earlier, first, calls, hevents, hfirst, hcalls⟩ :=
    after_inExecution backend config world past h
  obtain ⟨xs, k⟩ := carryOut_course backend.recorded op before
  exact ⟨⟨earlier, first, calls, hevents, hfirst, hcalls.going, hcalls.lost_iff, hcalls.inits⟩,
    xs, k.events, k.init_mem_iff h⟩

/-! ## A lost execution -/

/-- A backend whose engine waits for a call and is gone when its state is to be captured. -/
def fleeting : Scripted.BackendScript where
  inits := []
  disposals := []
  replies := [.progress (.pending ⟨"fetch", [], none, 1, false⟩), .fault (.closed "gone")]

/-- The context of such a backend after some operations. -/
def fleetingAfter (past : List Operation) : Context (Recorded Exchange Scripted.BackendScript) :=
  after (Scripted.backend "scripted" ⟨true, false, false, false⟩).recorded
    (fresh .standard (Recorded.fresh fleeting)) past

/-- A script is started and then captured; the latest operation stands first. -/
def lostRun : List Operation :=
  [.snapshot, .start ⟨⟨"fetch()", none, none⟩, .empty⟩ ["fetch"]]

/-- The next capture sets an engine up. -/
theorem lostRun_regains :
    ∃ calls, (fleetingAfter (.snapshot :: lostRun)).world.events =
        (fleetingAfter lostRun).world.events ++ calls ∧ ∃ x ∈ calls, x.call = .init := by
  obtain ⟨-, calls, hevents, hinit⟩ := active_initialized_iff
    (Scripted.backend "scripted" ⟨true, false, false, false⟩) .standard fleeting lostRun .snapshot
    (by decide)
  exact ⟨calls, hevents, hinit.mpr ⟨by decide, rfl⟩⟩

/-- An execution may be suspended in an active context whose backend is not initialized, and the
next capture initializes the backend and captures what it set up. -/
theorem active_not_initialized :
    (fleetingAfter lostRun).lifecycle = .active ∧ (fleetingAfter lostRun).initialized = false ∧
      ((fleetingAfter (.snapshot :: lostRun)).world.events.map Exchange.call).drop
        (fleetingAfter lostRun).world.events.length = [.init, .snapshot] := by
  decide

end Context

end ScriptHost
