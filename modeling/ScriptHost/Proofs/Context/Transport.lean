import ScriptHost.Proofs.Backend.Adapter
import ScriptHost.Proofs.Context.Matching
import ScriptHost.Scripted.Engine

/-!
# The transport of captured states

A context whose backend can be made ready, and offers to capture engines, asks its engine for the
state and seals what the engine answers. A context of a backend of the same name that is handed the
sealed bytes asks its own engine to put exactly that state in place. Nothing is lost on the way: the
envelope is opened to what was sealed, and on a channel the bytes are read back from the messages on
both legs.

## Main definitions

* `ScriptHost.Context.OffersStates` — the backend can be made ready, and offers to capture engines.
* `ScriptHost.Context.IsCapturable` — a context whose engine may be captured.
* `ScriptHost.Context.AsksOnce` — one call of an engine, and nothing else but a construction.
* `ScriptHost.Context.Restores` — a context hands a payload over to its engine.

## Main results

* `ScriptHost.Context.snapshot_of_capturable`, `ScriptHost.Context.restore_of_offersStates` — what
  both operations make of the answer of the backend.
* `ScriptHost.Context.asksOnce_snapshot`, `ScriptHost.Context.restores_of_payload` — what they ask
  the engine.
* `ScriptHost.Context.snapshot_transported` — a captured state arrives at every other context.
-/

namespace ScriptHost.Context

open Backend Engine

variable {ι ω σ : Type}

/-! ## Contexts that keep states -/

/-- The backend of a context can be made ready, and offers then to capture its engine and to put
states in place. -/
structure OffersStates (backend : Backend σ) (c : Context σ) : Prop where
  /-- It can be made ready. -/
  ready : (init backend c).1 = .ok ()
  /-- It offers to capture its engine. -/
  offered : (backend.offers (init backend c).2.world).snapshot = true

/-- The engine of a context may be captured: an idle context is ready already, and its backend
captures idle engines. -/
structure IsCapturable (backend : Backend σ) (c : Context σ) : Prop extends
    OffersStates backend c where
  /-- What an idle context needs. -/
  idle : c.lifecycle = .idle →
    c.initialized = true ∧ (backend.offers c.world).idleSnapshot = true

section Operations

variable {backend : Backend σ} {c : Context σ}

/-- A backend that can be made ready is not that of a disposed context. -/
lemma OffersStates.not_disposed (h : OffersStates backend c) : c.lifecycle ≠ .disposed := by
  intro hdisposed
  have hready := h.ready
  rw [init_disposed backend hdisposed] at hready
  cases hready

lemma OffersStates.init_eq (h : OffersStates backend c) :
    init backend c = (.ok (), (init backend c).2) :=
  Prod.ext h.ready rfl

/-- Making the backend ready leaves the state alone, and asks it for an initialization at most. -/
lemma OffersStates.init_kept (h : OffersStates backend c) :
    (init backend c).2.lifecycle = c.lifecycle ∧
      ((init backend c).2.world = c.world ∨
        (init backend c).2.world = (backend.call .init c.world).2) := by
  obtain ⟨calls, s⟩ := init_setUp backend h.not_disposed
  rw [h.ready] at s
  refine ⟨s.kept.1, ?_⟩
  generalize (init backend c).2 = d at s
  cases s with
  | present _ => exact .inl rfl
  | built _ _ => exact .inr (ask_world backend .init c)

/-- A capture seals what the backend answers. -/
lemma snapshot_of_capturable (h : IsCapturable backend c) :
    snapshot backend c =
      ((ask backend .snapshot (init backend c).2).1.bind fun payload =>
        (Envelope.toBytes Blake3.digest ⟨backend.name, payload⟩).mapError fun fault =>
          .snapshot (.captureFailed fault),
        (ask backend .snapshot (init backend c).2).2) := by
  have hready : ¬ (c.lifecycle = .idle ∧ c.initialized = false) := by
    rintro ⟨hidle, hnot⟩
    rw [(h.idle hidle).1] at hnot
    cases hnot
  have hidle : ¬ (c.lifecycle = .idle ∧
      (backend.offers (init backend c).2.world).idleSnapshot = false) := by
    rintro ⟨hidle, hnot⟩
    obtain ⟨hi, hoffered⟩ := h.idle hidle
    rw [init_of_initialized h.not_disposed hi, hoffered] at hnot
    cases hnot
  rw [snapshot_apply backend h.not_disposed hready, bind_of_ok h.init_eq,
    bind_of_ok (demand_of_offered _ h.offered), bind_of_ok (get_apply _),
    bind_of_ok (by rw [requireUnlessIdle_apply, if_neg hidle]), bind_apply]
  rcases ask backend .snapshot (init backend c).2 with ⟨failure | payload, d⟩
  · rfl
  · exact ofExcept_apply _ d

/-- A state is put in place when the backend says so. -/
lemma restore_of_offersStates (h : OffersStates backend c) (hidle : c.lifecycle = .idle)
    {bytes payload : List UInt8} (hpayload : payloadOf backend.name bytes = .ok payload) :
    restore backend bytes c =
      match ask backend (.restore payload) (init backend c).2 with
      | (.ok (), d) =>
        (.ok (), { d with lifecycle := .active, seen := [], outstanding := none })
      | (.error failure, d) => (.error failure, d) := by
  rw [restore_apply backend hidle hpayload, bind_of_ok h.init_eq,
    bind_of_ok (demand_of_offered _ h.offered), bind_apply]
  rcases ask backend (.restore payload) (init backend c).2 with ⟨failure | ⟨⟩, d⟩ <;> rfl

/-- A capture leaves the state, and what is known of the execution, alone. -/
lemma Course.snapshot_kept {d : Context σ} {outcome : Except Failure AnyAnswer}
    {calls : List Backend.Exchange} (k : Course backend c .snapshot outcome calls d) :
    d.lifecycle = c.lifecycle ∧ d.seen = c.seen ∧ d.outstanding = c.outstanding := by
  cases k with
  | refused _ _ => exact ⟨rfl, rfl, rfl⟩
  | unready _ _ s => exact ⟨s.kept.1, s.kept.2.1, s.kept.2.2.1⟩
  | withheld _ s => exact ⟨s.kept.1, s.kept.2.1, s.kept.2.2.1⟩
  | drove hop _ => cases hop
  | captured s sealed =>
    rw [ask_lifecycle, ask_seen, ask_outstanding]
    exact ⟨s.kept.1, s.kept.2.1, s.kept.2.2.1⟩

end Operations

/-! ## What engines are asked -/

/-- Between two worlds of a factory an engine is asked one call, which has an answer. Before that an
engine may be built, and nothing else happens. -/
def AsksOnce (before next : Recorded Event ω) (call : Engine.Call)
    (answer : Except Panic call.Answer) : Prop :=
  ∃ builds number, next.events = before.events ++ builds ++ [.call number call answer] ∧
    ∀ event ∈ builds, ∃ outcome, event = .build outcome

section Reaches

variable {factory : Engine.Factory ι ω} {backend : Backend σ}
  {server : σ → Server (Instance ι) (Recorded Event ω)} {sound : σ → Prop} {c : Context σ}

/-- Making a backend ready that offers to capture its engine leads to that engine, and builds one at
most. -/
lemma exists_engine_of_offersStates (hreaches : backend.Reaches factory.recorded server sound)
    (hsound : sound c.world) (h : OffersStates backend c) :
    ∃ built builds, sound (init backend c).2.world ∧
      (server (init backend c).2.world).engine = some built ∧
      (server (init backend c).2.world).world.events = (server c.world).world.events ++ builds ∧
      ∀ event ∈ builds, ∃ outcome, event = .build outcome := by
  have hoffered := h.offered
  -- The offer is known behind the initialization only, so the engine is looked for there.
  rcases h.init_kept.2 with hworld | hworld
  · rw [hworld] at hoffered ⊢
    obtain ⟨built, hbuilt⟩ := hreaches.exists_engine _ hsound hoffered
    exact ⟨built, [], hsound, hbuilt, (List.append_nil _).symm, by simp⟩
  · rw [hworld] at hoffered ⊢
    have hsound' := hreaches.sound_call _ hsound .init
    obtain ⟨built, hbuilt⟩ := hreaches.exists_engine _ hsound' hoffered
    rcases hreaches.init _ hsound hoffered with hsame | hsetUp
    · exact ⟨built, [], hsound', hbuilt, by rw [hsame, List.append_nil], by simp⟩
    · obtain ⟨outcome, hevents⟩ := Factory.setUp_events factory (server c.world).world
      exact ⟨built, [.build outcome], hsound', hbuilt, by rw [hsetUp, hevents], by simp⟩

variable (factory) in
/-- What an engine is asked behind at most one construction is asked once. -/
lemma asksOnce_of_call {before ready : Recorded Event ω} {builds : List Event}
    (hevents : ready.events = before.events ++ builds)
    (hbuilds : ∀ event ∈ builds, ∃ outcome, event = .build outcome) (built : Instance ι)
    (call : Engine.Call) :
    AsksOnce before (factory.recorded.call built call ready).2 call
      (factory.recorded.call built call ready).1 :=
  ⟨builds, built.builtAt, by rw [← hevents]; rfl, hbuilds⟩

/-- **What a capture asks the engine.** It asks for the state once, and a state that the engine
answers with is sealed.

**Proof sketch.** Making the backend ready leads to an engine, which `Reaches.snapshot` asks. The
name of the backend is short, so the envelope can be sealed and is opened again. -/
theorem asksOnce_snapshot (hreaches : backend.Reaches factory.recorded server sound)
    (hsound : sound c.world) (hname : (Text.bytes backend.name).length < Envelope.nameBound)
    (h : IsCapturable backend c) :
    ∃ answer, AsksOnce (server c.world).world (server (snapshot backend c).2.world).world .snapshot
        answer ∧
      ∀ payload, answer = .ok (.ok payload) → ∃ bytes, (snapshot backend c).1 = .ok bytes ∧
        payloadOf backend.name bytes = .ok payload := by
  obtain ⟨built, builds, hready, hbuilt, hevents, hbuilds⟩ :=
    exists_engine_of_offersStates hreaches hsound h.toOffersStates
  obtain ⟨hworld, houtcome⟩ := hreaches.snapshot _ built hready hbuilt
  have hnext : (snapshot backend c).2.world =
      (backend.call .snapshot (init backend c).2.world).2 := by
    rw [snapshot_of_capturable h, ask_world]
  have honce := asksOnce_of_call factory hevents hbuilds built .snapshot
  rw [← hworld, ← hnext] at honce
  refine ⟨_, honce, fun payload hanswer => ?_⟩
  have hasked : (ask backend .snapshot (init backend c).2).1 = .ok payload :=
    (houtcome payload).mpr hanswer
  obtain ⟨bytes, hsealed, hopened⟩ := exists_sealed backend.name hname payload
  refine ⟨bytes, ?_, hopened⟩
  rw [snapshot_of_capturable h, hasked]
  show Except.mapError _ (Envelope.toBytes Blake3.digest ⟨backend.name, payload⟩) = _
  rw [hsealed]
  rfl

/-- A context that is handed some bytes asks its engine once to put a payload in place. It is active
then if the engine accepts the payload, and stays idle if it does not. -/
def Restores (backend : Backend σ) (server : σ → Server (Instance ι) (Recorded Event ω))
    (c : Context σ) (bytes payload : List UInt8) : Prop :=
  ∃ answer, AsksOnce (server c.world).world (server (restore backend bytes c).2.world).world
      (.restore payload) answer ∧
    (answer = .ok (.ok ()) → (restore backend bytes c).1 = .ok () ∧
      (restore backend bytes c).2.lifecycle = .active) ∧
    (answer ≠ .ok (.ok ()) → (∃ failure, (restore backend bytes c).1 = .error failure) ∧
      (restore backend bytes c).2.lifecycle = .idle)

/-- **What a restoration asks the engine.** Bytes that hold a state for the backend are handed over
as this state.

**Proof sketch.** Making the backend ready leads to an engine, which `Reaches.restore` asks; the
context follows its answer. -/
theorem restores_of_payload (hreaches : backend.Reaches factory.recorded server sound)
    (hsound : sound c.world) (h : OffersStates backend c) (hidle : c.lifecycle = .idle)
    {bytes payload : List UInt8} (hpayload : payloadOf backend.name bytes = .ok payload) :
    Restores backend server c bytes payload := by
  obtain ⟨built, builds, hready, hbuilt, hevents, hbuilds⟩ :=
    exists_engine_of_offersStates hreaches hsound h
  obtain ⟨hworld, houtcome⟩ := hreaches.restore _ built payload hready hbuilt
  have honce := asksOnce_of_call factory hevents hbuilds built (.restore payload)
  rw [← hworld, ← ask_world] at honce
  have hlifecycle : (ask backend (.restore payload) (init backend c).2).2.lifecycle = .idle := by
    rw [ask_lifecycle, h.init_kept.1, hidle]
  have hrestore := restore_of_offersStates h hidle hpayload
  rw [← ask_outcome] at houtcome
  -- From here on only the answer of the backend counts: it succeeds just when the engine accepts.
  generalize ask backend (.restore payload) (init backend c).2 = asked
    at honce hlifecycle hrestore houtcome
  rcases asked with ⟨failure | ⟨⟩, d⟩
  · rw [Restores, hrestore]
    refine ⟨_, honce, fun hanswer => ?_, fun _ => ⟨⟨failure, rfl⟩, hlifecycle⟩⟩
    cases houtcome.mpr hanswer
  · rw [Restores, hrestore]
    exact ⟨_, honce, fun _ => ⟨rfl, rfl⟩, fun hanswer => absurd (houtcome.mp rfl) hanswer⟩

end Reaches

/-! ## The two adapters -/

/-- A context over an adapter after some operations, the latest of which stands first. -/
def reached (a : Adapter) (factory : Engine.Factory ι ω) (config : Config) (world : ω)
    (past : List Operation) : Context (a.World (Instance ι) (Recorded Event ω)) :=
  after (a.backend factory.recorded) (fresh config (a.idle (Recorded.fresh world))) past

/-- The names of the backends fit into envelopes. -/
lemma length_name_lt (a : Adapter) (factory : Engine.Factory ι ω) :
    (Text.bytes (a.backend factory).name).length < Envelope.nameBound := by
  cases a with
  | worker =>
    show (Text.bytes Worker.backendName).length < _
    decide
  | channel =>
    show (Text.bytes Remote.backendName).length < _
    decide

/-- What a reached context knows of its engine is right. -/
lemma isSound_reached (a : Adapter) (factory : Engine.Factory ι ω) (config : Config) (world : ω)
    (past : List Operation) : a.IsSound (reached a factory config world past).world :=
  after_world (fun call s h => (a.reaches factory.recorded).sound_call s h call)
    (a.isSound_idle (Recorded.fresh world)) past

/-- **A captured state arrives.** Over either adapter, a context that may be captured asks its
engine for the state once. Whatever the engine answers with is sealed, and every idle context over
an adapter of the same name that can be made ready, and offers to put states in place then, hands
exactly that to its engine when it is given the sealed bytes: its engine is asked once, and the
context is active if the engine accepts the state and stays idle if it does not. Whatever comes of a
capture, the state of the captured context and what it knows of its execution stay.

**Proof sketch.** `asksOnce_snapshot` and `restores_of_payload`, as every adapter reaches its engine
and what a reached context knows of it is right. -/
theorem snapshot_transported (a : Adapter) (factory : Engine.Factory ι ω) (config : Config)
    (world : ω) (past : List Operation) :
    let backend := a.backend factory.recorded
    let c := reached a factory config world past
    let captured := snapshot backend c
    (IsCapturable backend c → ∃ answer,
      AsksOnce (a.server c.world).world (a.server captured.2.world).world .snapshot answer ∧
        ∀ payload, answer = .ok (.ok payload) → ∃ bytes, captured.1 = .ok bytes ∧
          ∀ (κ ψ : Type) (b : Adapter) (other : Engine.Factory κ ψ) (config' : Config)
            (world' : ψ) (past' : List Operation),
            let target := b.backend other.recorded
            let d := reached b other config' world' past'
            target.name = backend.name → d.lifecycle = .idle → OffersStates target d →
              Restores target b.server d bytes payload) ∧
      captured.2.lifecycle = c.lifecycle ∧ captured.2.seen = c.seen ∧
      captured.2.outstanding = c.outstanding := by
  intro backend c captured
  refine ⟨fun h => ?_, ?_⟩
  · obtain ⟨answer, honce, hsealed⟩ := asksOnce_snapshot (a.reaches factory.recorded)
      (isSound_reached a factory config world past) (length_name_lt a factory.recorded) h
    refine ⟨answer, honce, fun payload hanswer => ?_⟩
    obtain ⟨bytes, hbytes, hopened⟩ := hsealed payload hanswer
    refine ⟨bytes, hbytes, ?_⟩
    intro κ ψ b other config' world' past' target d hsame hidle hoffers
    exact restores_of_payload (b.reaches other.recorded)
      (isSound_reached b other config' world' past') hoffers hidle (hsame ▸ hopened)
  · obtain ⟨calls, k⟩ := carryOut_course backend .snapshot c
    have hcaptured : (carryOut backend .snapshot c).2 = captured.2 := by
      rw [carryOut, map_apply]
      rfl
    exact hcaptured ▸ k.snapshot_kept

/-- Scripted engines that can be captured. -/
def capturable : Engine.Factory Unit Scripted.EngineScript :=
  Scripted.factory { Capabilities.none with snapshot := true }

/-- A context over a worker whose engine waits for a call, and is captured next. -/
def suspended :
    Context (Adapter.worker.World (Instance Unit) (Recorded Event Scripted.EngineScript)) :=
  reached .worker capturable .standard
    ⟨[], [.progress (.pending ⟨"fetch", [], none, 1, false⟩), .bytes [1, 2, 3]]⟩
    [.start ⟨⟨"fetch()", none, none⟩, .empty⟩ ["fetch"]]

/-- The state of an engine that waits for a call is handed over to a fresh engine. -/
theorem snapshot_transported_suspended :
    let backend := Adapter.worker.backend capturable.recorded
    ∃ bytes, (snapshot backend suspended).1 = .ok bytes ∧
      Restores backend Adapter.worker.server
        (reached .worker capturable .standard ⟨[], [.done]⟩ []) bytes [1, 2, 3] := by
  intro backend
  have hcapturable : IsCapturable backend suspended :=
    ⟨⟨rfl, rfl⟩, nofun⟩
  obtain ⟨answer, ⟨builds, number, hevents, -⟩, htransported⟩ :=
    (snapshot_transported .worker capturable _ _ _).1 hcapturable
  have hanswer : answer = .ok (.ok [1, 2, 3]) := by
    have hlast : some (Event.call 0 .snapshot (.ok (.ok [1, 2, 3]))) =
        some (.call number .snapshot answer) :=
      (congrArg List.getLast? hevents).trans List.getLast?_concat
    cases hlast
    rfl
  obtain ⟨bytes, hbytes, hrestored⟩ := htransported _ hanswer
  exact ⟨bytes, hbytes, hrestored Unit _ .worker capturable _ _ _ rfl rfl ⟨rfl, rfl⟩⟩

end ScriptHost.Context
