import ScriptHost.Proofs.Backend.Liveness
import ScriptHost.Proofs.Engine.Record

/-!
# Engines behind either adapter

An adapter is a way to an engine: a worker in the same process, or a channel to a server. Behind
both stands the world of a factory, with an engine or without one. An engine is there whenever it
can be captured. Capturing it and putting a state in place are then calls of that engine whose
answers arrive as they are: on a channel the bytes are written as a list of integers, which is read
back.

## Main definitions

* `ScriptHost.Backend.Reaches` — a backend captures the engine that it reaches, and puts states in
  place in it.
* `ScriptHost.Adapter` — the ways to an engine, with `ScriptHost.Adapter.backend`,
  `ScriptHost.Adapter.idle`, `ScriptHost.Adapter.server` and `ScriptHost.Adapter.IsSound`.

## Main results

* `ScriptHost.Worker.Bare.call` — a worker without an engine offers nothing.
* `ScriptHost.Worker.reaches`, `ScriptHost.Backend.overChannel_reaches` — either backend reaches the
  engine that its calls are for.
* `ScriptHost.Adapter.reaches` — so does the backend of every adapter.
-/

namespace ScriptHost

variable {ι ω σ : Type} {factory : Engine.Factory ι ω}

/-! ## Reaching an engine -/

/-- A backend captures the engine that it reaches, and puts states in place in it. What is known in
its world is sound, and `server` shows the world of the factory and the engine behind it. -/
structure Backend.Reaches (factory : Engine.Factory ι ω) (backend : Backend σ)
    (server : σ → Server ι ω) (sound : σ → Prop) : Prop where
  /-- What is known stays sound. -/
  sound_call : ∀ s, sound s → ∀ c, sound (backend.call c s).2
  /-- An engine that can be captured is there. -/
  exists_engine : ∀ s, sound s → (backend.offers s).snapshot = true →
    ∃ engine, (server s).engine = some engine
  /-- An initialization behind which an engine can be captured leaves the world of the factory alone
  or sets one engine up. -/
  init : ∀ s, sound s → (backend.offers (backend.call .init s).2).snapshot = true →
    (server (backend.call .init s).2).world = (server s).world ∨
      (server (backend.call .init s).2).world = (factory.setUp (server s).world).2
  /-- A capture asks the engine, and has the bytes that the engine answers with. -/
  snapshot : ∀ s engine, sound s → (server s).engine = some engine →
    (server (backend.call .snapshot s).2).world =
        (factory.call engine .snapshot (server s).world).2 ∧
      ∀ bytes, (backend.call .snapshot s).1 = .ok bytes ↔
        (factory.call engine .snapshot (server s).world).1 = .ok (.ok bytes)
  /-- A state that is put in place reaches the engine as it is, and is accepted just when the engine
  accepts it. -/
  restore : ∀ s engine payload, sound s → (server s).engine = some engine →
    (server (backend.call (.restore payload) s).2).world =
        (factory.call engine (.restore payload) (server s).world).2 ∧
      ((backend.call (.restore payload) s).1 = .ok () ↔
        (factory.call engine (.restore payload) (server s).world).1 = .ok (.ok ()))

/-! ## Workers -/

namespace Worker

variable {worker : Worker ι ω}

/-- Without an engine nothing is offered. -/
def Bare (worker : Worker ι ω) : Prop :=
  worker.engine = none → worker.capabilities = .none

/-- A worker without an engine offers nothing behind a call of the engine. -/
lemma Bare.ask (h : worker.Bare) (c : Engine.Call) : (Worker.ask factory c worker).2.Bare := by
  unfold Worker.ask
  rcases worker.engine with _ | engine
  · exact h
  · dsimp only
    rcases factory.call engine c worker.world with ⟨panic | answer, world⟩
    · exact fun _ => rfl
    · exact nofun

/-- **A worker without an engine offers nothing.** -/
theorem Bare.call (h : worker.Bare) (c : Backend.Call) :
    ((backend factory).call c worker).2.Bare := by
  cases c with
  | init =>
    show (start factory worker).2.Bare
    unfold start
    rcases hengine : worker.engine with _ | engine
    · dsimp only
      rcases factory.setUp worker.world with ⟨(reason | panic) | ⟨engine, capabilities⟩, world⟩
      · exact fun _ => h hengine
      · exact fun _ => h hengine
      · exact nofun
    · exact h
  | dispose =>
    show worker.stop.Bare
    unfold stop
    split
    · exact h
    · exact fun _ => rfl
  | _ => exact h.ask _

variable (factory) in
/-- What comes of asking a worker is what comes of asking its engine. -/
lemma ask_of_engine {engine : ι} (h : worker.engine = some engine) (c : Engine.Call) :
    (ask factory c worker).2.world = (factory.call engine c worker.world).2 ∧
      ∀ answer, (ask factory c worker).1 = .ok answer ↔
        (factory.call engine c worker.world).1 = .ok answer := by
  rw [ask, h]
  dsimp only
  rcases factory.call engine c worker.world with ⟨panic | answer, world⟩ <;> simp [lose]

/-- The backend answers with a value just when the engine does. -/
lemma lift_eq_ok_iff {α : Type} (outcome : Except Failure (Except EngineFault α)) (value : α) :
    lift outcome = .ok value ↔ outcome = .ok (.ok value) := by
  rcases outcome with failure | fault | value' <;> simp [lift]

/-- A worker sets an engine up unless there is one. -/
lemma start_world (factory : Engine.Factory ι ω) (worker : Worker ι ω) :
    (start factory worker).2.world = worker.world ∨
      (start factory worker).2.world = (factory.setUp worker.world).2 := by
  unfold start
  rcases worker.engine with _ | engine
  · right
    dsimp only
    rcases factory.setUp worker.world with ⟨(reason | panic) | ⟨engine, capabilities⟩, world⟩ <;>
      rfl
  · exact .inl rfl

/-- The world of the factory and the engine of a worker. -/
def server (worker : Worker ι ω) : Server ι ω :=
  ⟨worker.world, worker.engine⟩

/-- **A worker reaches its engine.** -/
theorem reaches (factory : Engine.Factory ι ω) :
    (backend factory).Reaches factory server Bare where
  sound_call _ h c := h.call c
  exists_engine worker h hoffered := by
    rw [← Option.ne_none_iff_exists']
    intro hnone
    have hbare : (backend factory).offers worker = .none := h hnone
    rw [hbare] at hoffered
    cases hoffered
  init worker _ _ := start_world factory worker
  snapshot worker engine _ hengine := by
    obtain ⟨hworld, houtcome⟩ := ask_of_engine factory hengine .snapshot
    exact ⟨hworld, fun bytes => (lift_eq_ok_iff _ bytes).trans (houtcome _)⟩
  restore worker engine payload _ hengine := by
    obtain ⟨hworld, houtcome⟩ := ask_of_engine factory hengine (.restore payload)
    exact ⟨hworld, (lift_eq_ok_iff _ ()).trans (houtcome _)⟩

end Worker

/-! ## Servers behind a channel -/

variable (factory) in
/-- What comes of asking a server is what comes of asking its engine. -/
lemma Server.ask_of_engine {server : Server ι ω} {engine : ι} (h : server.engine = some engine)
    (c : Engine.Call) :
    (ask factory c server).2.world = (factory.call engine c server.world).2 ∧
      ∀ json, (ask factory c server).1 = .ok json ↔
        ∃ answer, (factory.call engine c server.world).1 = .ok answer ∧
          result c answer = .ok json := by
  rw [ask, h]
  dsimp only
  rcases factory.call engine c server.world with ⟨panic | answer, world⟩ <;> simp

namespace Backend

variable {remote : Remote (Ndjson (Connection ι ω))}

variable (factory) in
/-- A legible command over a channel at rest has its legible result, and its effect on the world of
the factory. -/
lemma send_atRest {id : UInt64} {server : Server ι ω}
    (hchannel : remote.channel = Ndjson.atRest id server) {c : Call} (hc : c.isLegible = true)
    (hjson : ∀ json, (Server.execute factory c.command server).1 = .ok json →
      json.isLegible Request.depth = true) :
    ∃ outcome after,
      Remote.send (Ndjson.channel .compact (Connection.link .compact factory)) c remote =
        (outcome, after) ∧
      (farServer after).world = (Server.execute factory c.command server).2.world ∧
      ∀ json, outcome = .ok json ↔ (Server.execute factory c.command server).1 = .ok json := by
  rcases hexecute : Server.execute factory c.command server with ⟨refusal | json, after⟩
  · refine ⟨_, _, send_eq_error hchannel hc hexecute, ?_, by simp⟩
    split <;> rfl
  · rw [hexecute] at hjson
    exact ⟨_, _, send_eq_ok hchannel hc hexecute (hjson json rfl), rfl, by simp⟩

/-- An engine whose near end is right about it is behind a channel at rest. -/
lemma Linked.atRest (h : Linked remote) {engine : ι}
    (hengine : (farServer remote).engine = some engine) :
    ∃ id, remote.channel = Ndjson.atRest id (farServer remote) := by
  refine h.settled.resolve_right ?_
  rintro ⟨_, hnone⟩
  rw [hengine] at hnone
  cases hnone

variable (factory) in
/-- What comes of asking over a channel is what comes of asking the engine, as long as its answers
are legible. -/
lemma Linked.send_of_engine (h : Linked remote) {engine : ι}
    (hengine : (farServer remote).engine = some engine) {c : Call} (hc : c.isLegible = true)
    {asked : Engine.Call} (hasked : c.command = .call asked)
    (hlegible : ∀ answer, asked.isLegible answer = true) :
    ∃ outcome after,
      Remote.send (Ndjson.channel .compact (Connection.link .compact factory)) c remote =
        (outcome, after) ∧
      (farServer after).world = (factory.call engine asked (farServer remote).world).2 ∧
      ∀ json, outcome = .ok json ↔
        ∃ answer, (factory.call engine asked (farServer remote).world).1 = .ok answer ∧
          Server.result asked answer = .ok json := by
  obtain ⟨id, hchannel⟩ := h.atRest hengine
  have hexecute : Server.execute factory c.command (farServer remote) =
      Server.ask factory asked (farServer remote) := by
    rw [hasked]
    rfl
  obtain ⟨hworld, hresult⟩ := Server.ask_of_engine factory hengine asked
  obtain ⟨outcome, after, hsend, hafter, houtcome⟩ :=
    send_atRest factory hchannel hc fun json hjson => by
      rw [hexecute, hresult] at hjson
      obtain ⟨answer, _, hanswer⟩ := hjson
      exact Server.isLegible_result (hlegible answer) hanswer
  rw [hexecute] at hafter houtcome
  exact ⟨outcome, after, hsend, hafter.trans hworld,
    fun json => (houtcome json).trans (hresult json)⟩

variable (factory) in
/-- A near end that offers to capture an engine is connected. -/
lemma Linked.connected_of_offered (h : Linked remote)
    (hoffered : ((overChannel factory).offers remote).snapshot = true) :
    remote.connected = true := by
  by_contra hnot
  have hbare : (overChannel factory).offers remote = .none := h.bare (Bool.not_eq_true _ ▸ hnot)
  rw [hbare] at hoffered
  cases hoffered

variable (factory) in
/-- An initialization behind which the near end is connected leaves the world of the factory alone
or sets an engine up. -/
lemma Linked.connect_world (h : Linked remote)
    (hafter : ((overChannel factory).call .init remote).2.connected = true) :
    (farServer ((overChannel factory).call .init remote).2).world = (farServer remote).world ∨
      (farServer ((overChannel factory).call .init remote).2).world =
        (factory.setUp (farServer remote).world).2 := by
  cases hbefore : remote.connected with
  | true =>
    left
    simp only [overChannel, Remote.backend, Remote.connect, hbefore, if_true]
  | false =>
    right
    -- The near end was not connected and is now, so the reply told of a new engine.
    obtain ⟨-, engine, -, hsetUp⟩ := (h.call factory .init).gained hbefore hafter
    rw [hsetUp]

variable (factory) in
/-- A capture over a channel has the bytes that the engine answers with. -/
lemma Linked.snapshot (h : Linked remote) {engine : ι}
    (hengine : (farServer remote).engine = some engine) :
    (farServer ((overChannel factory).call .snapshot remote).2).world =
        (factory.call engine .snapshot (farServer remote).world).2 ∧
      ∀ bytes, ((overChannel factory).call .snapshot remote).1 = .ok bytes ↔
        (factory.call engine .snapshot (farServer remote).world).1 = .ok (.ok bytes) := by
  obtain ⟨outcome, after, hsend, hworld, houtcome⟩ :=
    h.send_of_engine factory hengine (c := .snapshot) rfl rfl fun _ => rfl
  simp only [overChannel, Remote.backend, hsend]
  refine ⟨hworld, fun bytes => ⟨fun hread => ?_, fun hanswer => ?_⟩⟩
  · rcases outcome with failure | json
    · cases hread
    · obtain ⟨answer, hanswer, hresult⟩ := (houtcome json).mp rfl
      obtain ⟨state, rfl, rfl⟩ := Server.exists_of_lift_eq_ok hresult
      rw [hanswer, ← Except.ok.inj ((Mirrors.bytesOf_ofBytes state).symm.trans hread)]
  · rw [(houtcome _).mpr ⟨_, hanswer, rfl⟩]
    exact Mirrors.bytesOf_ofBytes bytes

variable (factory) in
/-- A state that is put in place over a channel reaches the engine as it is, and is accepted just
when the engine accepts it. -/
lemma Linked.restore (h : Linked remote) {engine : ι}
    (hengine : (farServer remote).engine = some engine) (payload : List UInt8) :
    (farServer ((overChannel factory).call (.restore payload) remote).2).world =
        (factory.call engine (.restore payload) (farServer remote).world).2 ∧
      (((overChannel factory).call (.restore payload) remote).1 = .ok () ↔
        (factory.call engine (.restore payload) (farServer remote).world).1 = .ok (.ok ())) := by
  obtain ⟨outcome, after, hsend, hworld, houtcome⟩ :=
    h.send_of_engine factory hengine (c := .restore payload) rfl rfl fun _ => rfl
  simp only [overChannel, Remote.backend, hsend]
  refine ⟨hworld, fun hread => ?_, fun hanswer => ?_⟩
  · rcases outcome with failure | json
    · cases hread
    · obtain ⟨answer, hanswer, hresult⟩ := (houtcome json).mp rfl
      obtain ⟨_, rfl, -⟩ := Server.exists_of_lift_eq_ok hresult
      exact hanswer
  · rw [(houtcome _).mpr ⟨_, hanswer, rfl⟩]
    rfl

/-- **A channel to a server reaches the engine of the server.** -/
theorem overChannel_reaches (factory : Engine.Factory ι ω) :
    (overChannel factory).Reaches factory farServer Linked where
  sound_call _ h c := (h.call factory c).linked
  exists_engine _ h hoffered := by
    rw [← Option.isSome_iff_exists]
    exact h.connected.symm.trans (h.connected_of_offered factory hoffered)
  init _ h hoffered :=
    h.connect_world factory ((h.call factory .init).linked.connected_of_offered factory hoffered)
  snapshot _ _ h hengine := h.snapshot factory hengine
  restore _ _ payload h hengine := h.restore factory hengine payload

end Backend

/-! ## Adapters -/

/-- The ways to an engine. -/
inductive Adapter where
  /-- A worker in the same process. -/
  | worker
  /-- A channel to a server. -/
  | channel
deriving DecidableEq

namespace Adapter

/-- The world of the backend of an adapter. -/
abbrev World (ι ω : Type) : Adapter → Type
  | worker => Worker ι ω
  | channel => Remote (Ndjson (Connection ι ω))

/-- The backend of an adapter over a factory. -/
def backend (factory : Engine.Factory ι ω) : (a : Adapter) → Backend (a.World ι ω)
  | worker => Worker.backend factory
  | channel => Backend.overChannel factory

/-- Nothing was asked for yet. -/
def idle (world : ω) : (a : Adapter) → a.World ι ω
  | worker => Worker.idle world
  | channel => Remote.idle (Ndjson.fresh (Connection.fresh (Server.idle world)) [])

/-- The world of the factory and the engine, wherever they are. -/
def server : (a : Adapter) → a.World ι ω → Server ι ω
  | worker => Worker.server
  | channel => Backend.farServer

/-- What is known of the engine is right. -/
def IsSound : (a : Adapter) → a.World ι ω → Prop
  | worker => Worker.Bare
  | channel => Backend.Linked

/-- What is known when nothing was asked for is right. -/
lemma isSound_idle (a : Adapter) (world : ω) : a.IsSound (a.idle world : a.World ι ω) := by
  cases a with
  | worker => exact fun _ => rfl
  | channel => exact ⟨.inl ⟨1, rfl⟩, rfl, fun _ => rfl⟩

/-- **The backend of every adapter reaches the engine that its calls are for.** -/
theorem reaches (a : Adapter) (factory : Engine.Factory ι ω) :
    (a.backend factory).Reaches factory a.server a.IsSound := by
  cases a with
  | worker => exact Worker.reaches factory
  | channel => exact Backend.overChannel_reaches factory

end Adapter

end ScriptHost
