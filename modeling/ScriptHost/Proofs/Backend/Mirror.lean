import ScriptHost.Backend.Worker
import ScriptHost.Proofs.Channel.Exchange
import ScriptHost.Proofs.Server.Answer
import ScriptHost.Proofs.Server.Command
import ScriptHost.Proofs.Server.Handling

/-!
# One engine behind two backends

A worker and a server at the far end of a channel that have the same engine in the same world answer
every call alike, as long as what they send is read back, and have the same engine in the same world
again. Alike means: the same values, records that hold these values in their normal form, and
failures of the same kind.

## Main definitions

* `ScriptHost.Failure.Alike` — failures of the same kind.
* `ScriptHost.Backend.Call.Alike` — answers of the two backends that say the same.
* `ScriptHost.Backend.Vouches` — a property of worlds that tells that the answers were legible.
* `ScriptHost.Backend.Mirrors` — the two backends have the same engine.

## Main results

* `ScriptHost.Backend.send_eq_ok`, `ScriptHost.Backend.send_eq_error` — a legible command is carried
  out over a channel at rest.
* `ScriptHost.Backend.Mirrors.init`, `ScriptHost.Backend.Mirrors.call` — both backends answer alike
  and have the same engine again.
* `ScriptHost.Backend.Mirrors.dispose` — both backends are released.
* `ScriptHost.Backend.Mirrors.send_unread` — what nests too deep is not sent to the engine.
-/

namespace ScriptHost

/-! ## Outcomes that are alike -/

/-- Failures of the same kind. What a script raised is the same up to the normal form of errors;
other failures may differ in their wording and in the names of backends and operations. -/
def Failure.Alike : Failure → Failure → Prop
  | sandbox e used, sandbox e' used' => e' = e.norm ∧ used' = used
  | unsupported .., unsupported .. => True
  | protocol (.rejected _), protocol (.rejected _) => True
  | channel (.closed _), channel (.closed _) => True
  | snapshot (.malformed _), snapshot (.malformed _) => True
  | snapshot (.backendMismatch ..), snapshot (.backendMismatch ..) => True
  | failure, failure' => failure' = failure

/-- Outcomes that are both failures of the same kind, or both values that are related. -/
def Alike {α β : Type} (values : α → β → Prop) : Except Failure α → Except Failure β → Prop
  | .ok a, .ok b => values a b
  | .error failure, .error failure' => failure.Alike failure'
  | _, _ => False

/-- Values that are read from outcomes that are alike. -/
lemma Alike.bind {α β γ δ : Type} {values : α → β → Prop} {results : γ → δ → Prop}
    {near : Except Failure α} {far : Except Failure β} (h : Alike values near far)
    {f : α → Except Failure γ} {g : β → Except Failure δ}
    (hread : ∀ a b, values a b → Alike results (f a) (g b)) :
    Alike results (near.bind f) (far.bind g) := by
  rcases near with failure | a <;> rcases far with failure' | b
  · exact h
  · exact h.elim
  · exact h.elim
  · exact hread a b h

/-- Functions of values of outcomes that are alike. -/
lemma Alike.map {α β γ δ : Type} {values : α → β → Prop} {results : γ → δ → Prop}
    {near : Except Failure α} {far : Except Failure β} (h : Alike values near far)
    {f : α → γ} {g : β → δ} (hmap : ∀ a b, values a b → results (f a) (g b)) :
    Alike results (near.map f) (far.map g) := by
  rcases near with failure | a <;> rcases far with failure' | b
  · exact h
  · exact h.elim
  · exact h.elim
  · exact hmap a b h

/-- Failures of the same kind say the same about the far end. -/
lemma Failure.Alike.isClosed_eq {failure failure' : Failure} (h : failure.Alike failure') :
    failure'.isClosed = failure.isClosed := by
  unfold Failure.Alike at h
  split at h
  · rfl
  · rfl
  · rfl
  · rfl
  · rfl
  · rfl
  · rw [h]

namespace Backend

/-- Answers of a worker and of the far end of a channel that say the same. -/
def Call.Alike : (c : Call) → c.Answer → c.Answer → Prop
  | .run _, a, b => ∃ result, a = .typed result ∧ b = .record result.toRecord
  | .drive _, a, b => ∃ progress, a = .typed progress ∧ b = .record progress.toRecord
  | .globals, a, b => ∃ names, a = .typed names ∧ b = .record names.toRecord
  | _, a, b => b = a

/-- Whether the script of a call, when it has one, has a name. -/
def Call.isNamed : Call → Bool
  | .run script => script.name.isSome
  | .drive (.start script _) => script.name.isSome
  | _ => true

variable {ι ω : Type} {factory : Engine.Factory ι ω}

/-- A property of worlds that holds only behind legible answers. -/
def Vouches (factory : Engine.Factory ι ω) (good : ω → Prop) : Prop :=
  ∀ engine c answer world world', factory.call engine c world = (.ok answer, world') → good world' →
    c.isLegible answer = true

/-- The backend over a channel to a server on which compact texts are sent. -/
def overChannel (factory : Engine.Factory ι ω) : Backend (Remote (Ndjson (Connection ι ω))) :=
  Remote.backend (Ndjson.channel .compact (Connection.link .compact factory))

/-! ## Sending -/

/-- The failure that the near end makes of a refusal. -/
def Mirrors.failureOf (word : String) (refusal : Refusal) : Failure :=
  Remote.lift word ⟨some refusal.code, refusal.message⟩

section AtRest

variable {remote : Remote (Ndjson (Connection ι ω))} {id : UInt64} {server after : Server ι ω}
  {c : Call}

/-- A legible command that succeeds has its legible result over a channel at rest. -/
lemma send_eq_ok (hchannel : remote.channel = Ndjson.atRest id server) (hc : c.isLegible = true)
    {json : Json} (h : Server.execute factory c.command server = (.ok json, after))
    (hjson : json.isLegible Request.depth = true) :
    Remote.send (Ndjson.channel .compact (Connection.link .compact factory)) c remote =
      (.ok json, { remote with channel := Ndjson.atRest (id + 1) after }) := by
  have hcall := Ndjson.call_atRest factory (Command.read_params c) (Remote.isLegible_params hc) id
    server fun result hresult => by
      rw [h] at hresult
      cases hresult
      exact hjson
  rw [h] at hcall
  rw [Remote.send, Ndjson.channel_call, hchannel, hcall]
  rfl

/-- A legible command that is refused fails over a channel at rest. -/
lemma send_eq_error (hchannel : remote.channel = Ndjson.atRest id server) (hc : c.isLegible = true)
    {refusal : Refusal} (h : Server.execute factory c.command server = (.error refusal, after)) :
    Remote.send (Ndjson.channel .compact (Connection.link .compact factory)) c remote =
      (.error (Mirrors.failureOf c.word refusal),
        if (Mirrors.failureOf c.word refusal).isClosed then
          ⟨Ndjson.atRest (id + 1) after, false, .none⟩
        else { remote with channel := Ndjson.atRest (id + 1) after }) := by
  have hcall := Ndjson.call_atRest factory (Command.read_params c) (Remote.isLegible_params hc) id
    server fun result hresult => by
      rw [h] at hresult
      cases hresult
  rw [h] at hcall
  rw [Remote.send, Ndjson.channel_call, hchannel, hcall]
  simp only [Response.learned, Except.mapError, Remote.liftChannel]
  rfl

end AtRest

/-! ## Backends with the same engine -/

/-- A worker and a server behind a channel have the same engine in the same world. The channel is at
rest and its near end knows what the engine offers. -/
structure Mirrors (worker : Worker ι ω) (remote : Remote (Ndjson (Connection ι ω))) : Prop where
  /-- The server has the engine of the worker. -/
  channel : ∃ id, remote.channel = Ndjson.atRest id ⟨worker.world, worker.engine⟩
  /-- The near end knows whether there is an engine. -/
  connected : remote.connected = worker.engine.isSome
  /-- The near end knows what the engine offers. -/
  capabilities : remote.capabilities = worker.capabilities
  /-- Without an engine nothing is offered. -/
  bare : worker.engine = none → worker.capabilities = .none

namespace Mirrors

variable {worker : Worker ι ω} {remote : Remote (Ndjson (Connection ι ω))}

/-- A command that succeeds has its result over the channel. -/
lemma send_of_ok (m : Mirrors worker remote) {c : Call} (hc : c.isLegible = true) {json : Json}
    {server : Server ι ω}
    (h : Server.execute factory c.command ⟨worker.world, worker.engine⟩ = (.ok json, server))
    (hjson : json.isLegible Request.depth = true) :
    ∃ id, Remote.send (Ndjson.channel .compact (Connection.link .compact factory)) c remote =
      (.ok json, { remote with channel := Ndjson.atRest id server }) := by
  obtain ⟨id, hchannel⟩ := m.channel
  exact ⟨id + 1, send_eq_ok hchannel hc h hjson⟩

/-- A command that is refused fails over the channel. -/
lemma send_of_error (m : Mirrors worker remote) {c : Call} (hc : c.isLegible = true)
    {refusal : Refusal} {server : Server ι ω}
    (h : Server.execute factory c.command ⟨worker.world, worker.engine⟩ =
      (.error refusal, server)) :
    ∃ id, Remote.send (Ndjson.channel .compact (Connection.link .compact factory)) c remote =
      (.error (failureOf c.word refusal),
        if (failureOf c.word refusal).isClosed then ⟨Ndjson.atRest id server, false, .none⟩
        else { remote with channel := Ndjson.atRest id server }) := by
  obtain ⟨id, hchannel⟩ := m.channel
  exact ⟨id + 1, send_eq_error hchannel hc h⟩

variable (factory) in
/-- A command whose parameters nest too deep fails over the channel, and both sides keep their
engine. -/
lemma send_unread (m : Mirrors worker remote) {c : Call} {deep : Nat}
    (hdeep : (Remote.params c).isLegible deep = true)
    (htooDeep : (Remote.params c).isLegible Request.depth = false) :
    ∃ after, Remote.send (Ndjson.channel .compact (Connection.link .compact factory)) c remote =
      (.error (.channel (.envelope .noId)), after) ∧ Mirrors worker after := by
  obtain ⟨id, hchannel⟩ := m.channel
  have hcall := Ndjson.call_unread factory c.word hdeep htooDeep id
    ⟨worker.world, worker.engine⟩
  refine ⟨{ remote with channel := Ndjson.atRest (id + 1) ⟨worker.world, worker.engine⟩ }, ?_,
    ⟨id + 1, rfl⟩, m.connected, m.capabilities, m.bare⟩
  rw [Remote.send, Ndjson.channel_call, hchannel, hcall]
  rfl

/-! ## Refusals -/

lemma failureOf_of_saysNoEngine {refusal : Refusal} (h : refusal.saysNoEngine = true)
    (word : String) : failureOf word refusal = .closed refusal.message := by
  cases refusal with
  | notInitialized => rfl
  | panicked panic => rfl
  | _ => cases h

/-- What an engine refuses is a failure of the same kind on both ways. -/
lemma alike_failureOf_engine (fault : EngineFault) (word : String) :
    (fault.lift Worker.backendName).Alike (failureOf word (.engine fault)) := by
  cases fault <;> trivial

lemma isClosed_failureOf_engine (fault : EngineFault) (word : String) :
    (failureOf word (.engine fault)).isClosed = false := by
  cases fault <;> rfl

/-! ## Mirrored outcomes -/

/-- When the server answers, both sides keep their engine. -/
lemma of_ok (m : Mirrors worker remote) {c : Call} (hc : c.isLegible = true) {json : Json}
    {world : ω}
    (h : Server.execute factory c.command ⟨worker.world, worker.engine⟩ =
      (.ok json, ⟨world, worker.engine⟩)) (hjson : json.isLegible Request.depth = true) :
    ∃ after, Remote.send (Ndjson.channel .compact (Connection.link .compact factory)) c remote =
      (.ok json, after) ∧ Mirrors { worker with world } after := by
  obtain ⟨id, hsend⟩ := m.send_of_ok hc h hjson
  exact ⟨_, hsend, ⟨id, rfl⟩, m.connected, m.capabilities, m.bare⟩

/-- When the engine refuses, both sides keep it. -/
lemma of_refused (m : Mirrors worker remote) {c : Call} (hc : c.isLegible = true)
    {fault : EngineFault} {world : ω}
    (h : Server.execute factory c.command ⟨worker.world, worker.engine⟩ =
      (.error (.engine fault), ⟨world, worker.engine⟩)) :
    ∃ after, Remote.send (Ndjson.channel .compact (Connection.link .compact factory)) c remote =
      (.error (failureOf c.word (.engine fault)), after) ∧ Mirrors { worker with world } after := by
  obtain ⟨id, hsend⟩ := m.send_of_error hc h
  rw [isClosed_failureOf_engine, if_neg Bool.false_ne_true] at hsend
  exact ⟨_, hsend, ⟨id, rfl⟩, m.connected, m.capabilities, m.bare⟩

/-- When the server has no engine any more, the near end learns it. -/
lemma of_gone (m : Mirrors worker remote) (lost : Worker ι ω) {c : Call} (hc : c.isLegible = true)
    {refusal : Refusal} (hrefusal : refusal.saysNoEngine = true) (hengine : lost.engine = none)
    (hbare : lost.capabilities = .none)
    (h : Server.execute factory c.command ⟨worker.world, worker.engine⟩ =
      (.error refusal, ⟨lost.world, none⟩)) :
    ∃ after, Remote.send (Ndjson.channel .compact (Connection.link .compact factory)) c remote =
      (.error (.closed refusal.message), after) ∧ Mirrors lost after := by
  obtain ⟨id, hsend⟩ := m.send_of_error hc h
  rw [failureOf_of_saysNoEngine hrefusal] at hsend
  exact ⟨_, hsend, ⟨id, by rw [hengine]; rfl⟩, by rw [hengine]; rfl, hbare.symm, fun _ => hbare⟩

/-! ## Asking -/

variable (factory) in
/-- What comes of asking the engine that both sides have: it is gone on both, or it answers both. -/
lemma ask_cases (m : Mirrors worker remote) (c : Engine.Call) :
    (∃ (reason : String) (refusal : Refusal) (lost : Worker ι ω),
      Worker.ask factory c worker = (.error (.closed reason), lost) ∧
        Server.ask factory c ⟨worker.world, worker.engine⟩ = (.error refusal, ⟨lost.world, none⟩) ∧
        refusal.saysNoEngine = true ∧ lost.engine = none ∧ lost.capabilities = .none) ∨
      ∃ (engine : ι) (answer : c.Answer) (world : ω),
        worker.engine = some engine ∧ factory.call engine c worker.world = (.ok answer, world) ∧
          Worker.ask factory c worker = (.ok answer, { worker with world }) ∧
          Server.ask factory c ⟨worker.world, worker.engine⟩ =
            (Server.result c answer, ⟨world, worker.engine⟩) := by
  rcases hengine : worker.engine with _ | engine
  · left
    refine ⟨"engine worker is not running", .notInitialized, worker, ?_, rfl, rfl, hengine,
      m.bare hengine⟩
    rw [Worker.ask, hengine]
  · rcases hcall : factory.call engine c worker.world with ⟨panic | answer, world⟩
    · left
      refine ⟨"engine worker stopped before answering", .panicked panic, worker.lose world, ?_, ?_,
        rfl, rfl, rfl⟩
      · rw [Worker.ask, hengine]
        simp only [hcall]
      · simp only [Server.ask, hcall]
        rfl
    · right
      refine ⟨engine, answer, world, rfl, hcall, ?_, ?_⟩
      · rw [Worker.ask, hengine]
        simp only [hcall]
      · simp only [Server.ask, hcall]

/-! ## Both backends -/

/-- A script with a name has the same name for both. -/
lemma rename_eq {script : Script (Option String)} (h : script.name.isSome = true) :
    script.rename Worker.nameOrEmpty = script.rename Call.sentName := by
  obtain ⟨name, hname⟩ := Option.isSome_iff_exists.mp h
  simp only [Script.rename, hname, Worker.nameOrEmpty, Call.sentName, Option.getD_some]

/-- A step with a named script is the same for both. -/
lemma renameStep_eq {step : Step (Option String)} (h : (Call.drive step).isNamed = true) :
    step.rename Worker.nameOrEmpty = step.rename Call.sentName := by
  cases step with
  | start script functions => exact congrArg (Step.start · functions) (rename_eq h)
  | _ => rfl

/-- The outcome of a call and the backends behind it. -/
def Matches (c : Call) (near : Except Failure c.Answer × Worker ι ω)
    (far : Except Failure c.Answer × Remote (Ndjson (Connection ι ω))) : Prop :=
  Alike c.Alike near.1 far.1 ∧ Mirrors near.2 far.2

/-- Both backends read what comes of asking the engine.

**Proof sketch.** Either the engine is gone on both sides, or its answer is carried over the
channel: a value as its record, a refusal by its code. -/
lemma of_asked (m : Mirrors worker remote) {c : Call} (hc : c.isLegible = true)
    {asked : Engine.Call} (hasked : c.command = .call asked)
    {good : ω → Prop} (hgood : Vouches factory good)
    (hworld : good (Worker.ask factory asked worker).2.world)
    (near : Except Failure asked.Answer → Except Failure c.Answer)
    (far : Except Failure Json → Except Failure c.Answer)
    (hnear : ∀ failure, near (.error failure) = .error failure)
    (hfar : ∀ failure, far (.error failure) = .error failure)
    (hread : ∀ answer, (∃ json, Server.result asked answer = .ok json ∧
        Alike c.Alike (near (.ok answer)) (far (.ok json))) ∨
      ∃ fault, Server.result asked answer = .error (.engine fault) ∧
        near (.ok answer) = .error (fault.lift Worker.backendName)) :
    Matches c (near (Worker.ask factory asked worker).1, (Worker.ask factory asked worker).2)
      (far (Remote.send (Ndjson.channel .compact (Connection.link .compact factory)) c remote).1,
        (Remote.send (Ndjson.channel .compact (Connection.link .compact factory)) c remote).2) := by
  have hexecute : Server.execute factory c.command ⟨worker.world, worker.engine⟩ =
      Server.ask factory asked ⟨worker.world, worker.engine⟩ := by
    rw [hasked]
    rfl
  obtain ⟨reason, refusal, lost, hask, hserver, hrefusal, hengine, hbare⟩ |
    ⟨engine, answer, world, hengine, hcall, hask, hserver⟩ := m.ask_cases factory asked
  · obtain ⟨after, hsend, hafter⟩ :=
      m.of_gone lost hc hrefusal hengine hbare (hexecute.trans hserver)
    rw [hask, hsend, Matches, hnear, hfar]
    exact ⟨trivial, hafter⟩
  · rw [hask] at hworld
    obtain ⟨json, hresult, halike⟩ | ⟨fault, hresult, hfault⟩ := hread answer
    · rw [hresult] at hserver
      obtain ⟨after, hsend, hafter⟩ := m.of_ok hc (hexecute.trans hserver)
        (Server.isLegible_result (hgood _ _ _ _ _ hcall hworld) hresult)
      rw [hask, hsend]
      exact ⟨halike, hafter⟩
    · rw [hresult] at hserver
      obtain ⟨after, hsend, hafter⟩ := m.of_refused hc (hexecute.trans hserver)
      rw [hask, hsend, Matches, hfault, hfar]
      exact ⟨alike_failureOf_engine fault _, hafter⟩

/-- The bytes of a captured state are read back. -/
lemma bytesOf_ofBytes (bytes : List UInt8) :
    Remote.bytesOf (.obj [("bytes", .ofBytes bytes)]) = .ok bytes := by
  have hget : (Json.obj [("bytes", .ofBytes bytes)]).getOrNull "bytes" = .ofBytes bytes := rfl
  rw [Remote.bytesOf, hget, Json.asBytes?_ofBytes]

/-- **One engine behind two backends.** A call of an engine with a legible answer is answered alike
by both backends, which have the same engine again. -/
theorem call (m : Mirrors worker remote) {c : Call} (hc : c.isLegible = true)
    (hnamed : c.isNamed = true) {asked : Engine.Call} (hasked : c.command = .call asked)
    {good : ω → Prop} (hgood : Vouches factory good)
    (hworld : good ((Worker.backend factory).call c worker).2.world) :
    Matches c ((Worker.backend factory).call c worker) ((overChannel factory).call c remote) := by
  cases c with
  | init => cases hasked
  | dispose => cases hasked
  | run script =>
    obtain rfl : Engine.Call.run (script.rename Worker.nameOrEmpty) = asked := by
      rw [rename_eq hnamed]
      exact Command.call.inj hasked
    simp only [Worker.backend, overChannel, Remote.backend] at hworld ⊢
    exact m.of_asked hc hasked hgood hworld (fun outcome => outcome.map .typed)
      (fun outcome => outcome.map .record) (fun _ => rfl) (fun _ => rfl) fun result =>
        .inl ⟨_, rfl, result, rfl, rfl⟩
  | drive step =>
    obtain rfl : Engine.Call.drive (step.rename Worker.nameOrEmpty) = asked := by
      rw [renameStep_eq hnamed]
      exact Command.call.inj hasked
    simp only [Worker.backend, overChannel, Remote.backend] at hworld ⊢
    refine m.of_asked hc hasked hgood hworld (fun outcome => (Worker.lift outcome).map .typed)
      (fun outcome => outcome.map .record) (fun _ => rfl) (fun _ => rfl) fun answer => ?_
    rcases answer with fault | progress
    · exact .inr ⟨fault, rfl, rfl⟩
    · exact .inl ⟨_, rfl, progress, rfl, rfl⟩
  | snapshot =>
    obtain rfl : Engine.Call.snapshot = asked := Command.call.inj hasked
    simp only [Worker.backend, overChannel, Remote.backend] at hworld ⊢
    refine m.of_asked hc hasked hgood hworld Worker.lift
      (fun outcome => outcome.bind Remote.bytesOf) (fun _ => rfl) (fun _ => rfl) fun answer => ?_
    rcases answer with fault | bytes
    · exact .inr ⟨fault, rfl, rfl⟩
    · refine .inl ⟨_, rfl, ?_⟩
      change Alike _ (.ok bytes) (Remote.bytesOf _)
      rw [bytesOf_ofBytes]
      rfl
  | restore bytes =>
    obtain rfl : Engine.Call.restore bytes = asked := Command.call.inj hasked
    simp only [Worker.backend, overChannel, Remote.backend] at hworld ⊢
    refine m.of_asked hc hasked hgood hworld Worker.lift
      (fun outcome => outcome.map fun _ => ()) (fun _ => rfl) (fun _ => rfl) fun answer => ?_
    rcases answer with fault | done
    · exact .inr ⟨fault, rfl, rfl⟩
    · exact .inl ⟨_, rfl, rfl⟩
  | globals =>
    obtain rfl : Engine.Call.globals = asked := Command.call.inj hasked
    simp only [Worker.backend, overChannel, Remote.backend] at hworld ⊢
    refine m.of_asked hc hasked hgood hworld (fun outcome => (Worker.lift outcome).map .typed)
      (fun outcome => outcome.map .record) (fun _ => rfl) (fun _ => rfl) fun answer => ?_
    rcases answer with fault | names
    · exact .inr ⟨fault, rfl, rfl⟩
    · exact .inl ⟨_, rfl, names, rfl, rfl⟩

/-! ## Initialization and release -/

/-- The reply for an engine that was set up says so, and what the engine offers. -/
lemma initResult_read (capabilities : Capabilities) :
    (Server.initResult capabilities).get? "ok" = some (.bool true) ∧
      Remote.capabilitiesOf (Server.initResult capabilities) = .ok capabilities := by
  have hnodup : ([("ok", Json.bool true), ("protocol_version", .str protocolVersion),
      ("capabilities", .ofFields capabilities.fields)].map Prod.fst).Nodup := by
    simp
  have hget := Json.get?_ofFields hnodup
  have hcapabilities : (Server.initResult capabilities).get? "capabilities" =
      some (.ofFields capabilities.fields) := hget _
  refine ⟨hget _, ?_⟩
  rw [Remote.capabilitiesOf, hcapabilities]
  simp only [Capabilities.ofJson?_ofFields]

/-- The reply when no engine was set up does not say that one was. -/
lemma initRefused_read (reason : String) :
    (Server.initRefused reason).get? "ok" = some (.bool false) := by
  have hnodup : ([("ok", Json.bool false), ("error", .str reason)].map Prod.fst).Nodup := by
    simp
  exact Json.get?_ofFields hnodup _

/-- **One engine set up behind two backends.** Both backends are initialized alike.

**Proof sketch.** With an engine neither does anything. Without one the factory is asked once, on
the worker or by the server, and the reply of the server tells what came of it. -/
theorem init (m : Mirrors worker remote) :
    Matches .init ((Worker.backend factory).call .init worker)
      ((overChannel factory).call .init remote) := by
  simp only [Worker.backend, overChannel, Remote.backend]
  rcases hengine : worker.engine with _ | engine
  · have hconnected : remote.connected = false := by
      rw [m.connected, hengine]
      rfl
    have hexecute : Server.execute factory (Call.command .init) ⟨worker.world, worker.engine⟩ =
        Server.init factory ⟨worker.world, none⟩ := by
      rw [hengine]
      rfl
    rw [Worker.start, hengine, Remote.connect, hconnected, if_neg Bool.false_ne_true]
    simp only
    rcases hbuild : factory.setUp worker.world with
      ⟨(reason | panic) | ⟨engine, capabilities⟩, world⟩
    · have hserver : Server.execute factory (Call.command .init) ⟨worker.world, worker.engine⟩ =
          (.ok (Server.initRefused reason), ⟨world, worker.engine⟩) := by
        rw [hexecute, hengine]
        simp only [Server.init, hbuild]
      obtain ⟨after, hsend, hafter⟩ := m.of_ok rfl hserver (Server.isLegible_initRefused reason)
      have hnot : ¬ (some (Json.bool false) = some (Json.bool true)) := by
        simp
      rw [hengine] at hafter
      rw [hsend]
      simp only [initRefused_read, if_neg hnot]
      exact ⟨rfl, hafter⟩
    · have hserver : Server.execute factory (Call.command .init) ⟨worker.world, worker.engine⟩ =
          (.error (.panicked panic), ⟨world, none⟩) := by
        rw [hexecute]
        simp only [Server.init, hbuild]
      obtain ⟨after, hsend, hafter⟩ := m.of_gone { worker with world } rfl rfl hengine
        (m.bare hengine) hserver
      rw [hengine] at hafter
      rw [hsend]
      exact ⟨trivial, hafter⟩
    · have hserver : Server.execute factory (Call.command .init) ⟨worker.world, worker.engine⟩ =
          (.ok (Server.initResult capabilities), ⟨world, some engine⟩) := by
        rw [hexecute]
        simp only [Server.init, hbuild]
      obtain ⟨id, hsend⟩ := m.send_of_ok rfl hserver (Server.isLegible_initResult _)
      obtain ⟨hok, hcapabilities⟩ := initResult_read capabilities
      rw [hsend]
      simp only [hok, hcapabilities, if_true]
      exact ⟨rfl, ⟨id, rfl⟩, rfl, rfl, fun hnone => by cases hnone⟩
  · have hconnected : remote.connected = true := by
      rw [m.connected, hengine]
      rfl
    rw [Worker.start, hengine, Remote.connect, hconnected, if_pos rfl]
    exact ⟨rfl, m⟩

/-- Both backends are released, and the world of the factory is one and the same. -/
def Released (world : ω) (near : Except Failure Unit × Worker ι ω)
    (far : Except Failure Unit × Remote (Ndjson (Connection ι ω))) : Prop :=
  Alike (fun _ _ => True) near.1 far.1 ∧ near.2.world = world ∧
    far.2.channel.link.server.world = world

/-- Both backends are released, and the world of the factory stays. -/
theorem dispose (m : Mirrors worker remote) :
    Released worker.world ((Worker.backend factory).call .dispose worker)
      ((overChannel factory).call .dispose remote) := by
  have hserver : Server.execute factory (Call.command .dispose) ⟨worker.world, worker.engine⟩ =
      (.ok (.ofFields [("ok", .bool true), ("disposed", .bool worker.engine.isSome)]),
        ⟨worker.world, none⟩) := rfl
  obtain ⟨id, hsend⟩ := m.send_of_ok rfl hserver (Json.isLegible_ofFields
    (Request.depth - 1) (by simp))
  simp only [Worker.backend, overChannel, Remote.backend, Remote.release, Ndjson.channel_close,
    hsend, Ndjson.close_atRest]
  refine ⟨trivial, ?_, rfl⟩
  rw [Worker.stop]
  split <;> rfl

end Mirrors

end Backend

end ScriptHost
