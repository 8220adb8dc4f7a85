import ScriptHost.Proofs.Backend.Adapter

/-!
# What one call of a backend does to its engine

Behind either adapter a call of a backend comes down to little. Where there is no engine a call of
the engine fails with a failure of the channel and nothing changes, and the same may happen to
values that a channel cannot carry. Otherwise the engine answers and stays, or it breaks down, and
then it is dropped and the call says that the channel is closed. The initialization builds an engine
only where there is none, and the release drops the one there is.

## Main definitions

* `ScriptHost.Adapter.Asked` — what comes of a call of the engine.
* `ScriptHost.Adapter.SetsUp` — what comes of the initialization.
* `ScriptHost.Adapter.Turn` — what comes of a call.

## Main results

* `ScriptHost.Worker.turn`, `ScriptHost.Backend.Linked.turn` — what comes of the calls of either
  backend.
* `ScriptHost.Adapter.turn` — what comes of a call behind every adapter.
* `ScriptHost.Adapter.offers_of_none` — without an engine nothing is offered.
-/

namespace ScriptHost

variable {ι ω α β : Type}

/-! ## Turns -/

namespace Adapter

/-- What comes of a call of the engine. -/
inductive Asked (factory : Engine.Factory ι ω) (c : Backend.Call) (before : Server ι ω) :
    Except Failure α → Server ι ω → Prop
  /-- The call is not passed on: there is no engine, or the values in the call are not read back. -/
  | unserved (hunserved : before.engine = none ∨ c.isLegible = false) (fault : ChannelFault) :
      Asked factory c before (.error (.channel fault)) before
  /-- The engine answers and stays. -/
  | answered {engine : ι} {asked : Engine.Call} {answer : asked.Answer} {world : ω}
      (hengine : before.engine = some engine) (hword : asked.word = c.word)
      (hcall : factory.call engine asked before.world = (.ok answer, world))
      (outcome : Except Failure α) : Asked factory c before outcome ⟨world, some engine⟩
  /-- The engine breaks down and is dropped. -/
  | panicked {engine : ι} {asked : Engine.Call} {panic : Engine.Panic} {world : ω}
      (hengine : before.engine = some engine) (hword : asked.word = c.word)
      (hcall : factory.call engine asked before.world = (.error panic, world)) (reason : String) :
      Asked factory c before (.error (.closed reason)) ⟨world, none⟩

/-- What comes of the initialization. -/
inductive SetsUp (factory : Engine.Factory ι ω) (before : Server ι ω) :
    Except Failure Bool → Server ι ω → Prop
  /-- There is an engine already. -/
  | present {engine : ι} (hengine : before.engine = some engine) :
      SetsUp factory before (.ok true) before
  /-- The initialization is not passed on. -/
  | unreached (hnone : before.engine = none) (fault : ChannelFault) :
      SetsUp factory before (.error (.channel fault)) before
  /-- An engine is set up. -/
  | built {engine : ι} {capabilities : Capabilities} {world : ω} (hnone : before.engine = none)
      (hsetUp : factory.setUp before.world = (.ok (engine, capabilities), world)) :
      SetsUp factory before (.ok true) ⟨world, some engine⟩
  /-- The factory refuses. -/
  | refused {reason : String} {world : ω} (hnone : before.engine = none)
      (hsetUp : factory.setUp before.world = (.error (.refused reason), world)) :
      SetsUp factory before (.ok false) ⟨world, none⟩
  /-- The factory breaks down, or the new engine does. -/
  | panicked {panic : Engine.Panic} {world : ω} (hnone : before.engine = none)
      (hsetUp : factory.setUp before.world = (.error (.panicked panic), world)) (reason : String) :
      SetsUp factory before (.error (.closed reason)) ⟨world, none⟩

/-- What comes of a call. -/
def Turn (factory : Engine.Factory ι ω) (c : Backend.Call) (before : Server ι ω)
    (outcome : Except Failure c.Answer) (after : Server ι ω) : Prop :=
  match c, outcome with
  | .init, outcome => SetsUp factory before outcome after
  | .dispose, _ => after = before.drop
  | c, outcome => Asked factory c before outcome after

variable {factory : Engine.Factory ι ω} {c : Backend.Call} {before after : Server ι ω}

/-- An outcome that fails where another does comes of the same call. -/
lemma Asked.transfer {outcome : Except Failure α} {other : Except Failure β}
    (h : Asked factory c before outcome after)
    (hother : ∀ failure, outcome = .error failure → other = .error failure) :
    Asked factory c before other after := by
  cases h with
  | unserved hunserved fault =>
    rw [hother _ rfl]
    exact .unserved hunserved fault
  | answered hengine hword hcall => exact .answered hengine hword hcall other
  | panicked hengine hword hcall reason =>
    rw [hother _ rfl]
    exact .panicked hengine hword hcall reason

/-- An outcome that fails fails when it is read as well. -/
lemma bind_error (f : α → Except Failure β) {outcome : Except Failure α} {failure : Failure}
    (h : outcome = .error failure) : outcome.bind f = .error failure := by
  rw [h]
  rfl

/-- An outcome that fails fails in another form as well. -/
lemma map_error (f : α → β) {outcome : Except Failure α} {failure : Failure}
    (h : outcome = .error failure) : outcome.map f = .error failure := by
  rw [h]
  rfl

/-- A call that neither sets an engine up nor releases it is a call of the engine. -/
lemma turn_iff_asked (hinit : c ≠ .init) (hdispose : c ≠ .dispose)
    {outcome : Except Failure c.Answer} :
    Turn factory c before outcome after ↔ Asked factory c before outcome after := by
  cases c with
  | init => exact absurd rfl hinit
  | dispose => exact absurd rfl hdispose
  | _ => exact Iff.rfl

/-- Without an engine no call of the engine is passed on. -/
lemma Asked.of_none {outcome : Except Failure α} (h : Asked factory c before outcome after)
    (hnone : before.engine = none) :
    (∃ fault, outcome = .error (.channel fault)) ∧ after = before := by
  cases h with
  | unserved _ fault => exact ⟨⟨fault, rfl⟩, rfl⟩
  | answered hengine => cases hnone.symm.trans hengine
  | panicked hengine => cases hnone.symm.trans hengine

/-- Without an engine an initialization that does not succeed sets none up. -/
lemma SetsUp.of_ne {outcome : Except Failure Bool} (h : SetsUp factory before outcome after)
    (hnone : before.engine = none) (hfailed : outcome ≠ .ok true) : after.engine = none := by
  cases h with
  | present => exact absurd rfl hfailed
  | unreached => exact hnone
  | built => exact absurd rfl hfailed
  | refused => rfl
  | panicked => rfl

/-- Without an engine an initialization that succeeds sets one up. -/
lemma SetsUp.of_ok (h : SetsUp factory before (.ok true) after) (hnone : before.engine = none) :
    ∃ engine capabilities, after.engine = some engine ∧
      factory.setUp before.world = (.ok (engine, capabilities), after.world) := by
  cases h with
  | present hengine => cases hnone.symm.trans hengine
  | built _ hsetUp => exact ⟨_, _, rfl, hsetUp⟩

end Adapter

open Adapter

/-- Giving a script another name leaves the word for a step alone. -/
lemma Step.word_rename {ν μ : Type} (f : ν → μ) (step : Step ν) :
    (step.rename f).word = step.word := by
  cases step <;> rfl

/-! ## Workers -/

namespace Worker

/-- What comes of asking a worker for a call. -/
lemma asked (factory : Engine.Factory ι ω) {c : Backend.Call} {asked : Engine.Call}
    (hword : asked.word = c.word) (worker : Worker ι ω) :
    Asked factory c worker.server (ask factory asked worker).1
      (ask factory asked worker).2.server := by
  rcases worker with ⟨world, _ | engine, capabilities⟩
  · exact .unserved (.inl rfl) _
  · rcases hcall : factory.call engine asked world with ⟨panic | answer, after⟩
    · simp only [ask, hcall]
      exact .panicked rfl hword hcall _
    · simp only [ask, hcall]
      exact .answered rfl hword hcall _

/-- What comes of starting a worker. -/
lemma setsUp (factory : Engine.Factory ι ω) (worker : Worker ι ω) :
    SetsUp factory worker.server (start factory worker).1 (start factory worker).2.server := by
  rcases worker with ⟨world, _ | engine, capabilities⟩
  · rcases hsetUp : factory.setUp world with ⟨(reason | panic) | ⟨engine, capabilities⟩, after⟩
    · simp only [start, hsetUp]
      exact .refused rfl hsetUp
    · simp only [start, hsetUp]
      exact .panicked rfl hsetUp _
    · simp only [start, hsetUp]
      exact .built rfl hsetUp
  · exact .present rfl

/-- Stopping a worker drops its engine. -/
lemma server_stop (worker : Worker ι ω) : worker.stop.server = worker.server.drop := by
  unfold stop
  split
  · rename_i hnone
    rw [Server.drop, server, hnone]
  · rfl

/-- What a worker did not answer the backend does not answer. -/
lemma lift_error {outcome : Except Failure (Except EngineFault α)} {failure : Failure}
    (h : outcome = .error failure) : lift outcome = .error failure := by
  rw [h]
  rfl

/-- **What comes of a call of a worker.** -/
theorem turn (factory : Engine.Factory ι ω) (worker : Worker ι ω) (c : Backend.Call) :
    Turn factory c worker.server ((backend factory).call c worker).1
      ((backend factory).call c worker).2.server := by
  cases c with
  | init => exact worker.setsUp factory
  | run script =>
    exact (asked factory (c := .run script) rfl worker).transfer fun _ => map_error _
  | drive step =>
    have hword : (Engine.Call.drive (step.rename nameOrEmpty)).word = step.word :=
      step.word_rename nameOrEmpty
    exact (asked factory (c := .drive step) hword worker).transfer fun _ h =>
      map_error _ (lift_error h)
  | snapshot =>
    exact (asked factory (c := .snapshot) rfl worker).transfer fun _ => lift_error
  | restore bytes =>
    exact (asked factory (c := .restore bytes) rfl worker).transfer fun _ => lift_error
  | globals =>
    exact (asked factory (c := .globals) rfl worker).transfer fun _ h => map_error _ (lift_error h)
  | dispose => exact worker.server_stop

end Worker

/-! ## Servers behind a channel -/

/-- Sending has the outcome of the channel, its faults as failures. -/
lemma Remote.send_fst {κ : Type} (channel : Channel κ) (c : Backend.Call) (remote : Remote κ) :
    (send channel c remote).1 =
      (channel.call c.word (params c) remote.channel).1.mapError (liftChannel c.word) := by
  unfold send
  rcases channel.call c.word (params c) remote.channel with ⟨fault | result, world⟩ <;> rfl

/-- Sending leaves the world of the channel behind as the channel does. -/
lemma Remote.send_channel {κ : Type} (channel : Channel κ) (c : Backend.Call) (remote : Remote κ) :
    (send channel c remote).2.channel = (channel.call c.word (params c) remote.channel).2 := by
  unfold send
  rcases channel.call c.word (params c) remote.channel with ⟨fault | result, world⟩
  · dsimp only
    split <;> rfl
  · rfl

/-- A call that neither sets an engine up nor releases it fails where sending it does. -/
lemma Remote.call_eq_error {κ : Type} (channel : Channel κ) {c : Backend.Call} (hinit : c ≠ .init)
    (hdispose : c ≠ .dispose) {remote : Remote κ} {failure : Failure}
    (h : (send channel c remote).1 = .error failure) :
    ((backend channel).call c remote).1 = .error failure := by
  cases c with
  | init => exact absurd rfl hinit
  | dispose => exact absurd rfl hdispose
  | snapshot => exact bind_error _ h
  | _ => exact map_error _ h

namespace Backend

open Mirrors (failureOf failureOf_of_saysNoEngine)

variable {remote : Remote (Ndjson (Connection ι ω))}

/-- What a request is refused for that stands in it is a failure of the channel. -/
lemma exists_fault_of_isOfRequest {refusal : Refusal} (h : refusal.isOfRequest = true)
    (word : String) : ∃ fault, failureOf word refusal = .channel fault := by
  cases refusal with
  | notInitialized => cases h
  | panicked panic => cases h
  | engine fault => cases h
  | _ => exact ⟨_, rfl⟩

/-- What comes of a request for a call of the engine, as the near end hears of it. -/
lemma asked_handle (factory : Engine.Factory ι ω) {c : Call} (hinit : c ≠ .init)
    (hdispose : c ≠ .dispose) (id : Json) {params : Json}
    (hread : ∀ refusal, Command.read c.word params = .error refusal → c.isLegible = false)
    (server : Server ι ω) :
    Asked factory c server
      ((Response.heard (Server.handle factory ⟨id, c.word, params⟩ server).1.outcome).mapError
        (Remote.liftChannel c.word))
      (Server.handle factory ⟨id, c.word, params⟩ server).2 := by
  unfold Server.handle
  rcases hcommand : Command.read c.word params with refusal | command
  · obtain ⟨fault, hfault⟩ := exists_fault_of_isOfRequest
      (Command.blames_read c.word params refusal hcommand) c.word
    show Asked factory c server (.error (failureOf c.word refusal)) server
    rw [hfault]
    exact .unserved (.inr (hread refusal hcommand)) fault
  · have hwords := Linked.word_ne hinit hdispose
    obtain ⟨asked, hword, rfl⟩ :=
      Command.readsCall_read hwords.1 hwords.2 params command hcommand
    dsimp only [Server.execute]
    unfold Server.ask
    rcases hengine : server.engine with _ | engine
    · show Asked factory c server (.error (failureOf c.word .notInitialized)) server
      rw [failureOf_of_saysNoEngine rfl]
      exact .unserved (.inl hengine) _
    · dsimp only
      rcases hcall : factory.call engine asked server.world with ⟨panic | answer, world⟩
      · show Asked factory c server (.error (failureOf c.word (.panicked panic))) _
        rw [failureOf_of_saysNoEngine rfl]
        exact .panicked hengine hword hcall _
      · exact .answered hengine hword hcall _

/-- Where the parameters of a call do not arrive as the same call, the values in it are not read
back. -/
lemma isLegible_eq_false {c : Call} (h : ∀ params, (Remote.params c).tree.read? Request.depth =
    some params → ∃ refusal, Command.read c.word params = .error refusal) :
    c.isLegible = false := by
  rw [← Bool.not_eq_true]
  intro hlegible
  obtain ⟨refusal, hrefused⟩ := h _ (Json.read?_tree _ (Remote.isLegible_params hlegible))
  cases hrefused.symm.trans (Command.read_params c)

/-- What comes of sending a call of the engine. -/
lemma Linked.asked (factory : Engine.Factory ι ω) (h : Linked remote) {c : Call}
    (hinit : c ≠ .init) (hdispose : c ≠ .dispose) :
    Asked factory c (farServer remote)
      (Remote.send (Ndjson.channel .compact (Connection.link .compact factory)) c remote).1
      (farServer (Remote.send (Ndjson.channel .compact (Connection.link .compact factory)) c
        remote).2) := by
  rcases h.settled with ⟨id, hchannel⟩ | ⟨hopen, hnone⟩
  · have hcall := Ndjson.call_eq factory c.word (Remote.params c) id (farServer remote)
    rw [← hchannel, ← Ndjson.channel_call] at hcall
    rw [farServer, farServer, Remote.send_fst, Remote.send_channel, hcall]
    cases hparams : (Remote.params c).tree.read? Request.depth with
    | none =>
      have hillegible : c.isLegible = false := isLegible_eq_false fun params hsome => by
        cases hparams.symm.trans hsome
      exact .unserved (.inr hillegible) _
    | some params =>
      refine asked_handle factory hinit hdispose (.ofUInt64 id) (fun refusal hrefused => ?_) _
      refine isLegible_eq_false fun other hother => ⟨refusal, ?_⟩
      cases hparams.symm.trans hother
      exact hrefused
  · obtain ⟨channel, hsend, hlink⟩ := Linked.send_of_hasEnded factory c hopen
    have hafter : farServer { remote with channel } = farServer remote :=
      congrArg Connection.server hlink
    rw [hsend, hafter]
    exact .unserved (.inl hnone) _

/-- What comes of the initialization over a channel. -/
lemma Linked.setsUp (factory : Engine.Factory ι ω) (h : Linked remote) :
    SetsUp factory (farServer remote)
      (Remote.connect (Ndjson.channel .compact (Connection.link .compact factory)) remote).1
      (farServer (Remote.connect (Ndjson.channel .compact (Connection.link .compact factory))
        remote).2) := by
  obtain ⟨outcome, after, hconnect, hconnects⟩ := h.connects factory
  rw [hconnect]
  cases hconnects with
  | present hconnected =>
    obtain ⟨engine, hengine⟩ := Option.isSome_iff_exists.mp (h.connected.symm.trans hconnected)
    exact .present hengine
  | @ended channel _ hnone hlink =>
    have hafter : farServer { remote with channel } = farServer remote :=
      congrArg Connection.server hlink
    rw [hafter]
    exact .unreached hnone _
  | built _ hnone hsetUp => exact .built hnone hsetUp
  | refused hnone hsetUp => exact .refused hnone hsetUp
  | panicked hnone hsetUp reason => exact .panicked hnone hsetUp reason

/-- Releasing over a channel drops the engine. -/
lemma Linked.farServer_release (factory : Engine.Factory ι ω) (h : Linked remote) :
    farServer (Remote.release (Ndjson.channel .compact (Connection.link .compact factory))
      remote).2 = (farServer remote).drop := by
  obtain ⟨channel, hrelease, -, hserver⟩ := h.released factory
  rw [hrelease]
  exact hserver

/-- **What comes of a call over a channel.** -/
theorem Linked.turn (factory : Engine.Factory ι ω) (h : Linked remote) (c : Call) :
    Turn factory c (farServer remote) ((overChannel factory).call c remote).1
      (farServer ((overChannel factory).call c remote).2) := by
  rcases c.init_or_dispose_or_ne with rfl | rfl | ⟨hinit, hdispose⟩
  · exact h.setsUp factory
  · exact h.farServer_release factory
  · have hafter := Remote.call_snd (Ndjson.channel .compact (Connection.link .compact factory))
      hinit hdispose remote
    rw [turn_iff_asked hinit hdispose, overChannel, hafter]
    exact (h.asked factory hinit hdispose).transfer fun _ =>
      Remote.call_eq_error _ hinit hdispose

end Backend

/-! ## Adapters -/

namespace Adapter

variable {a : Adapter} {s : a.World ι ω}

/-- **What comes of a call behind every adapter.** -/
theorem turn (factory : Engine.Factory ι ω) (h : a.IsSound s) (c : Backend.Call) :
    Turn factory c (a.server s) ((a.backend factory).call c s).1
      (a.server ((a.backend factory).call c s).2) := by
  cases a with
  | worker => exact Worker.turn factory s c
  | channel => exact Backend.Linked.turn factory h c

/-- Without an engine nothing is offered. -/
lemma offers_of_none (factory : Engine.Factory ι ω) (h : a.IsSound s)
    (hnone : (a.server s).engine = none) : (a.backend factory).offers s = .none := by
  cases a with
  | worker => exact h hnone
  | channel =>
    refine Backend.Linked.bare h (h.connected.trans ?_)
    rw [Server.isActive, show (Backend.farServer s).engine = none from hnone]
    rfl

end Adapter

end ScriptHost
