import ScriptHost.Proofs.Backend.Mirror

/-!
# Both ends agree on whether there is an engine

The near end of a channel keeps a flag that says whether the far end has an engine, and what that
engine offers. The two ends learn of each other only by replies and by the codes of refusals. Still
the flag is right behind every call, whatever engines and factories do and whatever values are sent:
a reply that cannot be read changes neither side, a refusal that says that there is no engine is
read as such, and the reply to an initialization says what the new engine offers. When the near end
is released, the server ends, and from then on the stream refuses everything.

## Main definitions

* `ScriptHost.Backend.Linked` — the near end is right about the far end.
* `ScriptHost.Backend.Follows` — what a call does to ends that agree.
* `ScriptHost.Backend.Linked.Connects` — what comes of the initialization.
* `ScriptHost.Backend.ends` — both ends behind some calls.
* `ScriptHost.Backend.ConnectedSince` — the initialization that set the engine up.

## Main results

* `ScriptHost.Remote.Bare.call` — a near end without an engine offers nothing.
* `ScriptHost.Backend.Linked.call` — every call keeps the near end right.
* `ScriptHost.Backend.exists_connectedSince` — the near end is connected by an initialization.
* `ScriptHost.Backend.liveness_agreed` — both ends agree behind every run of calls.
-/

namespace ScriptHost

variable {ι ω κ : Type}

/-- A call sets the engine up, or it releases the engine, or it is passed on to the engine. -/
lemma Backend.Call.init_or_dispose_or_ne (c : Backend.Call) :
    c = .init ∨ c = .dispose ∨ c ≠ .init ∧ c ≠ .dispose := by
  cases c <;> simp

/-! ## Sending over any channel -/

namespace Remote

variable {channel : Channel κ} {remote : Remote κ}

/-- Without an engine nothing is offered. -/
def Bare (remote : Remote κ) : Prop :=
  remote.connected = false → remote.capabilities = .none

lemma send_of_ok {c : Backend.Call} {result : Json} {world : κ}
    (h : channel.call c.word (params c) remote.channel = (.ok result, world)) :
    send channel c remote = (.ok result, { remote with channel := world }) := by
  rw [send, h]

lemma send_of_error {c : Backend.Call} {fault : ChannelFault} {world : κ}
    (h : channel.call c.word (params c) remote.channel = (.error fault, world)) :
    send channel c remote = (.error (liftChannel c.word fault),
      if (liftChannel c.word fault).isClosed then ⟨world, false, .none⟩
      else { remote with channel := world }) := by
  rw [send, h]
  rfl

/-- Sending leaves what is known of the far end alone unless the outcome says that it is gone. -/
lemma send_snd_of_open {c : Backend.Call} {outcome : Except ChannelFault Json} {world : κ}
    (h : channel.call c.word (params c) remote.channel = (outcome, world))
    (hopen : ∀ fault, outcome = .error fault → (liftChannel c.word fault).isClosed = false) :
    (send channel c remote).2 = { remote with channel := world } := by
  rcases outcome with fault | result
  · rw [send_of_error h, hopen fault rfl, if_neg Bool.false_ne_true]
  · rw [send_of_ok h]

/-- Sending leaves what is known of the far end alone, or the far end has no engine. -/
lemma send_cases (channel : Channel κ) (c : Backend.Call) (remote : Remote κ) :
    ∃ outcome world, send channel c remote = (outcome, { remote with channel := world }) ∨
      send channel c remote = (outcome, ⟨world, false, .none⟩) := by
  rcases h : channel.call c.word (params c) remote.channel with ⟨fault | result, world⟩
  · rw [send_of_error h]
    by_cases hclosed : (liftChannel c.word fault).isClosed = true
    · exact ⟨_, world, .inr (by rw [if_pos hclosed])⟩
    · exact ⟨_, world, .inl (by rw [if_neg hclosed])⟩
  · exact ⟨_, world, .inl (send_of_ok h)⟩

/-- A call that neither sets an engine up nor releases it leaves behind what sending it does. -/
lemma call_snd (channel : Channel κ) {c : Backend.Call} (hinit : c ≠ .init)
    (hdispose : c ≠ .dispose) (remote : Remote κ) :
    ((backend channel).call c remote).2 = (send channel c remote).2 := by
  cases c with
  | init => exact absurd rfl hinit
  | dispose => exact absurd rfl hdispose
  | _ => rfl

/-- Releasing sends the command for it and closes the channel. -/
lemma release_snd (channel : Channel κ) (remote : Remote κ) :
    (release channel remote).2 =
      ⟨(channel.close (send channel .dispose remote).2.channel).2, false, .none⟩ :=
  rfl

/-- Sending offers nothing without an engine. -/
lemma Bare.send (h : remote.Bare) (c : Backend.Call) : (Remote.send channel c remote).2.Bare := by
  obtain ⟨outcome, world, hsend | hsend⟩ := send_cases channel c remote
  · rw [hsend]
    exact h
  · rw [hsend]
    exact fun _ => rfl

/-- **A near end without an engine offers nothing**, whatever is at the far end. -/
theorem Bare.call (h : remote.Bare) (c : Backend.Call) :
    ((backend channel).call c remote).2.Bare := by
  rcases c.init_or_dispose_or_ne with rfl | rfl | ⟨hinit, hdispose⟩
  · show (connect channel remote).2.Bare
    unfold connect
    split
    · exact h
    · have hsent : (Remote.send channel .init remote).2.Bare := h.send .init
      rcases hsend : Remote.send channel .init remote with ⟨failure | reply, sent⟩
      · rw [hsend] at hsent
        exact hsent
      · rw [hsend] at hsent
        dsimp only
        split
        · split
          · exact nofun
          · exact hsent
        · exact hsent
  · exact fun _ => rfl
  · rw [call_snd channel hinit hdispose]
    exact h.send c

end Remote

/-! ## Both ends -/

namespace Backend

open Mirrors (failureOf)

variable {factory : Engine.Factory ι ω} {remote : Remote (Ndjson (Connection ι ω))}

/-- The server at the far end. -/
def farServer (remote : Remote (Ndjson (Connection ι ω))) : Server ι ω :=
  remote.channel.link.server

/-- The channel is at rest, or its stream and the server behind it have ended. -/
def IsSettled (remote : Remote (Ndjson (Connection ι ω))) : Prop :=
  (∃ id, remote.channel = Ndjson.atRest id (farServer remote)) ∨
    remote.channel.link.isOpen = false ∧ (farServer remote).engine = none

/-- The near end is right about the far end: it is connected just when the server has an engine, and
offers nothing otherwise. -/
structure Linked (remote : Remote (Ndjson (Connection ι ω))) : Prop where
  /-- Nothing is on its way, or the stream has ended. -/
  settled : IsSettled remote
  /-- The near end knows whether there is an engine. -/
  connected : remote.connected = (farServer remote).isActive
  /-- Without an engine nothing is offered. -/
  bare : remote.Bare

/-- What a call does to ends that agree: they agree again, an engine that stays is the same and is
known to offer the same, and only the initialization sets one up, whose reply says what the engine
offers. -/
structure Follows (factory : Engine.Factory ι ω) (c : Call)
    (before after : Remote (Ndjson (Connection ι ω))) : Prop where
  /-- The ends agree again. -/
  linked : Linked after
  /-- An engine that stays is the same. -/
  stays : before.connected = true → after.connected = true →
    (farServer after).engine = (farServer before).engine ∧
      after.capabilities = before.capabilities
  /-- An engine is set up by the initialization. -/
  gained : before.connected = false → after.connected = true →
    c = .init ∧ ∃ engine, (farServer after).engine = some engine ∧
      factory.setUp (farServer before).world =
        (.ok (engine, after.capabilities), (farServer after).world)

namespace Linked

/-- The failure that the near end makes of a refusal says whether there is an engine. -/
lemma isClosed_failureOf (word : String) (refusal : Refusal) :
    (failureOf word refusal).isClosed = refusal.saysNoEngine := by
  cases refusal with
  | engine fault => exact Mirrors.isClosed_failureOf_engine fault word
  | _ => rfl

/-- What is known of an engine stays when neither side changes. -/
lemma follows_of_same (h : Linked remote) {c : Call} {channel : Ndjson (Connection ι ω)}
    (hsettled : IsSettled { remote with channel }) (hengine : channel.link.server.engine =
      (farServer remote).engine) : Follows factory c remote { remote with channel } where
  linked := by
    refine ⟨hsettled, ?_, h.bare⟩
    show remote.connected = channel.link.server.engine.isSome
    rw [hengine]
    exact h.connected
  stays _ _ := ⟨hengine, rfl⟩
  gained hbefore hafter := by
    rw [show remote.connected = true from hafter] at hbefore
    cases hbefore

/-- The ends agree when neither has an engine. -/
lemma follows_of_none {c : Call} {channel : Ndjson (Connection ι ω)}
    (hsettled : IsSettled ⟨channel, false, .none⟩) (hengine : channel.link.server.engine = none) :
    Follows factory c remote ⟨channel, false, .none⟩ where
  linked := by
    refine ⟨hsettled, ?_, fun _ => rfl⟩
    show false = channel.link.server.engine.isSome
    rw [hengine]
    rfl
  stays _ hafter := by cases hafter
  gained _ hafter := by cases hafter

/-- The near end of an ended stream has no engine and stays so. -/
lemma follows_of_hasEnded (h : Linked remote) (hopen : remote.channel.link.isOpen = false)
    (hengine : (farServer remote).engine = none) {c : Call} {channel : Ndjson (Connection ι ω)}
    (hlink : channel.link = remote.channel.link) :
    Follows factory c remote { remote with channel } := by
  have hsame : channel.link.server.engine = (farServer remote).engine := by
    rw [hlink]
    rfl
  refine h.follows_of_same (.inr ⟨?_, ?_⟩) hsame
  · show channel.link.isOpen = false
    rw [hlink, hopen]
  · exact hsame.trans hengine

variable (factory) in
/-- Sending over a stream that has ended fails and changes nothing. -/
lemma send_of_hasEnded (c : Call) (hopen : remote.channel.link.isOpen = false) :
    ∃ channel, Remote.send (Ndjson.channel .compact (Connection.link .compact factory)) c remote =
      (.error (.channel .io), { remote with channel }) ∧ channel.link = remote.channel.link := by
  obtain ⟨next, hcall, hnext⟩ := Ndjson.call_of_hasEnded .compact
    (Connection.hasEnded .compact factory hopen) c.word (Remote.params c)
  rw [← Ndjson.channel_call] at hcall
  refine ⟨next, ?_, hnext⟩
  rw [Remote.send_of_error hcall]
  rfl

/-- An outcome that does not say that there is no engine does not say so to the near end either,
whether or not its result can be read. -/
lemma isClosed_of_objects {outcome : Except Refusal Json} (h : Refusal.Objects outcome)
    (word : String) {fault : ChannelFault} (hheard : Response.heard outcome = .error fault) :
    (Remote.liftChannel word fault).isClosed = false := by
  rcases outcome with refusal | result
  · cases hheard
    exact (isClosed_failureOf word refusal).trans (h refusal rfl)
  · rw [Response.heard] at hheard
    split at hheard
    · cases hheard
    · cases hheard
      rfl

/-- Only the initialization and the release have their words. -/
lemma word_ne {c : Call} (hinit : c ≠ .init) (hdispose : c ≠ .dispose) :
    c.word ≠ "init" ∧ c.word ≠ "dispose" := by
  cases c with
  | init => exact absurd rfl hinit
  | dispose => exact absurd rfl hdispose
  | drive step => cases step <;> simp [Call.word, Step.word]
  | _ => simp [Call.word]

variable (factory) in
/-- A call of the engine keeps both ends right.

**Proof sketch.** Parameters that nest too deep change nothing. Otherwise the outcome of the request
tells whether the server has its engine (`Server.tells_handle`): a refusal that says that there is
none is one for the near end as well, and no other outcome is, not even a result that cannot be
read. -/
lemma send (h : Linked remote) {c : Call} (hinit : c ≠ .init) (hdispose : c ≠ .dispose) :
    Follows factory c remote
      (Remote.send (Ndjson.channel .compact (Connection.link .compact factory)) c remote).2 := by
  rcases h.settled with ⟨id, hchannel⟩ | ⟨hopen, hengine⟩
  · have hcall := Ndjson.call_eq factory c.word (Remote.params c) id (farServer remote)
    rw [← hchannel, ← Ndjson.channel_call] at hcall
    cases hparams : (Remote.params c).tree.read? Request.depth with
    | none =>
      rw [hparams] at hcall
      have hopen : ∀ fault, Except.error (.envelope .noId) = (.error fault : Except _ Json) →
          (Remote.liftChannel c.word fault).isClosed = false := by
        rintro fault ⟨⟩
        rfl
      rw [Remote.send_snd_of_open hcall hopen]
      exact h.follows_of_same (.inl ⟨id + 1, rfl⟩) rfl
    | some params =>
      obtain ⟨handled, hhandled⟩ : ∃ handled, Server.handle factory
          ⟨.ofUInt64 id, c.word, params⟩ (farServer remote) = handled := ⟨_, rfl⟩
      have hword := word_ne hinit hdispose
      have htells : Server.Tells (farServer remote) handled.1.outcome handled.2 :=
        hhandled ▸ Server.tells_handle factory hword.1 hword.2 (farServer remote)
      rw [hparams] at hcall
      simp only [hhandled] at hcall
      rcases htells with ⟨hobjects, hengine⟩ | ⟨refusal, houtcome, hrefusal, hengine⟩
      · rw [Remote.send_snd_of_open hcall fun fault => isClosed_of_objects hobjects c.word]
        exact h.follows_of_same (.inl ⟨id + 1, rfl⟩) hengine
      · rw [houtcome] at hcall
        have hclosed : (Remote.liftChannel c.word
            (.remote ⟨some refusal.code, refusal.message⟩)).isClosed = true :=
          (isClosed_failureOf c.word refusal).trans hrefusal
        rw [Remote.send_of_error hcall, if_pos hclosed]
        exact follows_of_none (.inl ⟨id + 1, rfl⟩) hengine
  · obtain ⟨channel, hsend, hlink⟩ := send_of_hasEnded factory c hopen
    rw [hsend]
    exact h.follows_of_hasEnded hopen hengine hlink

/-- What comes of the initialization over a channel. -/
inductive Connects (factory : Engine.Factory ι ω) (before : Remote (Ndjson (Connection ι ω))) :
    Except Failure Bool → Remote (Ndjson (Connection ι ω)) → Prop
  /-- The near end is connected and asks for nothing. -/
  | present (hconnected : before.connected = true) : Connects factory before (.ok true) before
  /-- The stream has ended. -/
  | ended {channel : Ndjson (Connection ι ω)} (hopen : before.channel.link.isOpen = false)
      (hnone : (farServer before).engine = none) (hlink : channel.link = before.channel.link) :
      Connects factory before (.error (.channel .io)) { before with channel }
  /-- An engine is set up, and the reply says what it offers. -/
  | built {id : UInt64} {engine : ι} {capabilities : Capabilities} {world : ω}
      (hconnected : before.connected = false) (hnone : (farServer before).engine = none)
      (hsetUp : factory.setUp (farServer before).world = (.ok (engine, capabilities), world)) :
      Connects factory before (.ok true)
        ⟨Ndjson.atRest id ⟨world, some engine⟩, true, capabilities⟩
  /-- The factory refuses, and the reply says so. -/
  | refused {id : UInt64} {reason : String} {world : ω} (hnone : (farServer before).engine = none)
      (hsetUp : factory.setUp (farServer before).world = (.error (.refused reason), world)) :
      Connects factory before (.ok false)
        { before with channel := Ndjson.atRest id ⟨world, none⟩ }
  /-- The factory panics or the new engine does, and the refusal says so. -/
  | panicked {id : UInt64} {panic : Engine.Panic} {world : ω}
      (hnone : (farServer before).engine = none)
      (hsetUp : factory.setUp (farServer before).world = (.error (.panicked panic), world))
      (reason : String) :
      Connects factory before (.error (.closed reason))
        ⟨Ndjson.atRest id ⟨world, none⟩, false, .none⟩

variable (factory) in
/-- What comes of the initialization over a channel.

**Proof sketch.** A near end that is connected asks for nothing. Otherwise the server has no engine
and asks the factory: its reply says what the new engine offers, or that there is none. -/
lemma connects (h : Linked remote) :
    ∃ outcome after,
      Remote.connect (Ndjson.channel .compact (Connection.link .compact factory)) remote =
        (outcome, after) ∧ Connects factory remote outcome after := by
  unfold Remote.connect
  cases hconnected : remote.connected with
  | true => exact ⟨_, _, rfl, .present hconnected⟩
  | false =>
    rw [if_neg Bool.false_ne_true]
    rcases h.settled with ⟨id, hchannel⟩ | ⟨hopen, hengine⟩
    · have hnone : (farServer remote).engine = none := by
        rw [← Option.isNone_iff_eq_none, ← Option.not_isSome]
        exact Bool.not_eq_true' _ ▸ (h.connected.symm.trans hconnected)
      have hexecute : Server.execute factory (Call.command .init) (farServer remote) =
          Server.init factory (farServer remote) := rfl
      rw [Server.init, hnone] at hexecute
      rcases hsetUp : factory.setUp (farServer remote).world with
        ⟨(reason | panic) | ⟨engine, capabilities⟩, world⟩ <;>
          simp only [hsetUp] at hexecute
      · rw [send_eq_ok hchannel rfl hexecute (Server.isLegible_initRefused reason)]
        simp only [Mirrors.initRefused_read]
        exact ⟨_, _, rfl, .refused hnone hsetUp⟩
      · rw [send_eq_error hchannel rfl hexecute]
        exact ⟨_, _, rfl, .panicked hnone hsetUp _⟩
      · rw [send_eq_ok hchannel rfl hexecute (Server.isLegible_initResult capabilities)]
        obtain ⟨hok, hcapabilities⟩ := Mirrors.initResult_read capabilities
        simp only [hok, hcapabilities, if_true]
        exact ⟨_, _, rfl, .built hconnected hnone hsetUp⟩
    · obtain ⟨channel, hsend, hlink⟩ := send_of_hasEnded factory .init hopen
      rw [hsend]
      exact ⟨_, _, rfl, .ended hopen hengine hlink⟩

variable (factory) in
/-- The initialization keeps both ends right. -/
lemma connect (h : Linked remote) :
    Follows factory .init remote
      (Remote.connect (Ndjson.channel .compact (Connection.link .compact factory)) remote).2 := by
  obtain ⟨outcome, after, hconnect, hconnects⟩ := h.connects factory
  rw [hconnect]
  cases hconnects with
  | present => exact h.follows_of_same h.settled rfl
  | ended hopen hnone hlink => exact h.follows_of_hasEnded hopen hnone hlink
  | @built id engine capabilities world hconnected _ hsetUp =>
    refine ⟨⟨.inl ⟨id, rfl⟩, rfl, fun hafter => ?_⟩, fun hbefore => ?_,
      fun _ _ => ⟨rfl, engine, rfl, hsetUp⟩⟩
    · cases hafter
    · cases hconnected.symm.trans hbefore
  | @refused id _ _ hnone => exact h.follows_of_same (.inl ⟨id, rfl⟩) hnone.symm
  | @panicked id => exact follows_of_none (.inl ⟨id, rfl⟩) rfl

variable (factory) in
/-- The release drops the engine and ends the stream. -/
lemma released (h : Linked remote) :
    ∃ channel, (Remote.release (Ndjson.channel .compact (Connection.link .compact factory))
        remote).2 = ⟨channel, false, .none⟩ ∧
      channel.link.isOpen = false ∧ channel.link.server = (farServer remote).drop := by
  rw [Remote.release_snd, Ndjson.channel_close]
  rcases h.settled with ⟨id, hchannel⟩ | ⟨hopen, hengine⟩
  · have hexecute : Server.execute factory (Call.command .dispose) (farServer remote) =
        Server.dispose (farServer remote) := rfl
    rw [send_eq_ok hchannel rfl hexecute (Json.isLegible_ofFields (Request.depth - 1) (by simp)),
      Ndjson.close_atRest]
    exact ⟨_, rfl, rfl, rfl⟩
  · obtain ⟨channel, hsend, hlink⟩ := send_of_hasEnded factory .dispose hopen
    have hclosed : (Ndjson.close (Connection.link .compact factory) channel).2.link =
        remote.channel.link := by
      rw [Ndjson.close_of_hasEnded (hlink ▸ Connection.hasEnded .compact factory hopen), hlink]
    rw [hsend]
    refine ⟨_, rfl, ?_, ?_⟩
    · rw [hclosed, hopen]
    · rw [hclosed, Server.drop, ← hengine]
      rfl

variable (factory) in
/-- The release keeps both ends right: the server ends, and the stream with it. -/
lemma release (h : Linked remote) :
    Follows factory .dispose remote
      (Remote.release (Ndjson.channel .compact (Connection.link .compact factory)) remote).2 := by
  obtain ⟨channel, hrelease, hopen, hserver⟩ := h.released factory
  have hnone : channel.link.server.engine = none := by
    rw [hserver]
    rfl
  rw [hrelease]
  exact follows_of_none (.inr ⟨hopen, hnone⟩) hnone

variable (factory) in
/-- **Both ends agree behind every call.** -/
theorem call (h : Linked remote) (c : Call) :
    Follows factory c remote ((overChannel factory).call c remote).2 := by
  rcases c.init_or_dispose_or_ne with rfl | rfl | ⟨hinit, hdispose⟩
  · exact h.connect factory
  · exact h.release factory
  · rw [overChannel, Remote.call_snd _ hinit hdispose]
    exact h.send factory hinit hdispose

end Linked

/-! ## Runs of calls -/

/-- The world of a backend behind some calls, the latest call first. -/
def afterCalls (backend : Backend κ) (start : κ) : List Call → κ
  | [] => start
  | c :: past => (backend.call c (afterCalls backend start past)).2

variable (factory) in
/-- Both ends behind some calls, the latest call first. -/
def ends (world : ω) (past : List Call) : Remote (Ndjson (Connection ι ω)) :=
  afterCalls (overChannel factory)
    (Remote.idle (Ndjson.fresh (Connection.fresh (Server.idle world)) [])) past

lemma ends_cons (world : ω) (c : Call) (past : List Call) :
    ends factory world (c :: past) =
      ((overChannel factory).call c (ends factory world past)).2 :=
  rfl

variable (factory) in
/-- Both ends agree behind all calls. -/
lemma linked_ends (world : ω) (past : List Call) : Linked (ends factory world past) := by
  induction past with
  | nil => exact ⟨.inl ⟨1, rfl⟩, rfl, fun _ => rfl⟩
  | cons c past ih => exact (ih.call factory c).linked

variable (factory) in
/-- An initialization before which the near end was not connected, and since which it is. The server
has the engine that was set up then, and the near end knows what that engine said it offers. -/
structure ConnectedSince (world : ω) (later earlier : List Call) : Prop where
  /-- The near end was not connected. -/
  before : (ends factory world earlier).connected = false
  /-- It is connected since. -/
  since : ∀ recent, recent <:+ later →
    (ends factory world (recent ++ .init :: earlier)).connected = true
  /-- What is known is about the engine that was set up then. -/
  reported : ∃ engine,
    (farServer (ends factory world (later ++ .init :: earlier))).engine = some engine ∧
      factory.setUp (farServer (ends factory world earlier)).world =
        (.ok (engine, (ends factory world (later ++ .init :: earlier)).capabilities),
          (farServer (ends factory world (.init :: earlier))).world)

/-- What is known of an engine is what it said, as long as it stays. -/
lemma ConnectedSince.cons {world : ω} {later earlier : List Call}
    (h : ConnectedSince factory world later earlier) {c : Call}
    (hafter : (ends factory world (c :: (later ++ .init :: earlier))).connected = true) :
    ConnectedSince factory world (c :: later) earlier where
  before := h.before
  since recent hsuffix := by
    rcases List.suffix_cons_iff.mp hsuffix with rfl | hsuffix
    · exact hafter
    · exact h.since recent hsuffix
  reported := by
    obtain ⟨engine, hengine, hsetUp⟩ := h.reported
    obtain ⟨hstays, hcapabilities⟩ := ((linked_ends factory world _).call factory c).stays
      (h.since later List.suffix_rfl) hafter
    rw [← ends_cons] at hstays hcapabilities
    rw [List.cons_append]
    exact ⟨engine, hstays.trans hengine, by rw [hcapabilities, hsetUp]⟩

/-- **A connected near end was connected by an initialization.**

**Proof sketch.** By induction on the calls. A call that finds the near end connected keeps the
engine; one that does not, and behind which it is, is the initialization. -/
theorem exists_connectedSince {world : ω} {past : List Call}
    (h : (ends factory world past).connected = true) :
    ∃ later earlier, past = later ++ .init :: earlier ∧
      ConnectedSince factory world later earlier := by
  induction past with
  | nil => cases h
  | cons c past ih =>
    cases hbefore : (ends factory world past).connected with
    | true =>
      obtain ⟨later, earlier, rfl, hsince⟩ := ih hbefore
      exact ⟨c :: later, earlier, rfl, hsince.cons h⟩
    | false =>
      obtain ⟨rfl, engine, hengine, hsetUp⟩ :=
        ((linked_ends factory world past).call factory c).gained hbefore h
      refine ⟨[], past, rfl, hbefore, fun recent hsuffix => ?_, engine, hengine, hsetUp⟩
      rw [List.suffix_nil.mp hsuffix]
      exact h

/-- A near end that is not connected offers nothing behind any calls, whatever is at the far end. -/
lemma bare_afterCalls (channel : Channel κ) (peer : κ) (past : List Call) :
    (afterCalls (Remote.backend channel) (Remote.idle peer) past).Bare := by
  induction past with
  | nil => exact fun _ => rfl
  | cons c past ih => exact ih.call c

/-- **Both ends agree on whether there is an engine.** Behind every run of calls the near end of a
channel is connected just when the server at the far end has an engine. Then that engine was set up
by the initialization since which the near end is connected, and the near end offers what the engine
said then. A near end that is not connected offers nothing, whatever is at the far end. -/
theorem liveness_agreed (factory : Engine.Factory ι ω) (world : ω) (past : List Call) :
    ((ends factory world past).connected = true ↔
      (farServer (ends factory world past)).isActive = true) ∧
    ((ends factory world past).connected = true →
      ∃ later earlier, past = later ++ .init :: earlier ∧
        ConnectedSince factory world later earlier) ∧
    ∀ {κ : Type} (channel : Channel κ) (peer : κ),
      let remote := afterCalls (Remote.backend channel) (Remote.idle peer) past
      remote.connected = false → (Remote.backend channel).offers remote = .none := by
  refine ⟨?_, exists_connectedSince, fun channel peer => bare_afterCalls channel peer past⟩
  rw [(linked_ends factory world past).connected]

end Backend

end ScriptHost
