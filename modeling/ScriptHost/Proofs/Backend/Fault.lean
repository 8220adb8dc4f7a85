import ScriptHost.Proofs.Backend.Breakdown

/-!
# Faults of an engine on their way to the caller

An engine may refuse a call. On a worker the caller sees the fault itself. Behind a channel the
server sends a code and the whole wording of the fault, and the near end takes the wording for the
detail: the kind of the failure is the right one, but the detail of an invalid state and of a
malformed snapshot has the words in front of it that the wording of the failure repeats. Only an
operation that is not there is reported alike by both, since its detail is not sent.

## Main definitions

* `ScriptHost.Engine.Call.fault?` — the fault that an engine answers a call with.
* `ScriptHost.Adapter.reported` — the failure that a caller sees for a fault.
* `ScriptHost.Adapter.Heard` — what is heard of a call that may reach the engine.

## Main results

* `ScriptHost.Adapter.engine_fault_reported` — what every caller sees when an engine refuses a call.
* `ScriptHost.Remote.detail_not_kept` — a fault that comes back from the channel as another failure.
-/

namespace ScriptHost

variable {ι ω α β : Type}

/-- The fault that an engine answers a call with, if it refuses the call. -/
def Engine.Call.fault? : (c : Engine.Call) → c.Answer → Option EngineFault
  | .run _, _ => none
  | .drive _, .error fault => some fault
  | .snapshot, .error fault => some fault
  | .restore _, .error fault => some fault
  | .globals, .error fault => some fault
  | _, _ => none

/-! ## What is reported -/

namespace Remote

/-- What the near end makes of the code and the wording of a fault: behind the right kind of failure
stands the whole wording, and the name of the operation is that of the call. -/
lemma lift_engine (word : String) (fault : EngineFault) :
    lift word ⟨some (Refusal.engine fault).code, (Refusal.engine fault).message⟩ =
      match fault with
      | .unsupported _ => .unsupported backendName word
      | .invalidState detail => .protocol (.rejected ("invalid engine state: " ++ detail))
      | .malformedSnapshot detail =>
        .snapshot (.malformed (.reported ("malformed snapshot: " ++ detail))) := by
  cases fault <;> rfl

/-- **A detail is not kept.** It is not so that the near end makes of the code and the wording of
every fault that names the operation of the call the failure for that fault: an engine that is busy
is reported as in the invalid state of being in an invalid state. -/
theorem detail_not_kept :
    ¬ ∀ (word : String) (fault : EngineFault),
      (∀ operation, fault = .unsupported operation → operation = word) →
        lift word ⟨some (Refusal.engine fault).code, (Refusal.engine fault).message⟩ =
          fault.lift backendName := by
  intro h
  have hkept : lift "start" ⟨some "invalid_state", "invalid engine state: busy"⟩ =
      .protocol (.rejected "busy") := h "start" (.invalidState "busy") nofun
  have hreported : lift "start" ⟨some "invalid_state", "invalid engine state: busy"⟩ =
      .protocol (.rejected "invalid engine state: busy") := rfl
  rw [hreported] at hkept
  simp at hkept

end Remote

namespace Adapter

open Engine (Instance Event)
open Backend (Call afterCalls)

/-- The failure that the caller of a call with a word sees when the engine refuses it. -/
def reported (word : String) : Adapter → EngineFault → Failure
  | worker, fault => fault.lift "thread"
  | channel, .unsupported _ => .unsupported "wire" word
  | channel, .invalidState detail => .protocol (.rejected ("invalid engine state: " ++ detail))
  | channel, .malformedSnapshot detail =>
    .snapshot (.malformed (.reported ("malformed snapshot: " ++ detail)))

/-- A fault is reported as it is on a worker, and behind a channel only when the engine does not
have the operation of the call. -/
lemma reported_eq_lift_iff (a : Adapter) (factory : Engine.Factory ι ω) (word : String)
    (fault : EngineFault) :
    a.reported word fault = fault.lift (a.backend factory).name ↔
      a = worker ∨ fault = .unsupported word := by
  cases a with
  | worker => exact ⟨fun _ => .inl rfl, fun _ => rfl⟩
  | channel =>
    have hname : ((channel : Adapter).backend factory).name = "wire" := rfl
    rw [hname]
    cases fault with
    | unsupported operation =>
      simp only [reported, EngineFault.lift, Failure.unsupported.injEq, reduceCtorEq, false_or,
        true_and, EngineFault.unsupported.injEq]
      exact eq_comm
    | invalidState detail => simp [reported, EngineFault.lift]
    | malformedSnapshot detail => simp [reported, EngineFault.lift]

/-- A fault is reported as a failure of its kind. -/
lemma alike_reported (a : Adapter) (factory : Engine.Factory ι ω) (word : String)
    (fault : EngineFault) :
    (fault.lift (a.backend factory).name).Alike (a.reported word fault) := by
  cases a <;> cases fault <;> trivial

/-! ## What is heard of a call -/

/-- What is heard of a call that may reach the engine, where its faults are reported in some way. -/
inductive Heard (factory : Engine.Factory ι ω) (report : EngineFault → Failure) (c : Call)
    (before : Server ι ω) : Except Failure α → Server ι ω → Prop
  /-- The engine is not asked. -/
  | unasked (outcome : Except Failure α) : Heard factory report c before outcome before
  /-- The engine answers; what it refuses is reported. -/
  | answered {engine : ι} {asked : Engine.Call} {answer : asked.Answer} {world : ω}
      (hengine : before.engine = some engine) (hword : asked.word = c.word)
      (hcall : factory.call engine asked before.world = (.ok answer, world))
      {outcome : Except Failure α}
      (hreport : ∀ fault, asked.fault? answer = some fault → outcome = .error (report fault)) :
      Heard factory report c before outcome ⟨world, some engine⟩
  /-- The engine breaks down. -/
  | panicked {engine : ι} {asked : Engine.Call} {panic : Engine.Panic} {world : ω}
      (hcall : factory.call engine asked before.world = (.error panic, world))
      (outcome : Except Failure α) : Heard factory report c before outcome ⟨world, none⟩

variable {report : EngineFault → Failure} {c : Call}

/-- An outcome that fails where another does is heard of the same call. -/
lemma Heard.transfer {factory : Engine.Factory ι ω} {before after : Server ι ω}
    {outcome : Except Failure α} {other : Except Failure β}
    (h : Heard factory report c before outcome after)
    (hother : ∀ failure, outcome = .error failure → other = .error failure) :
    Heard factory report c before other after := by
  cases h with
  | unasked => exact .unasked other
  | answered hengine hword hcall hreport =>
    exact .answered hengine hword hcall fun fault hfault => hother _ (hreport fault hfault)
  | panicked hcall => exact .panicked hcall other

/-- Of a call whose record says that the engine refused it the caller hears the fault. -/
lemma Heard.of_log {factory : Engine.Factory ι ω}
    {before after : Server (Instance ι) (Recorded Event ω)} {outcome : Except Failure α}
    (h : Heard factory.recorded report c before outcome after) {n : Nat} {asked : Engine.Call}
    {answer : asked.Answer} {fault : EngineFault}
    (hevents : after.world.events = before.world.events ++ [.call n asked (.ok answer)])
    (hfault : asked.fault? answer = some fault) :
    asked.word = c.word ∧ outcome = .error (report fault) ∧ after.engine = before.engine := by
  cases h with
  | unasked => simp at hevents
  | answered hengine hword hcall hreport =>
    rw [Engine.Factory.recorded_call hcall] at hevents
    cases List.append_cancel_left hevents
    exact ⟨hword, hreport fault hfault, hengine.symm⟩
  | panicked hcall =>
    rw [Engine.Factory.recorded_call hcall] at hevents
    cases List.append_cancel_left hevents

end Adapter

open Adapter

/-! ## Workers -/

namespace Worker

/-- What is heard of asking a worker, where its answer is read in a way that reports faults. -/
lemma heard_ask (factory : Engine.Factory ι ω) {c : Backend.Call} (asked : Engine.Call)
    (hword : asked.word = c.word) (worker : Worker ι ω)
    (read : Except Failure asked.Answer → Except Failure α)
    (hread : ∀ answer fault, asked.fault? answer = some fault →
      read (.ok answer) = .error (fault.lift backendName)) :
    Heard factory (EngineFault.lift backendName) c worker.server
      (read (ask factory asked worker).1) (ask factory asked worker).2.server := by
  rcases worker with ⟨world, _ | engine, capabilities⟩
  · exact .unasked _
  · rcases hcall : factory.call engine asked world with ⟨panic | answer, after⟩
    · simp only [ask, hcall]
      exact .panicked hcall _
    · simp only [ask, hcall]
      exact .answered rfl hword hcall (hread answer)

/-- **What is heard of a call of a worker.** -/
theorem heard (factory : Engine.Factory ι ω) (worker : Worker ι ω) {c : Backend.Call}
    (hinit : c ≠ .init) (hdispose : c ≠ .dispose) :
    Heard factory (EngineFault.lift backendName) c worker.server
      ((backend factory).call c worker).1 ((backend factory).call c worker).2.server := by
  cases c with
  | init => exact absurd rfl hinit
  | dispose => exact absurd rfl hdispose
  | run script =>
    refine heard_ask factory (c := .run script) (.run (script.rename nameOrEmpty)) rfl worker
      (fun outcome => outcome.map Reply.typed) ?_
    rintro _ _ ⟨⟩
  | drive step =>
    have hword : (Engine.Call.drive (step.rename nameOrEmpty)).word = step.word :=
      step.word_rename nameOrEmpty
    refine heard_ask factory (c := .drive step) _ hword worker
      (fun outcome => (lift outcome).map Reply.typed) ?_
    rintro (fault | progress) _ ⟨⟩
    rfl
  | snapshot =>
    refine heard_ask factory (c := .snapshot) .snapshot rfl worker lift ?_
    rintro (fault | bytes) _ ⟨⟩
    rfl
  | restore bytes =>
    refine heard_ask factory (c := .restore bytes) (.restore bytes) rfl worker lift ?_
    rintro (fault | done) _ ⟨⟩
    rfl
  | globals =>
    refine heard_ask factory (c := .globals) .globals rfl worker
      (fun outcome => (lift outcome).map Reply.typed) ?_
    rintro (fault | names) _ ⟨⟩
    rfl

end Worker

/-! ## Servers behind a channel -/

namespace Backend

open Mirrors (failureOf)

variable {remote : Remote (Ndjson (Connection ι ω))}

/-- What an engine refuses is the result of its answer. -/
lemma result_of_fault {c : Engine.Call} {answer : c.Answer} {fault : EngineFault}
    (h : c.fault? answer = some fault) : Server.result c answer = .error (.engine fault) := by
  cases c with
  | run script => cases h
  | _ =>
    rcases answer with fault' | value
    · cases h
      rfl
    · cases h

/-- What is heard of a request for a call of the engine. -/
lemma heard_handle (factory : Engine.Factory ι ω) {c : Call} (hinit : c ≠ .init)
    (hdispose : c ≠ .dispose) (id params : Json) (server : Server ι ω) :
    Heard factory (fun fault => failureOf c.word (.engine fault)) c server
      ((Response.heard (Server.handle factory ⟨id, c.word, params⟩ server).1.outcome).mapError
        (Remote.liftChannel c.word))
      (Server.handle factory ⟨id, c.word, params⟩ server).2 := by
  unfold Server.handle
  rcases hcommand : Command.read c.word params with refusal | command
  · exact .unasked _
  · have hwords := Linked.word_ne hinit hdispose
    obtain ⟨asked, hword, rfl⟩ :=
      Command.readsCall_read hwords.1 hwords.2 params command hcommand
    dsimp only [Server.execute]
    unfold Server.ask
    rcases hengine : server.engine with _ | engine
    · exact .unasked _
    · dsimp only
      rcases hcall : factory.call engine asked server.world with ⟨panic | answer, world⟩
      · exact .panicked hcall _
      · refine .answered hengine hword hcall fun fault hfault => ?_
        dsimp only
        rw [result_of_fault hfault]
        rfl

/-- What is heard of sending a call of the engine. -/
lemma Linked.heard_send (factory : Engine.Factory ι ω) (h : Linked remote) {c : Call}
    (hinit : c ≠ .init) (hdispose : c ≠ .dispose) :
    Heard factory (fun fault => failureOf c.word (.engine fault)) c (farServer remote)
      (Remote.send (Ndjson.channel .compact (Connection.link .compact factory)) c remote).1
      (farServer (Remote.send (Ndjson.channel .compact (Connection.link .compact factory)) c
        remote).2) := by
  rcases h.settled with ⟨id, hchannel⟩ | ⟨hopen, -⟩
  · have hcall := Ndjson.call_eq factory c.word (Remote.params c) id (farServer remote)
    rw [← hchannel, ← Ndjson.channel_call] at hcall
    rw [farServer, farServer, Remote.send_fst, Remote.send_channel, hcall]
    cases (Remote.params c).tree.read? Request.depth with
    | none => exact .unasked _
    | some params => exact heard_handle factory hinit hdispose (.ofUInt64 id) params _
  · obtain ⟨channel, hsend, hlink⟩ := Linked.send_of_hasEnded factory c hopen
    have hafter : farServer { remote with channel } = farServer remote :=
      congrArg Connection.server hlink
    rw [hsend, hafter]
    exact .unasked _

/-- **What is heard of a call over a channel.** -/
theorem Linked.heard (factory : Engine.Factory ι ω) (h : Linked remote) {c : Call}
    (hinit : c ≠ .init) (hdispose : c ≠ .dispose) :
    Heard factory (fun fault => failureOf c.word (.engine fault)) c (farServer remote)
      ((overChannel factory).call c remote).1
      (farServer ((overChannel factory).call c remote).2) := by
  have hafter := Remote.call_snd (Ndjson.channel .compact (Connection.link .compact factory))
    hinit hdispose remote
  rw [overChannel, hafter]
  exact (h.heard_send factory hinit hdispose).transfer fun _ =>
    Remote.call_eq_error _ hinit hdispose

end Backend

/-! ## Adapters -/

namespace Adapter

open Engine (Instance Event)
open Backend (Call afterCalls)

variable {a : Adapter}

/-- **What is heard of a call behind every adapter.** -/
theorem heard (factory : Engine.Factory ι ω) {s : a.World ι ω} (h : a.IsSound s) {c : Call}
    (hinit : c ≠ .init) (hdispose : c ≠ .dispose) :
    Heard factory (a.reported c.word) c (a.server s) ((a.backend factory).call c s).1
      (a.server ((a.backend factory).call c s).2) := by
  cases a with
  | worker => exact Worker.heard factory s hinit hdispose
  | channel =>
    have hreported : Adapter.channel.reported c.word =
        fun fault => Backend.Mirrors.failureOf c.word (.engine fault) := by
      funext fault
      rw [Backend.Mirrors.failureOf, Remote.lift_engine]
      cases fault <;> rfl
    rw [hreported]
    exact Backend.Linked.heard factory h hinit hdispose

/-- Setting an engine up asks the factory at most, and no engine. -/
lemma SetsUp.not_asked {factory : Engine.Factory ι ω}
    {before after : Server (Instance ι) (Recorded Event ω)} {outcome : Except Failure Bool}
    (h : SetsUp factory.recorded before outcome after) (n : Nat) (asked : Engine.Call)
    (answer : Except Engine.Panic asked.Answer) :
    after.world.events ≠ before.world.events ++ [.call n asked answer] := by
  have hbuilds {built : Except Engine.BuildFault (Instance ι × Capabilities)}
      {world : Recorded Event ω} (hsetUp : factory.recorded.setUp before.world = (built, world)) :
      world.events ≠ before.world.events ++ [.call n asked answer] := by
    intro hevents
    obtain ⟨outcome, hbuild⟩ := Engine.Factory.setUp_events factory before.world
    rw [hsetUp] at hbuild
    cases List.append_cancel_left (hevents.symm.trans hbuild)
  cases h with
  | present | unreached => simp
  | built _ hsetUp => exact hbuilds hsetUp
  | refused _ hsetUp => exact hbuilds hsetUp
  | panicked _ hsetUp => exact hbuilds hsetUp

/-- **A fault of an engine reaches the caller.** Whatever a backend was asked before and whatever
engines do: when a call asks the engine and the engine refuses, then the call fails with the failure
of `Adapter.reported`, and the engine stays. That is a failure of the kind of the fault. It is the
failure for the fault itself, up to the name of the backend, on a worker and for an operation that
the engine does not have; behind a channel the detail of every other fault has its wording in front
of it.

**Proof sketch.** A call that asks the engine neither sets one up nor releases it. What is heard of
it depends on the answer of the engine, which the record shows: the worker passes the fault on, and
the server sends its code and its wording, which the near end reads. -/
theorem engine_fault_reported (a : Adapter) (factory : Engine.Factory ι ω) (world : ω)
    (earlier : List Call) (c : Call) :
    let backend := a.backend factory.recorded
    let before := afterCalls backend (a.idle (Recorded.fresh world)) earlier
    let after := (backend.call c before).2
    ∀ n asked answer fault, a.log after = a.log before ++ [.call n asked (.ok answer)] →
      asked.fault? answer = some fault →
        asked.word = c.word ∧ (backend.call c before).1 = .error (a.reported c.word fault) ∧
        (a.server after).engine = (a.server before).engine ∧
        (fault.lift backend.name).Alike (a.reported c.word fault) ∧
        (a.reported c.word fault = fault.lift backend.name ↔
          a = worker ∨ fault = .unsupported c.word) := by
  intro backend before after n asked answer fault hevents hfault
  have hsound : a.IsSound before :=
    isSound_afterCalls factory.recorded (a.isSound_idle _) earlier
  have hturn := turn factory.recorded hsound c
  have hengine : c ≠ .init ∧ c ≠ .dispose := by
    constructor
    · rintro rfl
      exact SetsUp.not_asked hturn n asked (.ok answer) hevents
    · rintro rfl
      have hdropped : a.server after = (a.server before).drop := hturn
      have hsame : a.log after = a.log before :=
        congrArg (fun server => server.world.events) hdropped
      rw [hsame] at hevents
      simp at hevents
  obtain ⟨hword, houtcome, hstays⟩ :=
    (heard factory.recorded hsound hengine.1 hengine.2).of_log hevents hfault
  exact ⟨hword, houtcome, hstays, a.alike_reported factory.recorded c.word fault,
    a.reported_eq_lift_iff factory.recorded c.word fault⟩

/-- A call that the engine refuses adds to the record behind a channel what it adds to that of a
worker with the same engine. -/
lemma log_of_mirrors {factory : Engine.Factory ι ω}
    {worker : Worker (Instance ι) (Recorded Event ω)}
    {remote : Adapter.channel.World (Instance ι) (Recorded Event ω)}
    (m : Backend.Mirrors worker remote) {c : Call} (hinit : c ≠ .init) (hdispose : c ≠ .dispose)
    (hc : c.isLegible = true) {fault : EngineFault} {world : Recorded Event ω} {new : List Event}
    (hexecute : Server.execute factory.recorded c.command ⟨worker.world, worker.engine⟩ =
      (.error (.engine fault), ⟨world, worker.engine⟩))
    (hevents : world.events = worker.world.events ++ new) :
    Adapter.channel.log ((Adapter.channel.backend factory.recorded).call c remote).2 =
      Adapter.channel.log remote ++ new := by
  obtain ⟨sent, hsend, hsent⟩ := m.of_refused hc hexecute
  have hsnd : ((Adapter.channel.backend factory.recorded).call c remote).2 = sent :=
    (Remote.call_snd _ hinit hdispose remote).trans (congrArg Prod.snd hsend)
  obtain ⟨id, hbefore⟩ := m.channel
  obtain ⟨id', hafter⟩ := hsent.channel
  have hlog : Adapter.channel.log remote = worker.world.events :=
    congrArg (fun channel => channel.link.server.world.events) hbefore
  have hlog' : Adapter.channel.log sent = world.events :=
    congrArg (fun channel => channel.link.server.world.events) hafter
  rw [hsnd, hlog', hevents, hlog]

/-- An initialization over a channel leaves the engine of a worker that is initialized as well. -/
lemma mirrors_afterInit (factory : Engine.Factory ι ω) {worker : Worker ι ω}
    {remote : Adapter.channel.World ι ω} (m : Backend.Mirrors worker remote) :
    Backend.Mirrors ((Worker.backend factory).call .init worker).2
      (afterCalls (Adapter.channel.backend factory) remote [.init]) :=
  m.init.2

/-- A script that calls a function of its host. -/
def fetchScript : Script (Option String) :=
  ⟨"fetch()", none, none⟩

/-- An engine that is busy when it is asked first. -/
def busyScript : Scripted.EngineScript :=
  ⟨[], [.fail (.invalidState "busy")]⟩

/-- Its answer when the script is to be started. -/
def busyEvent : Event :=
  .call 0 (.drive (.start (fetchScript.rename Call.sentName) ["fetch"]))
    (.ok (.error (.invalidState "busy")))

/-- Both ends of a channel when the engine is set up. -/
def busyEnds : Adapter.channel.World (Instance Unit) (Recorded Event Scripted.EngineScript) :=
  afterCalls (Adapter.channel.backend (Scripted.factory .none).recorded)
    (Adapter.channel.idle (Recorded.fresh busyScript)) [.init]

/-- A worker with the same engine. -/
lemma mirrors_busyEnds :
    Backend.Mirrors ⟨⟨busyScript, [.build (.ok ())]⟩, some ⟨(), 0⟩, .none⟩ busyEnds := by
  have hidle : Backend.Mirrors (Worker.idle (Recorded.fresh busyScript))
      (Adapter.channel.idle (Recorded.fresh busyScript) :
        Adapter.channel.World (Instance Unit) (Recorded Event Scripted.EngineScript)) :=
    ⟨⟨1, rfl⟩, rfl, rfl, fun _ => rfl⟩
  exact mirrors_afterInit (Scripted.factory .none).recorded hidle

/-- The engine of a server is busy when an execution is to be started; the caller is told that it is
in the invalid state of being in an invalid state. -/
theorem engine_fault_reported_busy :
    Adapter.channel.log ((Adapter.channel.backend (Scripted.factory .none).recorded).call
        (.drive (.start fetchScript ["fetch"])) busyEnds).2 =
      Adapter.channel.log busyEnds ++ [busyEvent] ∧
    ((Adapter.channel.backend (Scripted.factory .none).recorded).call
        (.drive (.start fetchScript ["fetch"])) busyEnds).1 =
      .error (.protocol (.rejected "invalid engine state: busy")) := by
  have hexecute : Server.execute (Scripted.factory .none).recorded
      (Call.drive (.start fetchScript ["fetch"])).command
      ⟨⟨busyScript, [.build (.ok ())]⟩, some ⟨(), 0⟩⟩ =
      (.error (.engine (.invalidState "busy")),
        ⟨⟨⟨[], []⟩, [.build (.ok ()), busyEvent]⟩, some ⟨(), 0⟩⟩) := rfl
  have hevents := log_of_mirrors mirrors_busyEnds (c := .drive (.start fetchScript ["fetch"]))
    nofun nofun rfl hexecute rfl
  have hends {ends : Adapter.channel.World (Instance Unit) (Recorded Event Scripted.EngineScript)}
      (h : afterCalls (Adapter.channel.backend (Scripted.factory .none).recorded)
        (Adapter.channel.idle (Recorded.fresh busyScript)) [.init] = ends) :
      Adapter.channel.log ((Adapter.channel.backend (Scripted.factory .none).recorded).call
          (.drive (.start fetchScript ["fetch"])) ends).2 =
        Adapter.channel.log ends ++ [busyEvent] →
      ((Adapter.channel.backend (Scripted.factory .none).recorded).call
          (.drive (.start fetchScript ["fetch"])) ends).1 =
        .error (Adapter.channel.reported "start" (.invalidState "busy")) := by
    subst h
    intro hevents
    obtain ⟨-, houtcome, -⟩ := engine_fault_reported .channel (Scripted.factory .none) busyScript
      [.init] (.drive (.start fetchScript ["fetch"])) 0 _ _ _ hevents rfl
    exact houtcome
  exact ⟨hevents, hends rfl hevents⟩

end Adapter

end ScriptHost
