import ScriptHost.Proofs.Backend.Adapter
import ScriptHost.Proofs.Context.Matching
import ScriptHost.Scripted.Engine

/-!
# The two backends are interchangeable

A context over a worker and a context over a channel to a server are interchangeable, as long as all
that is sent is legible: the factory and its engines are asked the same, the contexts go through the
same states, and the operations have outcomes that are alike.

Data is not legible when its containers nest too deep for the reader of JSON or when the shortest
decimal of one of its numbers is read as another number. A value that nests too deep never reaches
the engine behind a channel, so that there the two contexts part.

## Main definitions

* `ScriptHost.Context.nearAfter`, `ScriptHost.Context.farAfter` — the two contexts after some
  operations.
* `ScriptHost.Context.LegibleRun` — runs of matching operations in which all data is legible.

## Main results

* `ScriptHost.Context.backends_interchangeable` — in such runs nothing tells the two contexts apart.
* `ScriptHost.Context.parting_of_tooDeep` — a value that nests too deep is lost on the channel.
-/

namespace ScriptHost.Context

open Backend

variable {ι ω : Type}

/-! ## What a factory was asked -/

/-- What came of the calls of a factory is read back from responses. -/
def AllLegible (world : Recorded Engine.Event ω) : Prop :=
  ∀ event ∈ world.events, event.isLegible = true

/-- The record of a factory shows which answers its engines gave. -/
lemma vouches_allLegible (factory : Engine.Factory ι ω) :
    Vouches factory.recorded AllLegible := by
  intro built call answer world world' hcall hworld
  obtain ⟨hanswer, rfl⟩ := Prod.ext_iff.mp hcall
  have hanswer' : (factory.call built.engine call world.world).1 = .ok answer := hanswer
  have hlast := hworld (.call built.builtAt call (factory.call built.engine call world.world).1)
    (List.mem_append_right _ List.mem_cons_self)
  rwa [hanswer'] at hlast

/-- The record of a factory grows when an engine is started. -/
lemma start_extends (factory : Engine.Factory ι ω)
    (worker : Worker (Engine.Instance ι) (Recorded Engine.Event ω)) :
    worker.world.events <+: (Worker.start factory.recorded worker).2.world.events := by
  rcases Worker.start_world factory.recorded worker with hworld | hworld
  · simp only [hworld, List.prefix_rfl]
  · obtain ⟨outcome, hevents⟩ := factory.setUp_events worker.world
    rw [hworld, hevents]
    exact List.prefix_append _ _

/-- The record of a factory grows by what an engine is asked. -/
lemma ask_events_of_engine {factory : Engine.Factory ι ω}
    {worker : Worker (Engine.Instance ι) (Recorded Engine.Event ω)} {built : Engine.Instance ι}
    (h : worker.engine = some built) (call : Engine.Call) :
    ∃ outcome, (Worker.ask factory.recorded call worker).2.world.events =
      worker.world.events ++ [.call built.builtAt call outcome] :=
  ⟨_, by rw [(Worker.ask_of_engine factory.recorded h call).1]; rfl⟩

/-- The record of a factory grows when an engine is asked. -/
lemma ask_extends (factory : Engine.Factory ι ω) (call : Engine.Call)
    (worker : Worker (Engine.Instance ι) (Recorded Engine.Event ω)) :
    worker.world.events <+: (Worker.ask factory.recorded call worker).2.world.events := by
  rcases hengine : worker.engine with _ | built
  · simp only [Worker.ask, hengine]
    exact List.prefix_rfl
  · obtain ⟨outcome, hevents⟩ := ask_events_of_engine hengine call
    rw [hevents]
    exact List.prefix_append _ _

/-- The record of a factory grows by every call of a worker. -/
lemma call_extends (factory : Engine.Factory ι ω) (call : Backend.Call)
    (worker : Worker (Engine.Instance ι) (Recorded Engine.Event ω)) :
    worker.world.events <+:
      ((Worker.backend factory.recorded).call call worker).2.world.events := by
  cases call with
  | init => exact start_extends factory worker
  | dispose =>
    have hstop : worker.stop.world = worker.world := by
      unfold Worker.stop
      split <;> rfl
    change worker.world.events <+: worker.stop.world.events
    simp only [hstop]
    exact List.prefix_rfl
  | _ => exact ask_extends factory _ worker

/-- The record of a factory grows by every operation on a context over a worker. -/
lemma carryOut_extends (factory : Engine.Factory ι ω) (op : Operation)
    (c : Context (Worker (Engine.Instance ι) (Recorded Engine.Event ω))) :
    c.world.world.events <+:
      (carryOut (Worker.backend factory.recorded) op c).2.world.world.events := by
  obtain ⟨calls, k⟩ := carryOut_course (Worker.backend factory.recorded) op c
  exact k.world (P := fun worker => c.world.world.events <+: worker.world.events)
    (fun call worker h => h.trans (call_extends factory call worker)) List.prefix_rfl

/-! ## Values that nest too deep -/

/-- The value of a resumption nests one level deeper in the parameters. -/
lemma isLegible_resumeParams (value : Json) (depth : Nat) :
    (Remote.params (.drive (.resume value))).isLegible (depth + 1) = value.isLegible depth := by
  have hparams : Remote.params (.drive (.resume value)) = .obj [("value", value)] := rfl
  simp [hparams, Json.isLegible, Json.fieldsLegible]

/-- An active context that is resumed takes a step. -/
lemma carryOut_resume (backend : Backend ω) {c : Context ω} (h : c.lifecycle = .active)
    (value : Json) : carryOut backend (.resume value) c =
      ((advance backend (.resume value) c).1.map .progress,
        (advance backend (.resume value) c).2) := by
  have hguard : require "resume" [.active] c = (.ok (), c) := by
    rw [require_apply, h]
    rfl
  have hresume : resume backend value c = advance backend (.resume value) c := bind_of_ok hguard
  rw [carryOut, map_apply, ← hresume]
  rfl

/-- A value that nests too deep is handed to the engine of a worker. On a channel the request with
it is not read, the engine is not asked, and the operation fails. -/
lemma resume_tooDeep {factory : Engine.Factory ι ω}
    {c : Context (Worker (Engine.Instance ι) (Recorded Engine.Event ω))}
    {d : Context (Remote (Ndjson (Connection (Engine.Instance ι) (Recorded Engine.Event ω))))}
    (hagrees : Agrees c d) (hactive : c.lifecycle = .active) {built : Engine.Instance ι}
    (hengine : c.world.engine = some built) {value : Json} {deep : Nat}
    (hdeep : value.isLegible deep = true)
    (htooDeep : value.isLegible (Request.depth - 1) = false) :
    let near := carryOut (Worker.backend factory.recorded) (.resume value) c
    let far := carryOut (overChannel factory.recorded) (.resume value) d
    (∃ outcome, near.2.world.world.events =
        c.world.world.events ++ [.call built.builtAt (.drive (.resume value)) outcome]) ∧
      far.2.world.channel.link.server.world = c.world.world ∧
      far.1 = .error (.channel (.envelope .noId)) := by
  intro near far
  constructor
  · have hworld : near.2.world =
        (Worker.ask factory.recorded (.drive (.resume value)) c.world).2 := by
      change (carryOut (Worker.backend factory.recorded) (.resume value) c).2.world = _
      rw [carryOut_resume _ hactive, advance_apply, settle_world, ask_world]
      rfl
    rw [hworld]
    exact ask_events_of_engine hengine _
  · have hactive' : d.lifecycle = .active := hagrees.lifecycle.trans hactive
    obtain ⟨after, hsend, hafter⟩ := hagrees.mirrors.send_unread factory.recorded
      ((isLegible_resumeParams value deep).trans hdeep)
      ((isLegible_resumeParams value (Request.depth - 1)).trans htooDeep)
    have hcall : (overChannel factory.recorded).call (.drive (.resume value)) d.world =
        (.error (.channel (.envelope .noId)), after) := by
      simp only [overChannel, Remote.backend, hsend]
      rfl
    obtain ⟨id, hchannel⟩ := hafter.channel
    have hasked : (ask (overChannel factory.recorded) (.drive (.resume value)) d).1 =
        .error (.channel (.envelope .noId)) := by
      rw [ask_outcome, hcall]
    have hfar : far = carryOut (overChannel factory.recorded) (.resume value) d := rfl
    rw [hfar, carryOut_resume _ hactive', advance_apply, settle_world, ask_world, hasked, hcall,
      hchannel]
    exact ⟨rfl, rfl⟩

/-! ## Runs -/

section Runs

variable (factory : Engine.Factory ι ω) (config : Config) (world : ω)

/-- A context over a worker after some operations, the latest of which stands first. -/
def nearAfter (past : List Operation) :
    Context (Worker (Engine.Instance ι) (Recorded Engine.Event ω)) :=
  after (Worker.backend factory.recorded) (fresh config (Worker.idle (Recorded.fresh world))) past

/-- The outcomes of operations on a context over a worker, the latest of which stands first. -/
def nearOutcomes (past : List Operation) : List (Operation × Except Failure AnyAnswer) :=
  outcomes (Worker.backend factory.recorded) (fresh config (Worker.idle (Recorded.fresh world)))
    past

/-- A server that no engine was asked for, at the far end of a channel on which nothing was sent. -/
def unsent : Remote (Ndjson (Connection (Engine.Instance ι) (Recorded Engine.Event ω))) :=
  Remote.idle (Ndjson.fresh (Connection.fresh (Server.idle (Recorded.fresh world))) [])

/-- A context over a channel after some operations, the latest of which stands first. -/
def farAfter (past : List Operation) :
    Context (Remote (Ndjson (Connection (Engine.Instance ι) (Recorded Engine.Event ω)))) :=
  after (overChannel factory.recorded) (fresh config (unsent world)) past

/-- The outcomes of operations on a context over a channel, the latest of which stands first. -/
def farOutcomes (past : List Operation) : List (Operation × Except Failure AnyAnswer) :=
  outcomes (overChannel factory.recorded) (fresh config (unsent world)) past

/-- Runs of operations, one of each pair on either context and the latest pair first, in which all
data is legible. -/
structure LegibleRun (past : List (Operation × Operation)) : Prop where
  /-- The operations of a pair match. -/
  matched : ∀ p ∈ past, p.1.Matches p.2
  /-- What the operations bring is legible. -/
  asked : ∀ p ∈ past, p.1.isLegible = true
  /-- What the engines answered is legible. -/
  answered : AllLegible (nearAfter factory config world (past.map Prod.fst)).world.world

/-- The record of the factory grows with the operations. -/
lemma nearAfter_extends {earlier past : List Operation} (h : earlier <:+ past) :
    (nearAfter factory config world earlier).world.world.events <+:
      (nearAfter factory config world past).world.world.events := by
  induction past with
  | nil =>
    obtain rfl := List.suffix_nil.mp h
    exact List.prefix_rfl
  | cons op past ih =>
    rcases List.suffix_cons_iff.mp h with rfl | h
    · exact List.prefix_rfl
    · exact (ih h).trans (carryOut_extends factory op _)

variable {factory config world} {past : List (Operation × Operation)}

/-- What is legible in a run was legible at every time of the run. -/
lemma LegibleRun.of_suffix (h : LegibleRun factory config world past)
    {earlier : List (Operation × Operation)} (hearlier : earlier <:+ past) :
    LegibleRun factory config world earlier where
  matched p hp := h.matched p (hearlier.subset hp)
  asked p hp := h.asked p (hearlier.subset hp)
  answered event hevent :=
    h.answered event ((nearAfter_extends factory config world (hearlier.map _)).subset hevent)

/-- Legible runs keep the contexts in step.

**Proof sketch.** By induction on the operations. The fresh contexts agree. -/
lemma inStep_after (h : LegibleRun factory config world past) :
    InStep (nearAfter factory config world (past.map Prod.fst))
      (farAfter factory config world (past.map Prod.snd)) := by
  induction past with
  | nil =>
    exact .inl
      { mirrors := ⟨⟨1, rfl⟩, rfl, rfl, fun _ => rfl⟩
        config := rfl
        lifecycle := rfl
        initialized := rfl
        seen := rfl
        outstanding := rfl
        live := nofun }
  | cons p past ih =>
    have hbefore := ih (h.of_suffix (List.suffix_cons p past))
    exact (inStep_carryOut (vouches_allLegible factory) (h.matched p List.mem_cons_self)
      (h.asked p List.mem_cons_self) hbefore h.answered).2

/-- **The two backends are interchangeable.** Whatever the factory and its engines do, in every
legible run the factory and its engines are asked the same and the contexts are in the same state,
at every time of the run, and all operations have outcomes that are alike.

**Proof sketch.** By induction on the operations, with the step of `inStep_carryOut`. -/
theorem backends_interchangeable (h : LegibleRun factory config world past) :
    (∀ earlier, earlier <:+ past →
      let near := nearAfter factory config world (earlier.map Prod.fst)
      let far := farAfter factory config world (earlier.map Prod.snd)
      far.world.channel.link.server.world = near.world.world ∧
        far.lifecycle = near.lifecycle ∧ far.initialized = near.initialized) ∧
      List.Forall₂ (fun near far => Alike AnyAnswer.Alike near.2 far.2)
        (nearOutcomes factory config world (past.map Prod.fst))
        (farOutcomes factory config world (past.map Prod.snd)) := by
  refine ⟨fun earlier hearlier => (inStep_after (h.of_suffix hearlier)).same, ?_⟩
  induction past with
  | nil => exact .nil
  | cons p past ih =>
    have hbefore := h.of_suffix (List.suffix_cons p past)
    exact .cons (inStep_carryOut (vouches_allLegible factory) (h.matched p List.mem_cons_self)
      (h.asked p List.mem_cons_self) (inStep_after hbefore) h.answered).1 (ih hbefore)

/-- **Where the contexts part.** When a suspended execution is resumed behind a legible run with a
value that nests too deep, the engine of the worker is asked, while the engine behind the channel is
not and the operation fails. -/
theorem parting_of_tooDeep (h : LegibleRun factory config world past)
    (hactive : (nearAfter factory config world (past.map Prod.fst)).lifecycle = .active)
    {built : Engine.Instance ι}
    (hengine : (nearAfter factory config world (past.map Prod.fst)).world.engine = some built)
    {value : Json} {deep : Nat} (hdeep : value.isLegible deep = true)
    (htooDeep : value.isLegible (Request.depth - 1) = false) :
    let before := nearAfter factory config world (past.map Prod.fst)
    let near := nearAfter factory config world (.resume value :: past.map Prod.fst)
    let far := farAfter factory config world (.resume value :: past.map Prod.snd)
    (∃ outcome, near.world.world.events =
        before.world.world.events ++ [.call built.builtAt (.drive (.resume value)) outcome]) ∧
      far.world.channel.link.server.world = before.world.world ∧
      (farOutcomes factory config world (.resume value :: past.map Prod.snd)).head? =
        some (.resume value, .error (.channel (.envelope .noId))) := by
  rcases inStep_after h with hagrees | hended
  · obtain ⟨hnear, hfar, hfailed⟩ := resume_tooDeep hagrees hactive hengine hdeep htooDeep
    exact ⟨hnear, hfar, congrArg (fun failed => some (Operation.resume value, failed)) hfailed⟩
  · cases hended.near.symm.trans hactive

end Runs

/-! ## Two runs -/

/-- The factory of engines that offer everything and follow a script. -/
def scripted : Engine.Factory Unit Scripted.EngineScript :=
  Scripted.factory ⟨true, true, true, true⟩

/-- The progress of an execution that waits for a call. -/
def waiting : Scripted.EngineReply :=
  .progress (.pending ⟨"fetch", [], none, 1, false⟩)

/-- The progress of an execution that is complete. -/
def finished : Progress :=
  .complete (.success .null .zero)

/-- A script is started. -/
def begun : Operation :=
  .start ⟨⟨"fetch()", none, none⟩, .empty⟩ ["fetch"]

/-- A script is started, resumed, started and resumed again; the latest operation stands first. -/
def startedTwice : List Operation :=
  [.dispose, .resume (.bool true), begun, .resume .null, begun]

/-- An engine that panics when it is resumed for the first time. -/
def panicking : Scripted.EngineScript :=
  ⟨[], [waiting, .panic ⟨some "gone"⟩, waiting, .progress finished]⟩

/-- Behind the channel the engine is built anew after the panic, and the execution goes on. -/
theorem startedTwice_far :
    (farAfter scripted .standard panicking
        startedTwice).world.channel.link.server.world.events.length = 6 ∧
      (farAfter scripted .standard panicking startedTwice).lifecycle = .disposed := by
  have hrun : LegibleRun scripted .standard panicking (startedTwice.map fun op => (op, op)) :=
    { matched := by simp [startedTwice, begun, Operation.Matches]
      asked := by decide
      answered := by
        unfold AllLegible
        decide }
  obtain ⟨hsame, -⟩ := backends_interchangeable hrun
  obtain ⟨hworld, hlifecycle, -⟩ := hsame _ List.suffix_rfl
  have hfar : (startedTwice.map fun op => (op, op)).map Prod.snd = startedTwice := rfl
  rw [hfar] at hworld hlifecycle
  rw [hworld, hlifecycle]
  decide

/-- Null inside arrays of one item. -/
def nested : Nat → Json
  | 0 => .null
  | n + 1 => .arr [nested n]

/-- Arrays inside arrays are legible to the depth to which they nest. -/
lemma isLegible_nested (n depth : Nat) : (nested n).isLegible depth = decide (n ≤ depth) := by
  induction n generalizing depth with
  | zero => simp [nested]
  | succ n ih =>
    rcases depth with _ | depth
    · simp [nested, Json.isLegible]
    · simp [nested, Json.isLegible, Json.areLegible, ih]

/-- An engine that waits for one call. -/
def patient : Scripted.EngineScript :=
  ⟨[], [waiting, .progress finished]⟩

/-- Resumed with a value that nests too deep, the execution is complete on a worker and fails on a
channel, where the engine is not asked. -/
theorem nested_parts :
    (nearAfter scripted .standard patient [.resume (nested 126), begun]).world.world.events.length
        = 3 ∧
      (nearOutcomes scripted .standard patient [.resume (nested 126), begun]).head? =
        some (.resume (nested 126), .ok (.progress finished)) ∧
      (farAfter scripted .standard patient
        [.resume (nested 126), begun]).world.channel.link.server.world.events.length = 2 ∧
      (farOutcomes scripted .standard patient [.resume (nested 126), begun]).head? =
        some (.resume (nested 126), .error (.channel (.envelope .noId))) := by
  have hrun : LegibleRun scripted .standard patient [(begun, begun)] :=
    { matched := by simp [begun, Operation.Matches]
      asked := by decide
      answered := by
        unfold AllLegible
        decide }
  have hbegun : (nearAfter scripted .standard patient [begun]).world.world.events.length = 2 := by
    decide
  have hengine : (nearAfter scripted .standard patient [begun]).world.engine = some ⟨(), 0⟩ := by
    decide
  have hdeep : (nested 126).isLegible 126 = true := by
    rw [isLegible_nested]
    decide
  have htooDeep : (nested 126).isLegible (Request.depth - 1) = false := by
    rw [isLegible_nested]
    decide
  obtain ⟨⟨outcome, hnear⟩, hfar, hfailed⟩ :=
    parting_of_tooDeep hrun (by decide) hengine hdeep htooDeep
  refine ⟨?_, rfl, ?_, hfailed⟩
  · exact (congrArg List.length hnear).trans (by simp [hbegun])
  · exact (congrArg (fun world => world.events.length) hfar).trans hbegun

end ScriptHost.Context
