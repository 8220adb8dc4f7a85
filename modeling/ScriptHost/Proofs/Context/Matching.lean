import ScriptHost.Proofs.Context.Disposal
import ScriptHost.Proofs.Context.Simulation
import ScriptHost.Proofs.Snapshot.Envelope

/-!
# Operations on contexts over two backends

Operations that match, one on a context over a worker and one on a context over a channel, have
outcomes that are alike and leave contexts in step, as long as what they bring and what the engine
answers is legible. The two operations are the same, but for the seals of a state that is to be
restored: every backend opens its own seals only.

## Main definitions

* `ScriptHost.Context.Operation.Matches` — operations that are the same on both backends.
* `ScriptHost.Context.AnyAnswer.Alike` — answers that say the same.
* `ScriptHost.Context.InStep` — contexts that agree, or are both disposed.

## Main results

* `ScriptHost.Context.simulates_carryOut` — matching operations simulate each other.
* `ScriptHost.Context.ended_dispose` — a disposal ends both contexts.
* `ScriptHost.Context.inStep_carryOut` — matching operations keep contexts in step.
-/

namespace ScriptHost.Context

open Backend

variable {ι ω : Type}

/-! ## Answers and operations that match -/

/-- Sealed states of the two backends with the same payload. -/
def SealsSame (near far : List UInt8) : Prop :=
  ∃ payload, payloadOf Worker.backendName near = .ok payload ∧
    payloadOf Remote.backendName far = .ok payload

/-- Bytes that are sealed states with the same payload, or are refused alike. -/
def SameState (near far : List UInt8) : Prop :=
  Alike (fun p q => q = p) ((payloadOf Worker.backendName near).mapError .snapshot)
    ((payloadOf Remote.backendName far).mapError .snapshot)

/-- Answers that say the same. Sealed states are compared by their payloads, results and progress
by their normal forms. -/
def AnyAnswer.Alike : AnyAnswer → AnyAnswer → Prop
  | result near, result far => far = near.norm
  | progress near, progress far => far = near.norm
  | bytes near, bytes far => SealsSame near far
  | near, far => far = near

/-- Operations that are the same, but for the seals of states that are to be restored. -/
def Operation.Matches : Operation → Operation → Prop
  | restore near, restore far => SameState near far
  | near, far => far = near

/-- Whether the data that an operation brings is read back from a request. -/
def Operation.isLegible (op : Operation) : Bool :=
  op.step?.all Step.isLegible

section Operations

variable {good : ω → Prop} {factory : Engine.Factory ι ω}

/-! ## Operations over both backends -/

lemma alwaysSimulates_prepare (operation : String) (submission : Submission) :
    AlwaysSimulates (fun a b => b = a ∧ a.name.isSome = true)
      (prepare (Worker.backend factory) operation submission)
      (prepare (overChannel factory) operation submission) := by
  unfold prepare
  refine (alwaysSimulates_require operation [.idle]).bind fun _ _ _ => ?_
  by_cases hinputs : submission.inputs.isEmpty = true
  · simp only [hinputs, if_true]
    refine alwaysSimulates_init.bind fun _ _ _ => alwaysSimulates_get.bind fun c d hagrees => ?_
    exact simulates_pure ⟨by rw [hagrees.config], rfl⟩
  · simp only [hinputs]
    exact simulates_throw trivial

/-- A record of a result is read as the result in its normal form. -/
lemma alike_runResult {near far : Reply RunResult}
    (h : ∃ result, near = .typed result ∧ far = .record result.toRecord) :
    Alike (fun a b => b = a.norm) (valueOf Record.runResult near)
      (valueOf Record.runResult far) := by
  obtain ⟨result, rfl, rfl⟩ := h
  have hread : valueOf Record.runResult (.record result.toRecord) = .ok result.norm := by
    rw [valueOf, Reply.value, Record.runResult_toRecord]
    rfl
  rw [hread]
  rfl

lemma simulates_run (hgood : Vouches factory good) (submission : Submission) :
    Simulates good (fun a b => b = a.norm) (run (Worker.backend factory) submission)
      (run (overChannel factory) submission) := by
  refine (alwaysSimulates_prepare "run" submission).bind fun _ script hscript => ?_
  obtain ⟨rfl, hnamed⟩ := hscript
  exact (simulates_ask hgood (.run script) rfl hnamed rfl).read
    (fun a c => by rw [ofExcept_apply]) fun near far h => simulates_ofExcept (alike_runResult h)

lemma simulates_start (hgood : Vouches factory good) (submission : Submission)
    (functions : List String) :
    Simulates good (fun a b => b = a.norm) (start (Worker.backend factory) submission functions)
      (start (overChannel factory) submission functions) := by
  refine (alwaysSimulates_prepare "start" submission).bind fun _ script hscript => ?_
  obtain ⟨rfl, hnamed⟩ := hscript
  refine (alwaysSimulates_modify fun c d hagrees => ?_).bind fun _ _ _ =>
    simulates_advance hgood rfl hnamed
  exact { hagrees with seen := rfl, outstanding := rfl }

lemma simulates_resume (hgood : Vouches factory good) {value : Json}
    (h : (Operation.resume value).isLegible = true) :
    Simulates good (fun a b => b = a.norm) (resume (Worker.backend factory) value)
      (resume (overChannel factory) value) :=
  (alwaysSimulates_require "resume" [.active]).bind fun _ _ _ => simulates_advance hgood h rfl

lemma simulates_raise (hgood : Vouches factory good) (message : String) :
    Simulates good (fun a b => b = a.norm) (raise (Worker.backend factory) message)
      (raise (overChannel factory) message) :=
  (alwaysSimulates_require "resume_with_error" [.active]).bind fun _ _ _ =>
    simulates_advance hgood rfl rfl

lemma simulates_postpone (hgood : Vouches factory good) :
    Simulates good (fun a b => b = a.norm) (postpone (Worker.backend factory))
      (postpone (overChannel factory)) :=
  (alwaysSimulates_require "resume_as_future" [.active]).bind fun _ _ _ =>
    (alwaysSimulates_demand Capabilities.futures "resume_as_future").bind fun _ _ _ =>
      simulates_advance hgood rfl rfl

lemma simulates_resolve (hgood : Vouches factory good) {answers : Answers}
    (h : (Operation.resolve answers).isLegible = true) :
    Simulates good (fun a b => b = a.norm) (resolve (Worker.backend factory) answers)
      (resolve (overChannel factory) answers) := by
  refine (alwaysSimulates_require "resolve_futures" [.active]).bind fun _ _ _ =>
    (alwaysSimulates_demand Capabilities.futures "resolve_futures").bind fun _ _ _ =>
      alwaysSimulates_get.bind fun c d hagrees => ?_
  rw [hagrees.outstanding]
  cases answersFault? c.outstanding answers with
  | some fault => exact simulates_throw rfl
  | none => exact simulates_advance hgood h rfl

/-- A state that a backend with a short name sealed is opened again. -/
lemma exists_sealed (name : String) (h : (Text.bytes name).length < Envelope.nameBound)
    (payload : List UInt8) :
    ∃ sealed, Envelope.toBytes Blake3.digest ⟨name, payload⟩ = .ok sealed ∧
      payloadOf name sealed = .ok payload := by
  have hsealed : Envelope.toBytes Blake3.digest ⟨name, payload⟩ =
      .ok (Envelope.layout Blake3.digest (Text.bytes name) payload) := by
    unfold Envelope.toBytes
    rw [if_pos h]
  have hverify : (Envelope.mk name payload).verify name = .ok () := if_pos rfl
  refine ⟨_, hsealed, ?_⟩
  rw [payloadOf, Envelope.ofBytes_toBytes hsealed]
  change (do
    (Envelope.mk name payload).verify name
    return payload : Except SnapshotFault (List UInt8)) = _
  rw [hverify]
  rfl

/-- A state that is sealed by both backends has the same payload. -/
lemma alike_sealed (payload : List UInt8) :
    Alike SealsSame
      ((Envelope.toBytes Blake3.digest ⟨Worker.backendName, payload⟩).mapError fun fault =>
        Failure.snapshot (.captureFailed fault))
      ((Envelope.toBytes Blake3.digest ⟨Remote.backendName, payload⟩).mapError fun fault =>
        Failure.snapshot (.captureFailed fault)) := by
  obtain ⟨near, hnear, hnearOpened⟩ := exists_sealed Worker.backendName (by decide) payload
  obtain ⟨far, hfar, hfarOpened⟩ := exists_sealed Remote.backendName (by decide) payload
  rw [hnear, hfar]
  exact ⟨payload, hnearOpened, hfarOpened⟩

lemma simulates_snapshot (hgood : Vouches factory good) :
    Simulates good SealsSame (snapshot (Worker.backend factory))
      (snapshot (overChannel factory)) := by
  unfold snapshot
  refine (alwaysSimulates_require "snapshot" [.active, .idle]).bind fun _ _ _ =>
    alwaysSimulates_get.bind fun c d hagrees => alwaysSimulates_get.bind fun c' d' hagrees' => ?_
  rw [hagrees.lifecycle, hagrees'.initialized]
  refine (alwaysSimulates_requireUnlessIdle c.lifecycle c'.initialized).bind fun _ _ _ =>
    alwaysSimulates_init.bind fun _ _ _ =>
      (alwaysSimulates_demand Capabilities.snapshot "snapshot").bind fun _ _ _ =>
        alwaysSimulates_get.bind fun c'' d'' hagrees'' => ?_
  have hoffers : (overChannel factory).offers d''.world =
      (Worker.backend factory).offers c''.world := hagrees''.mirrors.capabilities
  rw [hoffers]
  refine (alwaysSimulates_requireUnlessIdle c.lifecycle _).bind fun _ _ _ =>
    (simulates_ask hgood .snapshot rfl rfl rfl).read
      (fun a c => by rw [ofExcept_apply]) fun near far h => ?_
  obtain rfl : far = near := h
  exact simulates_ofExcept (alike_sealed far)

lemma simulates_restore (hgood : Vouches factory good) {near far : List UInt8}
    (h : SameState near far) :
    Simulates good (fun _ _ => True) (restore (Worker.backend factory) near)
      (restore (overChannel factory) far) := by
  unfold restore
  refine (alwaysSimulates_require "restore" [.idle]).bind fun _ _ _ =>
    AlwaysSimulates.bind (simulates_ofExcept h) fun _ payload hpayload => ?_
  obtain rfl := hpayload
  refine alwaysSimulates_init.bind fun _ _ _ =>
    (alwaysSimulates_demand Capabilities.snapshot "restore").bind fun _ _ _ =>
      (simulates_ask hgood (.restore payload) rfl rfl rfl).read (fun _ _ => rfl)
        fun _ _ _ => alwaysSimulates_modify fun c d hagrees => ?_
  exact { hagrees with lifecycle := rfl, seen := rfl, outstanding := rfl, live := nofun }

lemma simulates_globals (hgood : Vouches factory good) :
    Simulates good (fun a b => b = a) (globals (Worker.backend factory))
      (globals (overChannel factory)) := by
  unfold globals
  refine (alwaysSimulates_require "globals" [.idle]).bind fun _ _ _ =>
    alwaysSimulates_get.bind fun c d hagrees => ?_
  rw [hagrees.initialized]
  split
  · refine (alwaysSimulates_demand Capabilities.globals "globals").bind fun _ _ _ =>
      (simulates_ask hgood .globals rfl rfl rfl).read
        (fun a c => by rw [ofExcept_apply]) fun near far h => simulates_ofExcept ?_
    obtain ⟨names, rfl, rfl⟩ := h
    have hread : valueOf Record.globals (.record names.toRecord) = .ok names := by
      rw [valueOf, Reply.value, Record.globals_toRecord]
      rfl
    rw [hread]
    rfl
  · exact simulates_pure rfl

lemma alwaysSimulates_supportsGlobals :
    AlwaysSimulates (fun a b => b = a) (supportsGlobals (Worker.backend factory))
      (supportsGlobals (overChannel factory)) := by
  refine alwaysSimulates_init.bind fun _ _ _ => alwaysSimulates_get.bind fun c d hagrees => ?_
  have hoffers : (overChannel factory).offers d.world = (Worker.backend factory).offers c.world :=
    hagrees.mirrors.capabilities
  rw [hoffers]
  exact simulates_pure rfl

/-- The answer to an operation as one of any kind. -/
lemma Simulates.carryOut {op op' : Operation} {values : op.Answer → op'.Answer → Prop}
    (h : Simulates good values (perform (Worker.backend factory) op)
      (perform (overChannel factory) op'))
    (hvalues : ∀ a b, values a b → (op.anyAnswer a).Alike (op'.anyAnswer b)) :
    Simulates good AnyAnswer.Alike (carryOut (Worker.backend factory) op)
      (carryOut (overChannel factory) op') := by
  intro c d hagrees hworld
  rw [Context.carryOut, map_apply] at hworld
  obtain ⟨halike, hafter⟩ := h c d hagrees hworld
  rw [Context.carryOut, Context.carryOut, map_apply, map_apply]
  exact ⟨halike.map hvalues, hafter⟩

/-- Operations that match have outcomes that are alike, and leave contexts that agree. -/
lemma simulates_carryOut (hgood : Vouches factory good) {op op' : Operation}
    (hmatches : op.Matches op') (hlegible : op.isLegible = true) (hop : op ≠ .dispose) :
    Simulates good AnyAnswer.Alike (carryOut (Worker.backend factory) op)
      (carryOut (overChannel factory) op') := by
  cases op with
  | init =>
    obtain rfl : op' = .init := hmatches
    exact alwaysSimulates_init.simulates.carryOut fun _ _ _ => rfl
  | run submission =>
    obtain rfl : op' = .run submission := hmatches
    exact (simulates_run hgood submission).carryOut fun _ _ h => h
  | start submission functions =>
    obtain rfl : op' = .start submission functions := hmatches
    exact (simulates_start hgood submission functions).carryOut fun _ _ h => h
  | resume value =>
    obtain rfl : op' = .resume value := hmatches
    exact (simulates_resume hgood hlegible).carryOut fun _ _ h => h
  | raise message =>
    obtain rfl : op' = .raise message := hmatches
    exact (simulates_raise hgood message).carryOut fun _ _ h => h
  | postpone =>
    obtain rfl : op' = .postpone := hmatches
    exact (simulates_postpone hgood).carryOut fun _ _ h => h
  | resolve answers =>
    obtain rfl : op' = .resolve answers := hmatches
    exact (simulates_resolve hgood hlegible).carryOut fun _ _ h => h
  | snapshot =>
    obtain rfl : op' = .snapshot := hmatches
    exact (simulates_snapshot hgood).carryOut fun _ _ h => h
  | restore near =>
    cases op' with
    | restore far => exact (simulates_restore hgood hmatches).carryOut fun _ _ _ => rfl
    | _ => cases hmatches
  | globals =>
    obtain rfl : op' = .globals := hmatches
    exact (simulates_globals hgood).carryOut fun _ _ h => congrArg AnyAnswer.globals h
  | supportsGlobals =>
    obtain rfl : op' = .supportsGlobals := hmatches
    exact alwaysSimulates_supportsGlobals.simulates.carryOut fun _ _ h => congrArg AnyAnswer.flag h
  | dispose => exact absurd rfl hop

/-! ## The end -/

/-- Contexts that are disposed, with the same world of the factory. -/
structure Ended (c : Context (Worker ι ω)) (d : Context (Remote (Ndjson (Connection ι ω)))) :
    Prop where
  /-- The first context is disposed. -/
  near : c.lifecycle = .disposed
  /-- The second context is disposed. -/
  far : d.lifecycle = .disposed
  /-- Both count as initialized, or neither. -/
  initialized : d.initialized = c.initialized
  /-- The world of the factory is the same. -/
  world : d.world.channel.link.server.world = c.world.world

/-- What becomes of contexts that are released together. -/
lemma ended_released (c : Context (Worker ι ω)) (d : Context (Remote (Ndjson (Connection ι ω))))
    {near : Except Failure Unit × Worker ι ω}
    {far : Except Failure Unit × Remote (Ndjson (Connection ι ω))}
    (h : Mirrors.Released c.world.world near far) :
    Alike AnyAnswer.Alike (near.1.map fun _ => .nothing) (far.1.map fun _ => .nothing) ∧
      Ended (c.released near.2) (d.released far.2) :=
  ⟨h.1.map fun _ _ _ => rfl, rfl, rfl, rfl, h.2.2.trans h.2.1.symm⟩

variable (factory) in
/-- Contexts that agree are disposed alike. -/
lemma ended_dispose {c : Context (Worker ι ω)} {d : Context (Remote (Ndjson (Connection ι ω)))}
    (hagrees : Agrees c d) :
    Alike AnyAnswer.Alike (carryOut (Worker.backend factory) .dispose c).1
        (carryOut (overChannel factory) .dispose d).1 ∧
      Ended (carryOut (Worker.backend factory) .dispose c).2
        (carryOut (overChannel factory) .dispose d).2 := by
  rw [carryOut_dispose _ hagrees.live, carryOut_dispose _ (hagrees.lifecycle ▸ hagrees.live),
    hagrees.initialized]
  have hreleased : Mirrors.Released c.world.world
      ((Worker.backend factory).call .dispose c.world)
      ((overChannel factory).call .dispose d.world) := hagrees.mirrors.dispose
  generalize (Worker.backend factory).call .dispose c.world = near at hreleased ⊢
  generalize (overChannel factory).call .dispose d.world = far at hreleased ⊢
  split
  · exact ended_released c d hreleased
  · obtain ⟨id, hchannel⟩ := hagrees.mirrors.channel
    refine ⟨rfl, rfl, rfl, rfl, ?_⟩
    change d.world.channel.link.server.world = c.world.world
    rw [hchannel]
    rfl

end Operations

/-! ## Steps -/

/-- Contexts that agree, or are both disposed. -/
def InStep (c : Context (Worker ι ω)) (d : Context (Remote (Ndjson (Connection ι ω)))) : Prop :=
  Agrees c d ∨ Ended c d

/-- Contexts in step are in the same state, over the same world of the factory. -/
lemma InStep.same {c : Context (Worker ι ω)} {d : Context (Remote (Ndjson (Connection ι ω)))}
    (h : InStep c d) :
    d.world.channel.link.server.world = c.world.world ∧ d.lifecycle = c.lifecycle ∧
      d.initialized = c.initialized := by
  rcases h with hagrees | hended
  · obtain ⟨id, hchannel⟩ := hagrees.mirrors.channel
    refine ⟨?_, hagrees.lifecycle, hagrees.initialized⟩
    rw [hchannel]
    rfl
  · exact ⟨hended.world, hended.far.trans hended.near.symm, hended.initialized⟩

/-- Operations that match are refused alike by disposed contexts. -/
lemma Operation.Matches.onceDisposed_eq {op op' : Operation} (h : op.Matches op') :
    op'.onceDisposed = op.onceDisposed ∧ (op' = .dispose ↔ op = .dispose) := by
  cases op with
  | restore near =>
    cases op' with
    | restore far => exact ⟨rfl, by simp⟩
    | _ => cases h
  | _ =>
    obtain rfl := h
    exact ⟨rfl, Iff.rfl⟩

/-- Operations that match have outcomes that are alike in contexts in step, and leave contexts in
step.

**Proof sketch.** Contexts that agree carry out a disposal as `ended_dispose` tells and everything
else as `simulates_carryOut` does. Disposed contexts refuse everything. -/
theorem inStep_carryOut {good : ω → Prop} {factory : Engine.Factory ι ω}
    (hgood : Vouches factory good) {op op' : Operation} (hmatches : op.Matches op')
    (hlegible : op.isLegible = true) {c : Context (Worker ι ω)}
    {d : Context (Remote (Ndjson (Connection ι ω)))} (h : InStep c d)
    (hworld : good (carryOut (Worker.backend factory) op c).2.world.world) :
    Alike AnyAnswer.Alike (carryOut (Worker.backend factory) op c).1
        (carryOut (overChannel factory) op' d).1 ∧
      InStep (carryOut (Worker.backend factory) op c).2
        (carryOut (overChannel factory) op' d).2 := by
  obtain ⟨honceDisposed, hdispose⟩ := hmatches.onceDisposed_eq
  rcases h with hagrees | hended
  · by_cases hop : op = .dispose
    · obtain rfl : op' = .dispose := hdispose.mpr hop
      subst hop
      obtain ⟨halike, hafter⟩ := ended_dispose factory hagrees
      exact ⟨halike, .inr hafter⟩
    · obtain ⟨halike, hafter⟩ := simulates_carryOut hgood hmatches hlegible hop c d hagrees hworld
      exact ⟨halike, .inl hafter⟩
  · rw [carryOut_of_disposed hended.near, carryOut_of_disposed hended.far, honceDisposed]
    refine ⟨?_, .inr hended⟩
    unfold Operation.onceDisposed
    split <;> rfl

end ScriptHost.Context
