import ScriptHost.Engine.Capabilities
import ScriptHost.Execution.Script
import ScriptHost.Failure
import ScriptHost.Recorded

/-!
# Engines

An engine runs scripts. It is asked one call at a time, and either answers or panics; what it
refuses is an answer, and so is an error that a script raises. Engines are built by a factory, which
may refuse or panic as well.

An engine is named by a handle, and all that changes is in a world that the factory and its engines
share. So the laws about engines hold for every way in which engines may depend on each other and on
the past.

## Main definitions

* `ScriptHost.Engine.Call`, `ScriptHost.Engine.Call.Answer` — what an engine is asked, and what
  kind of answer a call has.
* `ScriptHost.Engine.Factory` — builds engines and asks them.
* `ScriptHost.Engine.Factory.setUp` — an engine and what it offers.
* `ScriptHost.Engine.Event`, `ScriptHost.Engine.Factory.recorded` — the same factory with a record
  of what it was asked, in which engines are told apart.
* `ScriptHost.Engine.Factory.required`, `ScriptHost.Engine.Factory.modest` — the same factory
  without the optional calls, and without capabilities.
-/

namespace ScriptHost.Engine

/-! ## Calls -/

/-- What an engine is asked. -/
inductive Call where
  /-- Runs a script to its end. -/
  | run (script : Script String)
  /-- Drives an execution. -/
  | drive (step : Step String)
  /-- Captures the state. -/
  | snapshot
  /-- Puts a captured state in place of the present one. -/
  | restore (bytes : List UInt8)
  /-- Reports the global names that the last run left behind. -/
  | globals
deriving DecidableEq

namespace Call

/-- The kind of answer that a call has. An engine refuses nothing when it runs a script. -/
abbrev Answer : Call → Type
  | run _ => RunResult
  | drive _ => Except EngineFault Progress
  | snapshot => Except EngineFault (List UInt8)
  | restore _ => Except EngineFault Unit
  | globals => Except EngineFault Globals

end Call

/-! ## Factories -/

/-- The end of an engine that broke down, with what it said. -/
structure Panic where
  /-- The text, if there is one. -/
  text : Option String
deriving DecidableEq

/-- The wording of a panic. -/
def Panic.message (panic : Panic) : String :=
  panic.text.getD "unknown panic"

/-- Why no engine was built. -/
inductive BuildFault where
  /-- The factory refused. -/
  | refused (reason : String)
  /-- The factory panicked. -/
  | panicked (panic : Panic)
deriving DecidableEq

/-- Builds engines and asks them. -/
structure Factory (ι ω : Type) where
  /-- Builds an engine. -/
  build : ω → Except BuildFault ι × ω
  /-- Asks an engine what it offers. -/
  capabilities : ι → ω → Except Panic Capabilities
  /-- Asks an engine. -/
  call : ι → (c : Call) → ω → Except Panic c.Answer × ω

/-! ## Records -/

/-- What a factory was asked, and what came of it. -/
inductive Event where
  /-- To build an engine. -/
  | build (outcome : Except BuildFault Unit)
  /-- To ask the engine that was built as the event with a number. -/
  | call (builtAt : Nat) (call : Call) (outcome : Except Panic call.Answer)

/-- An engine, and the number of the event that built it. -/
structure Instance (ι : Type) where
  /-- The engine. -/
  engine : ι
  /-- The number of events before it was built, which no other engine has. -/
  builtAt : Nat
deriving DecidableEq

namespace Factory

variable {ι ω : Type}

/-- Builds an engine and asks it what it offers. An engine that panics then is dropped. -/
def setUp (factory : Factory ι ω) (world : ω) : Except BuildFault (ι × Capabilities) × ω :=
  match factory.build world with
  | (.ok engine, world) =>
    match factory.capabilities engine world with
    | .ok capabilities => (.ok (engine, capabilities), world)
    | .error panic => (.error (.panicked panic), world)
  | (.error fault, world) => (.error fault, world)

/-- The factory with a record of what it was asked. -/
def recorded (factory : Factory ι ω) : Factory (Instance ι) (Recorded Event ω) where
  build recorded :=
    let (outcome, after) :=
      Recorded.after (fun outcome => .build (outcome.map fun _ => ())) factory.build recorded
    (outcome.map fun engine => ⟨engine, recorded.events.length⟩, after)
  capabilities built recorded := factory.capabilities built.engine recorded.world
  call built c := Recorded.after (.call built.builtAt c) (factory.call built.engine c)

/-! ## Required calls -/

/-- The factory whose engines have the required calls only; the others are refused without asking
the engine. -/
def required (factory : Factory ι ω) : Factory ι ω where
  build := factory.build
  capabilities := factory.capabilities
  call engine
    | .run script, world => factory.call engine (.run script) world
    | .drive step, world =>
      if step.needsFutures then (.ok (.error (.unsupported step.word)), world)
      else factory.call engine (.drive step) world
    | .snapshot, world => (.ok (.error (.unsupported "snapshot")), world)
    | .restore _, world => (.ok (.error (.unsupported "restore")), world)
    | .globals, world => (.ok (.error (.unsupported "globals")), world)

/-- The factory whose engines offer nothing beyond the required calls. -/
def modest (factory : Factory ι ω) : Factory ι ω :=
  { factory with capabilities := fun _ _ => .ok .none }

end Factory

end ScriptHost.Engine
