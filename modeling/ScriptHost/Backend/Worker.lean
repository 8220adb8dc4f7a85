import ScriptHost.Backend.Basic
import ScriptHost.Engine.Basic

/-!
# Engines on a worker

This backend runs an engine on a worker in the same process. Values pass in both directions as they
are. A worker whose engine panics is gone, and the next initialization starts another one.

## Main definitions

* `ScriptHost.Worker` — a factory's world and the worker that runs.
* `ScriptHost.Worker.backend` — the backend over a factory.
-/

namespace ScriptHost

/-- A factory's world and the worker that runs. -/
structure Worker (ι ω : Type) where
  /-- The world of the factory. -/
  world : ω
  /-- The engine of the worker, when there is a worker. -/
  engine : Option ι
  /-- What the engine offers, and nothing when there is none. -/
  capabilities : Capabilities

namespace Worker

variable {ι ω : Type}

/-- No worker yet. -/
def idle (world : ω) : Worker ι ω :=
  ⟨world, none, .none⟩

/-- The name of the backend. -/
def backendName : String := "thread"

/-- The world is another one, and the worker is gone. -/
def lose (worker : Worker ι ω) (world : ω) : Worker ι ω :=
  { worker with world, engine := none, capabilities := .none }

/-- Starts a worker unless one runs. -/
def start (factory : Engine.Factory ι ω) (worker : Worker ι ω) :
    Except Failure Bool × Worker ι ω :=
  match worker.engine with
  | some _ => (.ok true, worker)
  | none =>
    match factory.setUp worker.world with
    | (.ok (engine, capabilities), world) => (.ok true, ⟨world, some engine, capabilities⟩)
    | (.error (.refused _), world) => (.ok false, { worker with world })
    | (.error (.panicked _), world) =>
      (.error (.closed "engine worker died during startup"), { worker with world })

/-- Asks the engine of the worker. -/
def ask (factory : Engine.Factory ι ω) (c : Engine.Call) (worker : Worker ι ω) :
    Except Failure c.Answer × Worker ι ω :=
  match worker.engine with
  | none => (.error (.closed "engine worker is not running"), worker)
  | some engine =>
    match factory.call engine c worker.world with
    | (.ok answer, world) => (.ok answer, { worker with world })
    | (.error _, world) =>
      (.error (.closed "engine worker stopped before answering"), worker.lose world)

/-- The answer of an engine as that of the backend. -/
def lift {α : Type} : Except Failure (Except EngineFault α) → Except Failure α
  | .ok (.ok value) => .ok value
  | .ok (.error fault) => .error (fault.lift backendName)
  | .error failure => .error failure

/-- Stops the worker. -/
def stop (worker : Worker ι ω) : Worker ι ω :=
  match worker.engine with
  | none => worker
  | some _ => worker.lose worker.world

/-- The name of a script, empty where it has none. -/
def nameOrEmpty (name : Option String) : String :=
  name.getD ""

/-- The backend over a factory. -/
def backend (factory : Engine.Factory ι ω) : Backend (Worker ι ω) where
  name := backendName
  offers := capabilities
  call
    | .init => start factory
    | .run script => fun worker =>
      let (outcome, worker) := ask factory (.run (script.rename nameOrEmpty)) worker
      (outcome.map .typed, worker)
    | .drive step => fun worker =>
      let (outcome, worker) := ask factory (.drive (step.rename nameOrEmpty)) worker
      ((lift outcome).map .typed, worker)
    | .snapshot => fun worker =>
      let (outcome, worker) := ask factory .snapshot worker
      (lift outcome, worker)
    | .restore bytes => fun worker =>
      let (outcome, worker) := ask factory (.restore bytes) worker
      (lift outcome, worker)
    | .globals => fun worker =>
      let (outcome, worker) := ask factory .globals worker
      ((lift outcome).map .typed, worker)
    | .dispose => fun worker => (.ok (), worker.stop)

end Worker

end ScriptHost
