import ScriptHost.Context.Basic
import ScriptHost.Snapshot.Blake3
import ScriptHost.Snapshot.Envelope

/-!
# Operations on a context

Scripts are run while a context is idle. Steps after the first need an active context. A context
initializes its backend before it first needs it. Once a context is disposed, every operation but
another disposal is refused.

An operation that the context itself refuses does not reach the backend.

## Main definitions

* `ScriptHost.Submission` — a script with the global names that it is to find.
* `ScriptHost.Context.Operation`, `ScriptHost.Context.Operation.Answer` — the operations, and what
  kind of answer each of them has.
* `ScriptHost.Context.perform` — carries out an operation.
-/

namespace ScriptHost

/-- A script with the global names that it is to find. -/
structure Submission where
  /-- The script, which may come without a name. -/
  script : Script (Option String)
  /-- The global names, with their values. -/
  inputs : Dict String Json
deriving DecidableEq

namespace Context

variable {ω : Type}

/-! ## Scripts -/

/-- The limits of a call over those of the settings; absent when nothing is limited. -/
def effectiveLimits (config : Config) (limits : Option Limits) : Option Limits :=
  let merged := (limits.getD .unlimited).withDefaults config.defaultLimits
  if merged.isUnlimited then none else some merged

/-- The script with the limits and the name that the settings give it. -/
def effectiveScript (config : Config) (script : Script (Option String)) :
    Script (Option String) :=
  { code := script.code
    limits := effectiveLimits config script.limits
    name := some (script.name.getD config.scriptName) }

/-- Initializes the backend unless that was done. -/
def init (backend : Backend ω) : Action ω Unit := do
  require "init" [.idle, .active]
  unless (← get).initialized do
    if ← ask backend .init then
      modify fun context => { context with initialized := true }
    else
      throw (.channel .initFailed)

/-- The script of a submission, ready for the backend. Global names cannot be handed over. -/
def prepare (backend : Backend ω) (operation : String) (submission : Submission) :
    Action ω (Script (Option String)) := do
  require operation [.idle]
  unless submission.inputs.isEmpty do
    throw (.unsupported backend.name "inputs")
  init backend
  return effectiveScript (← get).config submission.script

/-- Runs a script to its end. -/
def run (backend : Backend ω) (submission : Submission) : Action ω RunResult := do
  let script ← prepare backend "run" submission
  let reply ← ask backend (.run script)
  MonadExcept.ofExcept (valueOf Record.runResult reply)

/-- Starts a script. -/
def start (backend : Backend ω) (submission : Submission) (functions : List String) :
    Action ω Progress := do
  let script ← prepare backend "start" submission
  modify fun context => { context with seen := [], outstanding := some [] }
  advance backend (.start script functions)

/-! ## Steps -/

/-- Answers the call that waits with a value. -/
def resume (backend : Backend ω) (value : Json) : Action ω Progress := do
  require "resume" [.active]
  advance backend (.resume value)

/-- Answers the call that waits with an error. -/
def raise (backend : Backend ω) (message : String) : Action ω Progress := do
  require "resume_with_error" [.active]
  advance backend (.raise message)

/-- Puts off the call that waits. -/
def postpone (backend : Backend ω) : Action ω Progress := do
  require "resume_as_future" [.active]
  demand backend Capabilities.futures "resume_as_future"
  advance backend .postpone

/-- A call that is answered twice. -/
def answeredTwice? (answers : Answers) : Option UInt32 :=
  answers.results.keys.find? answers.errors.contains

/-- A call that is answered and was not put off, when it is known which calls were. -/
def notAwaiting? (outstanding : Option (List UInt32)) (answers : Answers) : Option UInt32 :=
  outstanding.bind fun ids =>
    (answers.results.keys ++ answers.errors.keys).find? fun id => !ids.contains id

/-- Why answers are refused. -/
def answersFault? (outstanding : Option (List UInt32)) (answers : Answers) :
    Option ArgumentFault :=
  match answeredTwice? answers with
  | some id => some (.answeredTwice id)
  | none => (notAwaiting? outstanding answers).map .notAwaiting

/-- Answers calls that were put off. -/
def resolve (backend : Backend ω) (answers : Answers) : Action ω Progress := do
  require "resolve_futures" [.active]
  demand backend Capabilities.futures "resolve_futures"
  if let some fault := answersFault? (← get).outstanding answers then
    throw (.argument fault)
  advance backend (.resolve answers)

/-! ## Snapshots -/

/-- Refuses a snapshot of an idle context unless a condition holds. -/
def requireUnlessIdle (lifecycle : Lifecycle) (condition : Bool) : Action ω Unit := do
  if lifecycle = .idle && !condition then
    throw (.state "snapshot" [.active] .idle)

/-- Captures the state of the engine and seals it. An idle context can be captured only after it
was initialized, and only when its backend allows it. -/
def snapshot (backend : Backend ω) : Action ω (List UInt8) := do
  require "snapshot" [.active, .idle]
  let lifecycle := (← get).lifecycle
  requireUnlessIdle lifecycle (← get).initialized
  init backend
  demand backend Capabilities.snapshot "snapshot"
  requireUnlessIdle lifecycle (backend.offers (← get).world).idleSnapshot
  let payload ← ask backend .snapshot
  MonadExcept.ofExcept <|
    (Envelope.toBytes Blake3.digest ⟨backend.name, payload⟩).mapError fun fault =>
      .snapshot (.captureFailed fault)

/-- The payload of a sealed state of a backend. -/
def payloadOf (backend : String) (bytes : List UInt8) : Except SnapshotFault (List UInt8) := do
  let envelope ← (Envelope.ofBytes Blake3.digest bytes).mapError .malformed
  envelope.verify backend
  return envelope.payload

/-- Puts a sealed state in place of the present one. The context is active from then on; which
calls were put off is not known. -/
def restore (backend : Backend ω) (bytes : List UInt8) : Action ω Unit := do
  require "restore" [.idle]
  let payload ← MonadExcept.ofExcept ((payloadOf backend.name bytes).mapError .snapshot)
  init backend
  demand backend Capabilities.snapshot "restore"
  ask backend (.restore payload)
  modify fun context => { context with lifecycle := .active, seen := [], outstanding := none }

/-! ## Global names -/

/-- The global names that the last run left behind; none before the backend was initialized. -/
def globals (backend : Backend ω) : Action ω Globals := do
  require "globals" [.idle]
  if (← get).initialized then
    demand backend Capabilities.globals "globals"
    let reply ← ask backend .globals
    MonadExcept.ofExcept (valueOf Record.globals reply)
  else
    return .empty

/-- Whether the backend can report global names. -/
def supportsGlobals (backend : Backend ω) : Action ω Bool := do
  init backend
  return (backend.offers (← get).world).globals

/-! ## The end -/

/-- Releases the backend if it was initialized. Once a context is disposed, this does nothing. -/
def dispose (backend : Backend ω) : Action ω Unit := do
  let before ← get
  unless before.lifecycle = .disposed do
    set { before with
      lifecycle := .disposed, initialized := false, seen := [], outstanding := none }
    if before.initialized then
      ask backend .dispose

/-! ## All operations -/

/-- The operations on a context. -/
inductive Operation where
  /-- Initializes the backend. -/
  | init
  /-- Runs a script to its end. -/
  | run (submission : Submission)
  /-- Starts a script that may call the named functions outside of it. -/
  | start (submission : Submission) (functions : List String)
  /-- Answers the call that waits with a value. -/
  | resume (value : Json)
  /-- Answers the call that waits with an error. -/
  | raise (message : String)
  /-- Puts off the call that waits. -/
  | postpone
  /-- Answers calls that were put off. -/
  | resolve (answers : Answers)
  /-- Captures the state of the engine. -/
  | snapshot
  /-- Puts a captured state in place of the present one. -/
  | restore (bytes : List UInt8)
  /-- Reports the global names that the last run left behind. -/
  | globals
  /-- Asks whether the backend can report global names. -/
  | supportsGlobals
  /-- Releases the backend. -/
  | dispose
deriving DecidableEq

/-- The kind of answer that an operation has. -/
abbrev Operation.Answer : Operation → Type
  | .init => Unit
  | .run _ => RunResult
  | .start .. => Progress
  | .resume _ => Progress
  | .raise _ => Progress
  | .postpone => Progress
  | .resolve _ => Progress
  | .snapshot => List UInt8
  | .restore _ => Unit
  | .globals => Globals
  | .supportsGlobals => Bool
  | .dispose => Unit

/-- Carries out an operation. -/
def perform (backend : Backend ω) : (operation : Operation) → Action ω operation.Answer
  | .init => init backend
  | .run submission => run backend submission
  | .start submission functions => start backend submission functions
  | .resume value => resume backend value
  | .raise message => raise backend message
  | .postpone => postpone backend
  | .resolve answers => resolve backend answers
  | .snapshot => snapshot backend
  | .restore bytes => restore backend bytes
  | .globals => globals backend
  | .supportsGlobals => supportsGlobals backend
  | .dispose => dispose backend

end Context

end ScriptHost
