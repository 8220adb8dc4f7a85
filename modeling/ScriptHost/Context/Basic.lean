import ScriptHost.Backend.Basic
import ScriptHost.Config.Basic

/-!
# Contexts

A context is one engine as its user sees it, together with where it is in its life. It keeps the
numbers of the calls that the present execution has waited for, and the calls that were put off.

Actions on a context read and change it and end with a value or a failure; a failure keeps what was
changed before it. Whenever a backend says that its far end is gone, the context notes that the
backend has to be initialized again.

## Main definitions

* `ScriptHost.Context` — a context.
* `ScriptHost.Context.Action` — actions on a context.
* `ScriptHost.Context.ask` — asks the backend of a context.
* `ScriptHost.Context.settle` — how progress changes a context.
* `ScriptHost.Context.advance` — takes a step of an execution.
-/

namespace ScriptHost

/-- An engine as its user sees it. -/
structure Context (ω : Type) where
  /-- The world of the backend. -/
  world : ω
  /-- The settings. -/
  config : Config
  /-- Where the context is in its life. -/
  lifecycle : Lifecycle
  /-- Whether the backend has been initialized and was not lost since. -/
  initialized : Bool
  /-- The numbers of the calls that the present execution has waited for, the latest first. -/
  seen : List UInt32
  /-- The calls that were put off and may be answered; absent when they are not known. -/
  outstanding : Option (List UInt32)

namespace Context

variable {ω α : Type}

/-- A context that was not used yet. -/
def fresh (config : Config) (world : ω) : Context ω :=
  { world, config, lifecycle := .idle, initialized := false, seen := [], outstanding := some [] }

/-- Actions on a context. -/
abbrev Action (ω α : Type) := ExceptT Failure (StateM (Context ω)) α

/-! ## Life -/

/-- No execution is in flight. -/
def finish (context : Context ω) : Context ω :=
  { context with lifecycle := .idle, seen := [], outstanding := some [] }

/-- Notes that a far end is gone when an outcome says so. -/
def observe (outcome : Except Failure α) (context : Context ω) : Context ω :=
  match outcome with
  | .error failure => if failure.isClosed then { context with initialized := false } else context
  | .ok _ => context

/-- How progress changes a context. An execution that waits keeps the context active; everything
else ends the execution, an error that the script raised as a failure. -/
def settle (outcome : Except Failure Progress) (context : Context ω) :
    Except Failure Progress × Context ω :=
  match outcome with
  | .error failure => (.error failure, context.finish)
  | .ok (.complete result) =>
    match result.error with
    | some error => (.error (.sandbox error result.usage), context.finish)
    | none => (.ok (.complete result), context.finish)
  | .ok (.pending call) =>
    if context.seen.contains call.callId then
      (.error (.protocol (.duplicateCallId call.callId)), context.finish)
    else
      (.ok (.pending call),
        { context with
          lifecycle := .active, seen := call.callId :: context.seen, outstanding := some [] })
  | .ok (.futures ids) =>
    (.ok (.futures ids), { context with lifecycle := .active, outstanding := some ids })

/-! ## Actions -/

/-- Refuses an operation outside the states that allow it. -/
def require (operation : String) (allowed : List Lifecycle) : Action ω Unit := do
  let lifecycle := (← get).lifecycle
  unless allowed.contains lifecycle do
    throw (.state operation allowed lifecycle)

/-- Asks the backend. -/
def ask (backend : Backend ω) (c : Backend.Call) : Action ω c.Answer :=
  ExceptT.mk fun context =>
    let (outcome, world) := backend.call c context.world
    (outcome, observe outcome { context with world })

/-- Refuses an operation that the backend does not offer. -/
def demand (backend : Backend ω) (offered : Capabilities → Bool) (operation : String) :
    Action ω Unit := do
  unless offered (backend.offers (← get).world) do
    throw (.unsupported backend.name operation)

/-- The value of a reply; a record that cannot be read is a failure. -/
def valueOf (read : Json → Except ProtocolFault α) (reply : Reply α) : Except Failure α :=
  (reply.value read).mapError .protocol

/-- Takes a step of an execution; whatever comes of it changes the context by `settle`. -/
def advance (backend : Backend ω) (step : Step (Option String)) : Action ω Progress :=
  ExceptT.mk fun context =>
    let (outcome, context) := ask backend (.drive step) context
    settle (outcome.bind (valueOf Record.progress)) context

end Context

end ScriptHost
