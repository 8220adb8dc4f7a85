import ScriptHost.Engine.Capabilities
import ScriptHost.Execution.Script
import ScriptHost.Record.Decode
import ScriptHost.Recorded

/-!
# Backends

A backend is the near end of one engine, wherever that engine is. It sets the engine up, passes on
what it is asked, and releases the engine. Its answers are values of the domain, or records that are
still to be read. Of the optional calls a backend answers those that it offers at the moment.

## Main definitions

* `ScriptHost.Reply` — a value, or a record of one.
* `ScriptHost.Backend.Call`, `ScriptHost.Backend.Call.Answer` — what a backend is asked, and what
  kind of answer a call has.
* `ScriptHost.Backend` — a backend in a world.
* `ScriptHost.Backend.Exchange`, `ScriptHost.Backend.recorded` — the same backend with a record of
  what it was asked.
-/

namespace ScriptHost

/-! ## Replies -/

/-- A value, or a record of one. -/
inductive Reply (α : Type) where
  /-- A value. -/
  | typed (value : α)
  /-- A record that is still to be read. -/
  | record (json : Json)

/-- The value of a reply, a record read by the given function. -/
def Reply.value {α : Type} (read : Json → Except ProtocolFault α) :
    Reply α → Except ProtocolFault α
  | typed value => .ok value
  | record json => read json

namespace Backend

/-! ## Calls -/

/-- What a backend is asked. A script may come without a name. -/
inductive Call where
  /-- Sets the engine up. -/
  | init
  /-- Runs a script to its end. -/
  | run (script : Script (Option String))
  /-- Drives an execution. -/
  | drive (step : Step (Option String))
  /-- Captures the state of the engine. -/
  | snapshot
  /-- Puts a captured state in place of the present one. -/
  | restore (bytes : List UInt8)
  /-- Reports the global names that the last run left behind. -/
  | globals
  /-- Releases the engine. -/
  | dispose
deriving DecidableEq

namespace Call

/-- The kind of answer that a call has. The answer to `init` says whether there is an engine. -/
abbrev Answer : Call → Type
  | init => Bool
  | run _ => Reply RunResult
  | drive _ => Reply Progress
  | snapshot => List UInt8
  | restore _ => Unit
  | globals => Reply Globals
  | dispose => Unit

/-- The word for a call. -/
def word : Call → String
  | init => "init"
  | run _ => "run"
  | drive step => step.word
  | snapshot => "snapshot"
  | restore _ => "restore"
  | globals => "globals"
  | dispose => "dispose"

end Call

end Backend

/-! ## Backends -/

/-- A backend in a world. -/
structure Backend (ω : Type) where
  /-- The name, which is also that of its snapshots. -/
  name : String
  /-- What the backend offers at the moment. -/
  offers : ω → Capabilities
  /-- Asks the backend. -/
  call : (c : Backend.Call) → ω → Except Failure c.Answer × ω

namespace Backend

/-- What a backend was asked, and what came of it. -/
structure Exchange where
  /-- What it was asked. -/
  call : Call
  /-- What came of it. -/
  outcome : Except Failure call.Answer

/-- The backend with a record of what it was asked. -/
def recorded {ω : Type} (backend : Backend ω) : Backend (Recorded Exchange ω) where
  name := backend.name
  offers recorded := backend.offers recorded.world
  call c := Recorded.after (Exchange.mk c) (backend.call c)

end Backend

end ScriptHost
