import ScriptHost.Backend.Basic

/-!
# Scripted backends

A scripted backend takes its answers from scripts, one for its beginnings, one for its ends and one
for everything else. It stands in for a backend where only its user is of interest.

## Main definitions

* `ScriptHost.Scripted.BackendReply` — an entry of the script of a backend.
* `ScriptHost.Scripted.BackendScript` — what is left of the scripts.
* `ScriptHost.Scripted.backend` — the backend that follows the scripts.
-/

namespace ScriptHost.Scripted

/-- An entry of the script of a backend. -/
inductive BackendReply where
  /-- The result of a run. -/
  | result (result : RunResult)
  /-- The progress of a step. -/
  | progress (progress : Progress)
  /-- A captured state. -/
  | bytes (bytes : List UInt8)
  /-- A state was put in place. -/
  | done
  /-- Global names. -/
  | globals (globals : Globals)
  /-- A record of a result, of progress or of global names. -/
  | record (json : Json)
  /-- The backend fails. -/
  | fault (failure : Failure)
  /-- An answer to something else. -/
  | unfit

/-- What is left of the scripts. -/
structure BackendScript where
  /-- How the next initializations end; those after them succeed. -/
  inits : List (Except Failure Bool)
  /-- How the next disposals end; those after them succeed. -/
  disposals : List (Except Failure Unit)
  /-- The replies to the next calls of other kinds. -/
  replies : List BackendReply

namespace BackendScript

/-- Takes the next initialization. -/
def init (script : BackendScript) : Except Failure Bool × BackendScript :=
  match script.inits with
  | [] => (.ok true, script)
  | outcome :: rest => (outcome, { script with inits := rest })

/-- Takes the next disposal. -/
def dispose (script : BackendScript) : Except Failure Unit × BackendScript :=
  match script.disposals with
  | [] => (.ok (), script)
  | outcome :: rest => (outcome, { script with disposals := rest })

/-- Takes the next reply. -/
def take (script : BackendScript) : BackendReply × BackendScript :=
  match script.replies with
  | [] => (.unfit, script)
  | reply :: rest => (reply, { script with replies := rest })

end BackendScript

/-- What an entry says about a call that it does not answer. -/
def exhaustedBackend : Failure :=
  .closed "script exhausted"

/-- The answer to a call that an entry gives. -/
def backendAnswer : (c : Backend.Call) → BackendReply → Except Failure c.Answer
  | _, .fault failure => .error failure
  | .run _, .result result => .ok (.typed result)
  | .run _, .record json => .ok (.record json)
  | .drive _, .progress progress => .ok (.typed progress)
  | .drive _, .record json => .ok (.record json)
  | .snapshot, .bytes bytes => .ok bytes
  | .restore _, .done => .ok ()
  | .globals, .globals globals => .ok (.typed globals)
  | .globals, .record json => .ok (.record json)
  | _, _ => .error exhaustedBackend

/-- The backend that follows the scripts. -/
def backend (name : String) (capabilities : Capabilities) : Backend BackendScript where
  name := name
  offers _ := capabilities
  call
    | .init, script => script.init
    | .dispose, script => script.dispose
    | c, script =>
      let (reply, script) := script.take
      (backendAnswer c reply, script)

end ScriptHost.Scripted
