import ScriptHost.Engine.Basic
import ScriptHost.Execution.Form

/-!
# Scripted engines

A scripted engine takes its answers from a script, whatever it is asked. It stands in for an
interpreter where only the way to it is of interest.

## Main definitions

* `ScriptHost.Scripted.EngineReply` — an entry of the script of an engine.
* `ScriptHost.Scripted.EngineScript` — what is left of the scripts.
* `ScriptHost.Scripted.factory` — the factory of the engines that follow a script.
-/

namespace ScriptHost.Scripted

/-- An entry of the script of an engine. -/
inductive EngineReply where
  /-- The result of a run. -/
  | result (result : RunResult)
  /-- The progress of a step. -/
  | progress (progress : Progress)
  /-- A captured state. -/
  | bytes (bytes : List UInt8)
  /-- A state was put in place. -/
  | done
  /-- Global names. -/
  | globals (globals : Globals)
  /-- The engine refuses. -/
  | fail (fault : EngineFault)
  /-- The engine panics. -/
  | panic (panic : Engine.Panic)
  /-- An answer to something else. -/
  | unfit

/-- What is left of the scripts. -/
structure EngineScript where
  /-- How the next attempts to build an engine end; the attempts after them succeed. -/
  builds : List (Except Engine.BuildFault Unit)
  /-- The replies to the next calls of all engines. -/
  replies : List EngineReply

namespace EngineScript

/-- Takes the next attempt to build an engine. -/
def build (script : EngineScript) : Except Engine.BuildFault Unit × EngineScript :=
  match script.builds with
  | [] => (.ok (), script)
  | outcome :: rest => (outcome, { script with builds := rest })

/-- Takes the next reply. -/
def take (script : EngineScript) : EngineReply × EngineScript :=
  match script.replies with
  | [] => (.unfit, script)
  | reply :: rest => (reply, { script with replies := rest })

end EngineScript

/-- The result of a run that shows what the engine received. -/
def received (script : Script String) : RunResult :=
  .success
    (.ofFields [("code", .str script.code), ("script_name", .str script.name),
      ("limits", match script.limits with
        | some limits => .ofFields limits.fields
        | none => .null)])
    .zero

/-- An entry that answers no call of this kind. -/
def exhausted {α : Type} : Except EngineFault α :=
  .error (.invalidState "script exhausted")

/-- The answer to a call that an entry gives. -/
def answer : (c : Engine.Call) → EngineReply → Except Engine.Panic c.Answer
  | _, .panic panic => .error panic
  | .run _, .result result => .ok result
  | .run script, _ => .ok (received script)
  | .drive _, .progress progress => .ok (.ok progress)
  | .drive _, .fail fault => .ok (.error fault)
  | .drive _, _ => .ok exhausted
  | .snapshot, .bytes bytes => .ok (.ok bytes)
  | .snapshot, .fail fault => .ok (.error fault)
  | .snapshot, _ => .ok exhausted
  | .restore _, .done => .ok (.ok ())
  | .restore _, .fail fault => .ok (.error fault)
  | .restore _, _ => .ok exhausted
  | .globals, .globals globals => .ok (.ok globals)
  | .globals, .fail fault => .ok (.error fault)
  | .globals, _ => .ok exhausted

/-- The factory of the engines that follow a script. -/
def factory (capabilities : Capabilities) : Engine.Factory Unit EngineScript where
  build := EngineScript.build
  capabilities _ _ := .ok capabilities
  call _ c script :=
    let (reply, script) := script.take
    (answer c reply, script)

end ScriptHost.Scripted
