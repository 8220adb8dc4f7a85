import ScriptHost.Execution.Form
import ScriptHost.Failure

/-!
# Settings

The settings of the host side: the script name and the limits that apply where a call gives none,
and the name and the queue length of the worker that runs an engine in the same process.

## Main definitions

* `ScriptHost.Config` — the settings.
* `ScriptHost.Config.check` — whether a worker can honour them.
* `ScriptHost.Config.toJson`, `ScriptHost.Config.ofJson?`, `ScriptHost.Config.ofBytes?` — their JSON
  form, and the settings that the bytes of a file spell.
-/

namespace ScriptHost

/-- The settings of the host side. -/
structure Config where
  /-- The script name where a call gives none. -/
  scriptName : String
  /-- The limits where a call gives none. -/
  defaultLimits : Limits
  /-- The name of the worker. -/
  workerName : String
  /-- The number of commands that wait for the worker at most. -/
  commandBuffer : UInt64
deriving DecidableEq, Repr

namespace Config

/-- The settings where none are given. -/
def standard : Config :=
  { scriptName := "<input>"
    defaultLimits := .unlimited
    workerName := "tether-engine"
    commandBuffer := 16 }

/-- Refuses settings that no worker can honour. -/
def check (config : Config) : Except ConfigFault Unit :=
  if config.commandBuffer = 0 then .error .emptyBuffer
  else if config.workerName.isEmpty then .error .emptyWorkerName
  else .ok ()

/-! ## The JSON form -/

/-- The names of the parts. -/
def parts : List (List String) :=
  [["script_name"], ["default_limits"], ["worker_thread_name"], ["command_buffer"]]

/-- The form of settings, in the order of the parts. -/
def toJson (config : Config) : Json :=
  .obj [("script_name", .str config.scriptName), ("default_limits", config.defaultLimits.toJson),
    ("worker_thread_name", .str config.workerName),
    ("command_buffer", .ofUInt64 config.commandBuffer)]

/-- The settings that slots hold, read by the given functions; what is left out has its standard
value. -/
def ofSlots? {α : Type} (value : α → Option Json) (limits : α → Option Limits) :
    List (Option α) → Option Config
  | [name, default, worker, buffer] => do
    let text slot := (value slot).bind Json.asString?
    let scriptName ← Form.defaulted standard.scriptName text name
    let defaultLimits ← Form.defaulted standard.defaultLimits limits default
    let workerName ← Form.defaulted standard.workerName text worker
    let commandBuffer ←
      Form.defaulted standard.commandBuffer (fun slot => (value slot).bind Json.asUInt64?) buffer
    return { scriptName, defaultLimits, workerName, commandBuffer }
  | _ => none

/-- The settings of a form. -/
def ofJson? (json : Json) : Option Config :=
  (json.form? parts).bind (ofSlots? some Limits.ofJson?)

/-- The value of a slot inside a container. -/
def slotValue? (depth : Nat) (tree : Json.Tree) : Option Json :=
  tree.read? (Json.nestingLimit - depth)

/-- The limits of a form that is still a tree. -/
def limitsOfTree? (tree : Json.Tree) : Option Limits := do
  let slots ← tree.form? Limits.parts
  let values ← slots.mapM fun slot =>
    match slot with
    | none => some none
    | some part => (slotValue? 2 part).map some
  Limits.ofSlots? values

/-- The settings that the bytes of a file spell. Only what is needed is read, so an unknown field
may hold a number that is out of range or a text that is none. -/
def ofBytes? (bs : List UInt8) : Option Config := do
  let tree ← Json.Tree.ofBytes? bs
  let slots ← tree.form? parts
  ofSlots? (slotValue? 1) limitsOfTree? slots

end Config

end ScriptHost
