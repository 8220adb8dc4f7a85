import ScriptHost.Execution.Basic
import ScriptHost.Json.Form

/-!
# JSON forms of results and progress

Each domain type is written as a JSON form and read back from it. Parts that are absent are left
out, except the value of a result, which is written as null. Progress is an object with a field
`state` beside the parts of its kind, or an array that begins with the state. The limits have two
spellings for each name, of which the first is written.

## Main definitions

* `toJson` and `ofJson?` of `Usage`, `Limits`, `Frame`, `ScriptError`, `RunResult`, `PendingCall`,
  `Progress` and `Global`.
-/

namespace ScriptHost

/-! ## Resources -/

namespace Usage

/-- The names of the parts. -/
def parts : List (List String) :=
  [["memory_bytes_used"], ["time_elapsed_ms"], ["stack_depth_used"]]

/-- The form of a usage. -/
def toJson (usage : Usage) : Json :=
  .obj [("memory_bytes_used", .ofUInt64 usage.memoryBytes),
    ("time_elapsed_ms", .ofUInt64 usage.timeMs), ("stack_depth_used", .ofUInt64 usage.stackDepth)]

/-- The usage of a form. -/
def ofJson? (json : Json) : Option Usage :=
  match json.form? parts with
  | some [memory, time, stack] => do
    let memoryBytes ← Form.required Json.asUInt64? memory
    let timeMs ← Form.required Json.asUInt64? time
    let stackDepth ← Form.required Json.asUInt64? stack
    return { memoryBytes, timeMs, stackDepth }
  | _ => none

end Usage

namespace Limits

/-- The names of the parts, each in two spellings. -/
def parts : List (List String) :=
  [["timeoutMs", "timeout_ms"], ["memoryBytes", "memory_bytes"], ["stackDepth", "stack_depth"]]

/-- The fields of the form. -/
def fields (limits : Limits) : List (String × Json) :=
  Form.written [("timeoutMs", limits.timeoutMs.map .ofUInt64),
    ("memoryBytes", limits.memoryBytes.map .ofUInt64),
    ("stackDepth", limits.stackDepth.map .ofUInt64)]

/-- The form of limits. -/
def toJson (limits : Limits) : Json :=
  .obj limits.fields

/-- The limits that slots hold. -/
def ofSlots? : List (Option Json) → Option Limits
  | [timeout, memory, stack] => do
    let timeoutMs ← Form.optional Json.asUInt64? timeout
    let memoryBytes ← Form.optional Json.asUInt64? memory
    let stackDepth ← Form.optional Json.asUInt64? stack
    return { timeoutMs, memoryBytes, stackDepth }
  | _ => none

/-- The limits of a form. -/
def ofJson? (json : Json) : Option Limits :=
  (json.form? parts).bind ofSlots?

end Limits

/-! ## Results -/

namespace Frame

/-- The names of the parts. -/
def parts : List (List String) :=
  [["filename"], ["start_line"], ["start_column"], ["frame_name"], ["preview_line"]]

/-- The form of a frame. -/
def toJson (frame : Frame) : Json :=
  .obj (Form.written [("filename", some (.str frame.filename)),
    ("start_line", some (.ofUInt32 frame.line)), ("start_column", some (.ofUInt32 frame.column)),
    ("frame_name", some (.str frame.name)), ("preview_line", frame.preview.map .str)])

/-- The frame of a form. -/
def ofJson? (json : Json) : Option Frame :=
  match json.form? parts with
  | some [filename, line, column, name, preview] => do
    let filename ← Form.required Json.asString? filename
    let line ← Form.required Json.asUInt32? line
    let column ← Form.required Json.asUInt32? column
    let name ← Form.required Json.asString? name
    let preview ← Form.optional Json.asString? preview
    return { filename, line, column, name, preview }
  | _ => none

end Frame

/-- The values of the items of an array. -/
def Json.itemsOf? {α : Type} (read : Json → Option α) (json : Json) : Option (List α) :=
  json.asArray?.bind fun items => items.mapM read

namespace ScriptError

/-- The names of the parts. -/
def parts : List (List String) :=
  [["message"], ["exc_type"], ["filename"], ["line_number"], ["column_number"], ["traceback"]]

/-- The form of an error; an empty traceback is left out. -/
def toJson (error : ScriptError) : Json :=
  .obj (Form.written [("message", some (.str error.message)),
    ("exc_type", error.excType.map .str), ("filename", error.filename.map .str),
    ("line_number", error.line.map .ofUInt32), ("column_number", error.column.map .ofUInt32),
    ("traceback", if error.traceback.isEmpty then none
      else some (.arr (error.traceback.map Frame.toJson)))])

/-- The error of a form. -/
def ofJson? (json : Json) : Option ScriptError :=
  match json.form? parts with
  | some [message, excType, filename, line, column, traceback] => do
    let message ← Form.required Json.asString? message
    let excType ← Form.optional Json.asString? excType
    let filename ← Form.optional Json.asString? filename
    let line ← Form.optional Json.asUInt32? line
    let column ← Form.optional Json.asUInt32? column
    let traceback ← Form.defaulted [] (Json.itemsOf? Frame.ofJson?) traceback
    return { message, excType, filename, line, column, traceback }
  | _ => none

end ScriptError

namespace RunResult

/-- The names of the parts. -/
def parts : List (List String) :=
  [["value"], ["error"], ["usage"]]

/-- The form of a result; an absent value is written as null. -/
def toJson (result : RunResult) : Json :=
  .obj (Form.written [("value", some result.valueOrNull),
    ("error", result.error.map ScriptError.toJson), ("usage", some result.usage.toJson)])

/-- The result of a form. -/
def ofJson? (json : Json) : Option RunResult :=
  match json.form? parts with
  | some [value, error, usage] => do
    let value ← Form.optional some value
    let error ← Form.optional ScriptError.ofJson? error
    let usage ← Form.defaulted Usage.zero Usage.ofJson? usage
    return { value, error, usage }
  | _ => none

end RunResult

/-! ## Progress -/

namespace PendingCall

/-- The names of the parts. -/
def parts : List (List String) :=
  [["function_name"], ["arguments"], ["kwargs"], ["call_id"], ["method_call"]]

/-- The fields of the form. -/
def fields (call : PendingCall) : List (String × Json) :=
  Form.written [("function_name", some (.str call.function)),
    ("arguments", some (.arr call.arguments)), ("kwargs", call.kwargs.map .ofDict),
    ("call_id", some (.ofUInt32 call.callId)), ("method_call", some (.bool call.isMethod))]

/-- The form of a pending call. -/
def toJson (call : PendingCall) : Json :=
  .obj call.fields

/-- The pending call of a form. -/
def ofJson? (json : Json) : Option PendingCall :=
  match json.form? parts with
  | some [function, arguments, kwargs, callId, isMethod] => do
    let function ← Form.required Json.asString? function
    let arguments ← Form.required Json.asArray? arguments
    let kwargs ← Form.optional (fun given => given.asObject?.map Dict.ofEntries) kwargs
    let callId ← Form.required Json.asUInt32? callId
    let isMethod ← Form.required Json.asBool? isMethod
    return { function, arguments, kwargs, callId, isMethod }
  | _ => none

end PendingCall

namespace Progress

/-- The form of progress. -/
def toJson (progress : Progress) : Json :=
  match progress with
  | complete result => .obj [("state", .str progress.kind), ("result", result.toJson)]
  | pending call => .obj (("state", .str progress.kind) :: call.fields)
  | futures ids =>
    .obj [("state", .str progress.kind), ("pending_call_ids", .arr (ids.map .ofUInt32))]

/-- The state of a form, and the form without it. -/
def untag? : Json → Option (String × Json)
  | .obj fields => do
    let state ← (fields.lookup "state").bind Json.asString?
    return (state, .obj (fields.filter (·.1 != "state")))
  | .arr (.str state :: items) => some (state, .arr items)
  | _ => none

/-- The only part of a form of one part. -/
def onlyPart? (name : String) (json : Json) : Option Json :=
  match json.form? [[name]] with
  | some [part] => part
  | _ => none

/-- The progress of a form. -/
def ofJson? (json : Json) : Option Progress := do
  let (state, rest) ← untag? json
  if state = "complete" then
    return .complete (← (onlyPart? "result" rest).bind RunResult.ofJson?)
  else if state = "pending" then
    return .pending (← PendingCall.ofJson? rest)
  else if state = "resolve_futures" then
    return .futures (← (onlyPart? "pending_call_ids" rest).bind (Json.itemsOf? Json.asUInt32?))
  else none

end Progress

/-! ## Global names -/

namespace Global

/-- The form of a binding: an object with one field, whose name is the kind. -/
def toJson : Global → Json
  | data value => .obj [("data", value)]
  | foreign typeName => .obj [("opaque", .obj [("type_name", .str typeName)])]

/-- The binding of a form. -/
def ofJson? : Json → Option Global
  | .obj [("data", value)] => some (.data value)
  | .obj [("opaque", .obj fields)] =>
    match Form.ofFields [["type_name"]] fields with
    | some [typeName] => (Form.required Json.asString? typeName).map .foreign
    | _ => none
  | _ => none

end Global

namespace Globals

/-- The form of global names: an object with a binding under each name. -/
def toJson (globals : Globals) : Json :=
  .obj (globals.entries.map fun entry => (entry.1, entry.2.toJson))

/-- The global names of a form. -/
def ofJson? (json : Json) : Option Globals := do
  let fields ← json.asObject?
  let entries ← fields.mapM fun field => (Global.ofJson? field.2).map (field.1, ·)
  return Dict.ofEntries entries

end Globals

end ScriptHost
