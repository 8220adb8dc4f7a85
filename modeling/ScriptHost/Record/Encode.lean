import ScriptHost.Execution.Form
import ScriptHost.Record.Decode

/-!
# Writing wire records

The records that the serving side sends, in the form that `ScriptHost.Record.runResult`,
`ScriptHost.Record.progress` and `ScriptHost.Record.globals` read. Absent parts and empty keyword
arguments are left out, the detail of an error stands in the record itself, and a completion that
raised has the state `error`. The fields of every record are in key order.

## Main definitions

* `ScriptHost.RunResult.toRecord`, `ScriptHost.Progress.toRecord`, `ScriptHost.Globals.toRecord` —
  the records of a result, of progress and of global names.
-/

namespace ScriptHost

/-- The record of a usage. -/
def Usage.toRecord (usage : Usage) : Json :=
  .ofFields [("memory_bytes_used", .ofUInt64 usage.memoryBytes),
    ("time_elapsed_ms", .ofUInt64 usage.timeMs), ("stack_depth_used", .ofUInt64 usage.stackDepth)]

/-- The record of a frame. -/
def Frame.toRecord (frame : Frame) : Json :=
  .ofFields (Form.written [("filename", some (.str frame.filename)),
    ("start_line", some (.ofUInt32 frame.line)), ("start_column", some (.ofUInt32 frame.column)),
    ("frame_name", some (.str frame.name)), ("preview_line", frame.preview.map .str)])

/-- The fields of an error, with its message under `error`. -/
def ScriptError.recordFields (error : ScriptError) : List (String × Json) :=
  Form.written [("error", some (.str error.message)), ("exc_type", error.excType.map .str),
    ("filename", error.filename.map .str), ("line_number", error.line.map .ofUInt32),
    ("column_number", error.column.map .ofUInt32),
    ("traceback", if error.traceback.isEmpty then none
      else some (.arr (error.traceback.map Frame.toRecord)))]

namespace RunResult

/-- The fields of the record of a result: the mark of success, the usage, and the error or the
value. -/
def recordFields (result : RunResult) : List (String × Json) :=
  ("ok", .bool (!result.isError)) :: ("usage", result.usage.toRecord) ::
    match result.error with
    | some error => error.recordFields
    | none => [("value", result.valueOrNull)]

/-- The record of a result. -/
def toRecord (result : RunResult) : Json :=
  .ofFields result.recordFields

end RunResult

namespace Progress

/-- The state of a completion. -/
def completeState (result : RunResult) : String :=
  if result.isError then "error" else "complete"

/-- The keyword arguments of a record: absent when there are none. -/
def recordKwargs (call : PendingCall) : Option Json :=
  (call.kwargs.filter fun kwargs => !kwargs.isEmpty).map .ofDict

/-- The record of progress. -/
def toRecord : Progress → Json
  | complete result => .ofFields (("state", .str (completeState result)) :: result.recordFields)
  | pending call =>
    .ofFields (Form.written [("ok", some (.bool true)), ("state", some (.str "pending")),
      ("function_name", some (.str call.function)), ("arguments", some (.arr call.arguments)),
      ("kwargs", recordKwargs call), ("call_id", some (.ofUInt32 call.callId)),
      ("method_call", some (.bool call.isMethod))])
  | futures ids =>
    .ofFields [("ok", .bool true), ("state", .str "resolve_futures"),
      ("pending_call_ids", .arr (ids.map .ofUInt32))]

end Progress

/-- The entry of a global name: its data, or the name of its type. -/
def Global.toEntry : Global → Json
  | data value => .obj [("value", value)]
  | foreign typeName => .obj [("type", .str typeName)]

/-- The record of global names. -/
def Globals.toRecord (globals : Globals) : Json :=
  .obj [("globals", .obj (globals.entries.map fun entry => (entry.1, entry.2.toEntry)))]

end ScriptHost
