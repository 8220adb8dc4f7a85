import ScriptHost.Failure

/-!
# Reading wire records

An engine behind a channel answers with records: JSON objects that are only loosely typed. A record
of a run has a mark `ok`; without it, or with null, the run failed. The detail of an error stands in
an object under `error`, or in the record itself with the message under `error`. What is missing is
filled in: no usage is zero usage, no message is `Unknown error`, and a missing position of an error
is that of the innermost frame.

Parts that only describe, such as a counter or a preview, count as missing when they have the wrong
type. Parts that steer the execution must have the right type.

## Main definitions

* `ScriptHost.Record.runResult` — the result that a record of a run holds.
* `ScriptHost.Record.progress` — the progress that a record holds.
* `ScriptHost.Record.globals` — the global names that a record holds.
-/

namespace ScriptHost.Record

/-- The fields of a record. -/
abbrev Fields := List (String × Json)

/-- A reading that ends with a value or with a breach of the protocol. -/
abbrev Reading (α : Type) := Except ProtocolFault α

/-- The reading that finds a record malformed. -/
def malformed {α : Type} (fault : RecordFault) : Reading α :=
  .error (.malformed fault)

/-- The message of an error that has none. -/
def unknownMessage : String := "Unknown error"

/-- The name of a frame that has none. -/
def topFrameName : String := "<module>"

/-- The fields of a record, which must be an object. -/
def fieldsOf (what : String) (record : Json) : Reading Fields :=
  match record with
  | .obj fields => .ok fields
  | _ => malformed (.notObject what)

/-- A 64-bit number cut down to the largest 32-bit number when it is larger. -/
def saturate (n : UInt64) : UInt32 :=
  if n.toNat < UInt32.size then UInt32.ofNat n.toNat else UInt32.ofNat (UInt32.size - 1)

/-- The text under a key, when there is one. -/
def textAt? (fields : Fields) (key : String) : Option String :=
  (fields.lookup key).bind Json.asString?

/-- The position under a key, when there is a number. -/
def positionAt? (fields : Fields) (key : String) : Option UInt32 :=
  ((fields.lookup key).bind Json.asUInt64?).map saturate

/-! ## Results -/

/-- Whether the mark of success is set. -/
def okMark (fields : Fields) : Reading Bool :=
  match fields.lookup "ok" with
  | some (.bool ok) => .ok ok
  | none => .ok false
  | some .null => .ok false
  | some got => malformed (.okNotBool got)

/-- A counter, zero when it is missing. -/
def counter (fields : Fields) (key : String) : UInt64 :=
  ((fields.lookup key).bind Json.asUInt64?).getD 0

/-- The usage in a record. -/
def usage (fields : Fields) : Reading Usage :=
  match fields.lookup "usage" with
  | none => .ok .zero
  | some .null => .ok .zero
  | some (.obj counters) =>
    .ok { memoryBytes := counter counters "memory_bytes_used"
          timeMs := counter counters "time_elapsed_ms"
          stackDepth := counter counters "stack_depth_used" }
  | some got => malformed (.usageNotObject got)

/-- The frame that a value holds. -/
def frame (value : Json) : Reading Frame :=
  match value with
  | .obj fields =>
    match textAt? fields "filename" with
    | none => malformed .frameWithoutFilename
    | some filename =>
      match positionAt? fields "start_line" with
      | none => malformed .frameWithoutLine
      | some line =>
        .ok { filename, line
              column := (positionAt? fields "start_column").getD 0
              name := (textAt? fields "frame_name").getD topFrameName
              preview := textAt? fields "preview_line" }
  | _ => malformed .frameNotObject

/-- The traceback in the detail of an error. -/
def traceback (detail : Fields) : Reading (List Frame) :=
  match detail.lookup "traceback" with
  | none => .ok []
  | some .null => .ok []
  | some (.arr frames) => frames.mapM frame
  | some got => malformed (.tracebackNotArray got)

/-- The detail of an error and its message: the object under `error`, or the record itself. -/
def errorDetail (fields : Fields) : Fields × Option String :=
  match fields.lookup "error" with
  | some (.obj detail) => (detail, textAt? detail "message")
  | some (.str message) => (fields, some message)
  | _ => (fields, none)

/-- An error whose position is that of the innermost frame where it has none of its own. -/
def errorOf (detail : Fields) (message : Option String) (frames : List Frame) : ScriptError :=
  let innermost := frames.getLast?
  { message := message.getD unknownMessage
    excType := textAt? detail "exc_type"
    filename := (textAt? detail "filename").or (innermost.map Frame.filename)
    line := (positionAt? detail "line_number").or (innermost.map Frame.line)
    column := (positionAt? detail "column_number").or (innermost.map Frame.column)
    traceback := frames }

/-- The error in a record. -/
def error (fields : Fields) : Reading ScriptError := do
  let (detail, message) := errorDetail fields
  let frames ← traceback detail
  return errorOf detail message frames

/-- The result that the fields of a record hold. -/
def resultOf (fields : Fields) : Reading RunResult := do
  let usage ← usage fields
  if ← okMark fields then
    return .success ((fields.lookup "value").getD .null) usage
  else
    return .failure (← error fields) usage

/-- The result that a record of a run holds. -/
def runResult (record : Json) : Reading RunResult := do
  resultOf (← fieldsOf "run result" record)

/-! ## Progress -/

/-- The state of a record. -/
def state (fields : Fields) : Reading String :=
  match fields.lookup "state" with
  | some (.str state) => .ok state
  | some got => malformed (.stateNotText got)
  | none => malformed .noState

/-- The name of the function that is called, empty when it is missing. -/
def functionName (fields : Fields) : Reading String :=
  match fields.lookup "function_name" with
  | none => .ok ""
  | some .null => .ok ""
  | some (.str name) => .ok name
  | some got => malformed (.functionNotText got)

/-- The arguments by position, none when they are missing. -/
def arguments (fields : Fields) : Reading (List Json) :=
  match fields.lookup "arguments" with
  | none => .ok []
  | some .null => .ok []
  | some (.arr items) => .ok items
  | some got => malformed (.argumentsNotArray got)

/-- The arguments by name, absent when there are none. -/
def kwargs (fields : Fields) : Reading (Option (Dict String Json)) :=
  match fields.lookup "kwargs" with
  | none => .ok none
  | some .null => .ok none
  | some (.obj []) => .ok none
  | some (.obj entries) => .ok (some (.ofEntries entries))
  | some got => malformed (.kwargsNotObject got)

/-- The number of the call, zero when it is missing. -/
def callId (fields : Fields) : Reading UInt32 :=
  match fields.lookup "call_id" with
  | none => .ok 0
  | some .null => .ok 0
  | some got =>
    match got.asUInt32? with
    | some id => .ok id
    | none => malformed (.callIdNotNumber got)

/-- The call that the fields of a record hold. -/
def pendingCall (fields : Fields) : Reading PendingCall := do
  let function ← functionName fields
  let arguments ← arguments fields
  let kwargs ← kwargs fields
  let callId ← callId fields
  let isMethod := ((fields.lookup "method_call").bind Json.asBool?).getD false
  return { function, arguments, kwargs, callId, isMethod }

/-- The number of one call among several. -/
def awaitedId (value : Json) : Reading UInt32 :=
  match value.asUInt32? with
  | some id => .ok id
  | none => malformed (.callIdInvalid value)

/-- The numbers of the calls that wait for their answers. -/
def awaitedIds (fields : Fields) : Reading (List UInt32) :=
  match fields.lookup "pending_call_ids" with
  | none => .ok []
  | some .null => .ok []
  | some (.arr ids) => ids.mapM awaitedId
  | some got => malformed (.callIdsNotArray got)

/-- The progress that a record holds. In the state `error` the mark of success is not read. -/
def progress (record : Json) : Reading Progress := do
  let fields ← fieldsOf "progress result" record
  let state ← state fields
  if state = "complete" then
    return .complete (← resultOf fields)
  else if state = "error" then
    let usage ← usage fields
    return .complete (.failure (← error fields) usage)
  else if state = "pending" then
    return .pending (← pendingCall fields)
  else if state = "resolve_futures" then
    return .futures (← awaitedIds fields)
  else
    .error (.unknownState state)

/-! ## Global names -/

/-- What the entry of a global name holds: data, or the name of a type. -/
def global (name : String) (entry : Json) : Reading Global :=
  match entry with
  | .obj fields =>
    match fields.lookup "value" with
    | some value => .ok (.data value)
    | none => .ok (.foreign ((textAt? fields "type").getD "object"))
  | _ => malformed (.globalNotObject name)

/-- The entries of global names. -/
def globalEntries (entries : Fields) : Reading (List (String × Global)) :=
  entries.mapM fun entry => do return (entry.1, ← global entry.1 entry.2)

/-- The global names that a record holds. -/
def globals (record : Json) : Reading Globals := do
  let fields ← fieldsOf "globals result" record
  match (fields.lookup "globals").bind Json.asObject? with
  | none => malformed .noGlobals
  | some entries => return .ofEntries (← globalEntries entries)

end ScriptHost.Record
