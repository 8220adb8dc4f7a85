import ScriptHost.Execution.Basic
import ScriptHost.Json.Printer

/-!
# Failures

Every operation on a context ends with a value or with a failure. Three kinds are kept apart: an
error that the script raised, a breach of the protocol or of the lifecycle, and a failure of the
channel to the engine. A failure says what caused it; its wording is in one function per kind.

Where a text could not be read as JSON or a stream failed, the failure does not say more, and its
wording has a placeholder in that place.

A context is idle, active while an execution is suspended in it, or disposed, which is final. A
failure names the states that an operation needs and the one that it found.

## Main definitions

* `ScriptHost.Lifecycle` — the states of a context.
* `ScriptHost.RecordFault`, `ScriptHost.ProtocolFault` — breaches of the protocol.
* `ScriptHost.ChannelFault` — failures of a channel.
* `ScriptHost.SnapshotFault` — bytes that are no snapshot, or not one of this backend.
* `ScriptHost.ArgumentFault`, `ScriptHost.ConfigFault` — arguments and settings that are refused.
* `ScriptHost.Failure` — all of them.
* `ScriptHost.EngineFault` — what an engine refuses, and `ScriptHost.EngineFault.lift`, the failure
  that a caller sees for it.
-/

namespace ScriptHost

/-! ## The states of a context -/

/-- The state of a context. -/
inductive Lifecycle where
  /-- No execution is in flight. -/
  | idle
  /-- An execution is suspended. -/
  | active
  /-- The context is released; nothing but another release is allowed. -/
  | disposed
deriving DecidableEq, Repr

/-- The word for a state. -/
def Lifecycle.name : Lifecycle → String
  | idle => "Idle"
  | active => "Active"
  | disposed => "Disposed"

/-! ## Placeholders -/

/-- What stands in a message where the reader of JSON would say more. -/
def jsonDetail : String := "<json>"

/-- What stands in a message where the system would say more. -/
def ioDetail : String := "<io>"

/-! ## The protocol -/

/-- Why a record is malformed. -/
inductive RecordFault where
  /-- The record is no object. -/
  | notObject (what : String)
  /-- The record has no state. -/
  | noState
  /-- The state is no text. -/
  | stateNotText (got : Json)
  /-- There are no global names in the record. -/
  | noGlobals
  /-- The entry of a global name is no object. -/
  | globalNotObject (name : String)
  /-- The mark of success is no truth value. -/
  | okNotBool (got : Json)
  /-- The usage is no object. -/
  | usageNotObject (got : Json)
  /-- The traceback is no array. -/
  | tracebackNotArray (got : Json)
  /-- A frame is no object. -/
  | frameNotObject
  /-- A frame has no script name. -/
  | frameWithoutFilename
  /-- A frame has no line. -/
  | frameWithoutLine
  /-- The name of a function is no text. -/
  | functionNotText (got : Json)
  /-- The arguments are no array. -/
  | argumentsNotArray (got : Json)
  /-- The keyword arguments are no object. -/
  | kwargsNotObject (got : Json)
  /-- The number of a call is no 32-bit number. -/
  | callIdNotNumber (got : Json)
  /-- The numbers of calls are no array. -/
  | callIdsNotArray (got : Json)
  /-- One of the numbers of calls is no 32-bit number. -/
  | callIdInvalid (got : Json)
  /-- The capabilities cannot be read. -/
  | capabilities
  /-- The bytes of a snapshot cannot be read. -/
  | snapshotBytes
deriving DecidableEq

/-- The wording of a malformed record. -/
def RecordFault.message : RecordFault → String
  | notObject what => what ++ " must be an object"
  | noState => "progress result missing state"
  | stateNotText got => "progress state must be a string, got " ++ got.compact
  | noGlobals => "globals result missing globals"
  | globalNotObject name => "global '" ++ name ++ "' is not an object"
  | okNotBool got => "ok flag must be a boolean, got " ++ got.compact
  | usageNotObject got => "usage must be an object, got " ++ got.compact
  | tracebackNotArray got => "traceback must be an array, got " ++ got.compact
  | frameNotObject => "traceback frame is not an object"
  | frameWithoutFilename => "traceback frame missing filename"
  | frameWithoutLine => "traceback frame missing start_line"
  | functionNotText got => "function_name must be a string, got " ++ got.compact
  | argumentsNotArray got => "arguments must be an array, got " ++ got.compact
  | kwargsNotObject got => "kwargs must be an object, got " ++ got.compact
  | callIdNotNumber got => "call_id must be a u32, got " ++ got.compact
  | callIdsNotArray got => "pending_call_ids must be an array, got " ++ got.compact
  | callIdInvalid got => "invalid pending call id " ++ got.compact
  | capabilities => "invalid capabilities: " ++ jsonDetail
  | snapshotBytes => "snapshot bytes: " ++ jsonDetail

/-- A breach of the protocol. -/
inductive ProtocolFault where
  /-- Progress has a state that is not known. -/
  | unknownState (state : String)
  /-- A record has the wrong shape. -/
  | malformed (fault : RecordFault)
  /-- The number of a call was used before in the same execution. -/
  | duplicateCallId (callId : UInt32)
  /-- The reply does not fit the request. -/
  | unexpectedReply (detail : String)
  /-- The engine refused a request in the state it is in. -/
  | rejected (detail : String)
deriving DecidableEq

/-- The wording of a breach of the protocol. -/
def ProtocolFault.message : ProtocolFault → String
  | unknownState state => "unknown progress state '" ++ state ++ "'"
  | malformed fault => "malformed wire record: " ++ fault.message
  | duplicateCallId callId =>
    "call id " ++ decimal callId.toNat ++ " was reused within one execution"
  | unexpectedReply detail => "unexpected reply: " ++ detail
  | rejected detail => "engine rejected request: " ++ detail

/-! ## The channel -/

/-- Why an envelope breaks the framing. -/
inductive EnvelopeFault where
  /-- The response has no request number. -/
  | noId
  /-- The response has the number of a request that was not sent yet. -/
  | idMismatch (expected got : UInt64)
  /-- Something else, in words. -/
  | other (detail : String)
deriving DecidableEq

/-- The wording of an envelope that breaks the framing. -/
def EnvelopeFault.message : EnvelopeFault → String
  | noId => "response missing id"
  | idMismatch expected got =>
    "response id mismatch (expected " ++ decimal expected.toNat ++ ", got " ++
      decimal got.toNat ++ ")"
  | other detail => detail

/-- An error that the far end reports. -/
structure RemoteFault where
  /-- The code, if it gives one. -/
  code : Option String
  /-- The message. -/
  message : String
deriving DecidableEq

/-- A failure of a channel. -/
inductive ChannelFault where
  /-- The far end could not set up an engine. -/
  | initFailed
  /-- The far end is gone. -/
  | closed (reason : String)
  /-- The stream failed. -/
  | io
  /-- A line is no JSON text. -/
  | json
  /-- An envelope breaks the framing. -/
  | envelope (fault : EnvelopeFault)
  /-- The far end reports an error. -/
  | remote (fault : RemoteFault)
deriving DecidableEq

/-- The wording of a failure of a channel. -/
def ChannelFault.message : ChannelFault → String
  | initFailed => "remote execution context could not be established"
  | closed reason => "channel closed: " ++ reason
  | io => "io error: " ++ ioDetail
  | json => "json error: " ++ jsonDetail
  | envelope fault => "malformed envelope: " ++ fault.message
  | remote fault => "remote error: " ++ fault.message

/-! ## Snapshots, arguments and settings -/

/-- Why bytes are no snapshot. -/
inductive SealFault where
  /-- There are fewer bytes than a header has. -/
  | tooShort (size : Nat)
  /-- The bytes do not begin as a snapshot does. -/
  | noMagic
  /-- The format has another version. -/
  | version (found : UInt8)
  /-- The bytes end within the header. -/
  | truncated
  /-- The digest is not that of the contents. -/
  | checksum
  /-- The name of the backend is not UTF-8. -/
  | nameNotUtf8
  /-- The engine could not read its own bytes. -/
  | reported (detail : String)
deriving DecidableEq

/-- The wording of bytes that are no snapshot. -/
def SealFault.message : SealFault → String
  | tooShort size => "snapshot is too short (" ++ decimal size ++ " bytes)"
  | noMagic => "missing snapshot magic"
  | version found => "unsupported snapshot format version " ++ decimal found.toNat
  | truncated => "snapshot header is truncated"
  | checksum => "snapshot checksum mismatch"
  | nameNotUtf8 => "backend name is not UTF-8"
  | reported detail => detail

/-- Why a state could not be captured. -/
inductive CaptureFault where
  /-- The name of the backend does not fit the header. -/
  | nameTooLong (size : Nat)
  /-- The backend refused. -/
  | reported (detail : String)
deriving DecidableEq

/-- The wording of a state that could not be captured. -/
def CaptureFault.message : CaptureFault → String
  | nameTooLong size => "backend name is too long (" ++ decimal size ++ " bytes)"
  | reported detail => detail

/-- A failure of a snapshot. -/
inductive SnapshotFault where
  /-- The bytes are no snapshot. -/
  | malformed (fault : SealFault)
  /-- The snapshot was taken on another backend. -/
  | backendMismatch (expected found : String)
  /-- The state could not be captured. -/
  | captureFailed (fault : CaptureFault)
deriving DecidableEq

/-- The wording of a failure of a snapshot. -/
def SnapshotFault.message : SnapshotFault → String
  | malformed fault => "malformed snapshot: " ++ fault.message
  | backendMismatch expected found =>
    "snapshot was taken on backend '" ++ found ++ "', cannot restore on '" ++ expected ++ "'"
  | captureFailed fault => "snapshot capture failed: " ++ fault.message

/-- Why arguments are refused. -/
inductive ArgumentFault where
  /-- A call is answered by a result and by an error. -/
  | answeredTwice (callId : UInt32)
  /-- A call is answered that was not put off. -/
  | notAwaiting (callId : UInt32)
  /-- Something else, in words. -/
  | other (detail : String)
deriving DecidableEq

/-- The wording of arguments that are refused. -/
def ArgumentFault.message : ArgumentFault → String
  | answeredTwice callId =>
    "call id " ++ decimal callId.toNat ++ " appears in both results and errors"
  | notAwaiting callId =>
    "call id " ++ decimal callId.toNat ++ " is not awaiting resolution"
  | other detail => detail

/-- Why settings are refused. -/
inductive ConfigFault where
  /-- The command queue has no room. -/
  | emptyBuffer
  /-- The worker has no name. -/
  | emptyWorkerName
deriving DecidableEq

/-- The wording of settings that are refused. -/
def ConfigFault.message : ConfigFault → String
  | emptyBuffer => "command_buffer must be at least 1"
  | emptyWorkerName => "worker_thread_name must not be empty"

/-! ## All failures -/

/-- A failure of an operation. -/
inductive Failure where
  /-- The script raised an error while it was driven step by step. -/
  | sandbox (error : ScriptError) (usage : Usage)
  /-- The operation is not allowed in the state of the context. -/
  | state (operation : String) (allowed : List Lifecycle) (actual : Lifecycle)
  /-- The protocol was breached. -/
  | protocol (fault : ProtocolFault)
  /-- The channel failed. -/
  | channel (fault : ChannelFault)
  /-- The backend does not offer the operation. -/
  | unsupported (backend operation : String)
  /-- A snapshot could not be taken or restored. -/
  | snapshot (fault : SnapshotFault)
  /-- The arguments are refused. -/
  | argument (fault : ArgumentFault)
  /-- The settings are refused. -/
  | config (fault : ConfigFault)
deriving DecidableEq

namespace Failure

/-- The channel is closed. -/
abbrev closed (reason : String) : Failure :=
  channel (.closed reason)

/-- Whether the failure says that the far end is gone. -/
def isClosed : Failure → Bool
  | channel (.closed _) => true
  | _ => false

/-- The states that an operation allows, in words. -/
def allowedText (allowed : List Lifecycle) : String :=
  String.intercalate " or " (allowed.map Lifecycle.name)

/-- The wording of a failure. -/
def message : Failure → String
  | sandbox error _ => "sandbox error: " ++ error.summary
  | state operation allowed actual =>
    "state violation: `" ++ operation ++ "` requires the context to be " ++ allowedText allowed ++
      ", but it is " ++ actual.name
  | protocol fault => "protocol violation: " ++ fault.message
  | channel fault => "channel failure: " ++ fault.message
  | unsupported backend operation =>
    "capability error: backend '" ++ backend ++ "' does not support " ++ operation
  | snapshot fault => "snapshot error: " ++ fault.message
  | argument fault => "invalid argument: " ++ fault.message
  | config fault => "configuration error: " ++ fault.message

end Failure

/-! ## What an engine refuses -/

/-- What an engine refuses; errors of the script are no faults of the engine. -/
inductive EngineFault where
  /-- The engine does not have the operation. -/
  | unsupported (operation : String)
  /-- The operation does not fit the state of the engine. -/
  | invalidState (detail : String)
  /-- The bytes are no state of this engine. -/
  | malformedSnapshot (detail : String)
deriving DecidableEq

namespace EngineFault

/-- The code of a fault on the wire. -/
def code : EngineFault → String
  | unsupported _ => "unsupported"
  | invalidState _ => "invalid_state"
  | malformedSnapshot _ => "malformed_snapshot"

/-- The wording of a fault. -/
def message : EngineFault → String
  | unsupported operation => "engine does not support " ++ operation
  | invalidState detail => "invalid engine state: " ++ detail
  | malformedSnapshot detail => "malformed snapshot: " ++ detail

/-- The failure that a caller of a backend sees for a fault. -/
def lift (backend : String) : EngineFault → Failure
  | unsupported operation => .unsupported backend operation
  | invalidState detail => .protocol (.rejected detail)
  | malformedSnapshot detail => .snapshot (.malformed (.reported detail))

end EngineFault

end ScriptHost
