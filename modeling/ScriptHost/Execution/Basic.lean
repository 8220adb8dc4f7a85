import ScriptHost.Json.Basic

/-!
# What an execution produces

A run ends with a result, which carries a value or the error that the script raised, and what it
used. An execution that is driven step by step makes progress: it is complete, or it is suspended on
a call to a function outside the script, or on a batch of calls whose answers were put off. After a
run the script's global names are bound to data or to something that is no data.

## Main definitions

* `ScriptHost.Usage`, `ScriptHost.Limits` — what an execution used, and what it may use.
* `ScriptHost.Frame`, `ScriptHost.ScriptError` — a frame of a traceback, and an error raised in a
  script.
* `ScriptHost.RunResult` — the result of a run.
* `ScriptHost.PendingCall`, `ScriptHost.Progress` — a call that waits for its answer, and the
  progress of an execution.
* `ScriptHost.Global` — what a global name is bound to.
-/

namespace ScriptHost

/-! ## Resources -/

/-- What an execution used. -/
structure Usage where
  /-- The most heap bytes in use at a time. -/
  memoryBytes : UInt64
  /-- The milliseconds spent. -/
  timeMs : UInt64
  /-- The depth of the deepest call stack. -/
  stackDepth : UInt64
deriving DecidableEq, Repr

/-- No use of anything. -/
def Usage.zero : Usage := ⟨0, 0, 0⟩

/-- What an execution may use; an absent limit is no limit. -/
structure Limits where
  /-- The most milliseconds. -/
  timeoutMs : Option UInt64
  /-- The most heap bytes. -/
  memoryBytes : Option UInt64
  /-- The deepest call stack. -/
  stackDepth : Option UInt64
deriving DecidableEq, Repr

namespace Limits

/-- No limit on anything. -/
def unlimited : Limits := ⟨none, none, none⟩

/-- Whether nothing is limited. -/
def isUnlimited (limits : Limits) : Bool :=
  limits.timeoutMs.isNone && limits.memoryBytes.isNone && limits.stackDepth.isNone

/-- The limits, and those of `defaults` where there are none. -/
def withDefaults (limits defaults : Limits) : Limits :=
  { timeoutMs := limits.timeoutMs.or defaults.timeoutMs
    memoryBytes := limits.memoryBytes.or defaults.memoryBytes
    stackDepth := limits.stackDepth.or defaults.stackDepth }

end Limits

/-! ## Results -/

/-- A frame of a traceback. -/
structure Frame where
  /-- The script that the frame belongs to. -/
  filename : String
  /-- The line where the frame's expression begins, from one. -/
  line : UInt32
  /-- The column where the frame's expression begins. -/
  column : UInt32
  /-- The name of the function. -/
  name : String
  /-- The source line. -/
  preview : Option String
deriving DecidableEq, Repr

/-- An error raised in a script. -/
structure ScriptError where
  /-- What went wrong. -/
  message : String
  /-- The class of the exception. -/
  excType : Option String
  /-- The script of the innermost frame. -/
  filename : Option String
  /-- The line of the innermost frame. -/
  line : Option UInt32
  /-- The column of the innermost frame. -/
  column : Option UInt32
  /-- The frames, the outermost first. -/
  traceback : List Frame
deriving DecidableEq, Repr

namespace ScriptError

/-- An error without a position. -/
def plain (excType : Option String) (message : String) : ScriptError :=
  { message, excType, filename := none, line := none, column := none, traceback := [] }

/-- The class and the message, or the message alone when the class is unknown. -/
def summary (error : ScriptError) : String :=
  match error.excType with
  | some excType => excType ++ ": " ++ error.message
  | none => error.message

end ScriptError

/-- The result of a run: failed when there is an error; a value that is absent stands for null. -/
structure RunResult where
  /-- The value of the last expression. -/
  value : Option Json
  /-- The error, if the script raised one. -/
  error : Option ScriptError
  /-- What the run used. -/
  usage : Usage
deriving DecidableEq

namespace RunResult

/-- A result with a value; null is stored as an absent value. -/
def success (value : Json) (usage : Usage) : RunResult :=
  { value := if value.isNull then none else some value, error := none, usage }

/-- A result with an error. -/
def failure (error : ScriptError) (usage : Usage) : RunResult :=
  { value := none, error := some error, usage }

/-- Whether the script raised an error. -/
def isError (result : RunResult) : Bool :=
  result.error.isSome

/-- The value, and null where it is absent. -/
def valueOrNull (result : RunResult) : Json :=
  result.value.getD .null

end RunResult

/-! ## Progress -/

/-- A call to a function outside the script that waits for its answer. -/
structure PendingCall where
  /-- The name of the function. -/
  function : String
  /-- The arguments by position. -/
  arguments : List Json
  /-- The arguments by name, absent when there are none. -/
  kwargs : Option (Dict String Json)
  /-- The number of the call, unique within an execution. -/
  callId : UInt32
  /-- Whether the call is a method call. -/
  isMethod : Bool
deriving DecidableEq

/-- The progress of an execution. -/
inductive Progress where
  /-- The execution is over. -/
  | complete (result : RunResult)
  /-- The execution waits for the answer to a call. -/
  | pending (call : PendingCall)
  /-- The execution waits for the answers to calls that were put off. -/
  | futures (callIds : List UInt32)
deriving DecidableEq

namespace Progress

/-- Whether the execution is over. -/
def isComplete : Progress → Bool
  | complete _ => true
  | _ => false

/-- The call that waits for its answer. -/
def pending? : Progress → Option PendingCall
  | pending call => some call
  | _ => none

/-- The word for the kind of progress. -/
def kind : Progress → String
  | complete _ => "complete"
  | pending _ => "pending"
  | futures _ => "resolve_futures"

end Progress

/-! ## Global names -/

/-- What a global name is bound to. -/
inductive Global where
  /-- JSON data. -/
  | data (value : Json)
  /-- Something that is no data, with the name of its type. -/
  | foreign (typeName : String)
deriving DecidableEq

/-- The data that a global name is bound to. -/
def Global.data? : Global → Option Json
  | data value => some value
  | foreign _ => none

/-- The global names of a script. -/
abbrev Globals := Dict String Global

end ScriptHost
