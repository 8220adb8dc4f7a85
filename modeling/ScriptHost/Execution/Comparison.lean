import ScriptHost.Execution.Basic
import ScriptHost.Json.Printer

/-!
# Comparison of results and progress

Results, calls and progress are compared as data, under which the two zeros among the doubles are
equal. To find a value among many, a hash is fed with parts of it: with words and texts, JSON data
as its compact text. A value is taken for one seen before when the two feed the same and are the
same.

## Main definitions

* `same` of `RunResult`, `PendingCall`, `Progress`, `Global` and `Globals` — equality as data.
* `ScriptHost.Fed` — a word or a text that a hash is fed with.
* `feed` of `Usage`, `Limits`, `Frame`, `ScriptError`, `RunResult`, `PendingCall` and `Progress`.
* `ScriptHost.firstIndices` — which items of a list are the first of their kind.
-/

namespace ScriptHost

/-! ## Equality as data -/

/-- Two optional values, compared when both are there. -/
def sameOption {α : Type} (same : α → α → Bool) : Option α → Option α → Bool
  | none, none => true
  | some a, some b => same a b
  | _, _ => false

namespace RunResult

/-- Equality of results as data. -/
def same (a b : RunResult) : Bool :=
  sameOption Json.same a.value b.value && a.error == b.error && a.usage == b.usage

end RunResult

namespace PendingCall

/-- The keyword arguments as a value. -/
def kwargsJson (call : PendingCall) : Option Json :=
  call.kwargs.map Json.ofDict

/-- Equality of pending calls as data. -/
def same (a b : PendingCall) : Bool :=
  a.function == b.function && Json.same (.arr a.arguments) (.arr b.arguments) &&
    sameOption Json.same a.kwargsJson b.kwargsJson && a.callId == b.callId &&
    a.isMethod == b.isMethod

end PendingCall

namespace Progress

/-- Equality of progress as data. -/
def same : Progress → Progress → Bool
  | complete a, complete b => a.same b
  | pending a, pending b => a.same b
  | futures a, futures b => a == b
  | _, _ => false

end Progress

namespace Global

/-- Equality of bindings as data. -/
def same : Global → Global → Bool
  | data a, data b => a.same b
  | foreign a, foreign b => a == b
  | _, _ => false

end Global

namespace Globals

/-- Equality of entries as data. -/
def sameEntries : List (String × Global) → List (String × Global) → Bool
  | [], [] => true
  | (k, a) :: as, (l, b) :: bs => k == l && a.same b && sameEntries as bs
  | _, _ => false

/-- Equality of global names as data. -/
def same (a b : Globals) : Bool :=
  sameEntries a.entries b.entries

end Globals

/-! ## What a hash is fed with -/

/-- A word or a text that a hash is fed with. -/
inductive Fed where
  /-- A number, a truth value or the number of a case. -/
  | word (value : Nat)
  /-- A text. -/
  | text (value : String)
deriving DecidableEq, Repr

namespace Fed

/-- An optional part: the case, and what is fed for the part. -/
def option {α : Type} (feed : α → List Fed) : Option α → List Fed
  | none => [.word 0]
  | some a => .word 1 :: feed a

/-- A list of parts: its length, and what is fed for each part. -/
def list {α : Type} (feed : α → List Fed) (items : List α) : List Fed :=
  .word items.length :: items.flatMap feed

/-- A text alone. -/
def ofString (s : String) : List Fed :=
  [.text s]

/-- JSON data by its compact text. -/
def ofJson (json : Json) : List Fed :=
  [.text json.compact]

/-- A 32-bit word alone. -/
def ofUInt32 (n : UInt32) : List Fed :=
  [.word n.toNat]

/-- A 64-bit word alone. -/
def ofUInt64 (n : UInt64) : List Fed :=
  [.word n.toNat]

end Fed

/-- What is fed for a usage. -/
def Usage.feed (usage : Usage) : List Fed :=
  Fed.ofUInt64 usage.memoryBytes ++ Fed.ofUInt64 usage.timeMs ++ Fed.ofUInt64 usage.stackDepth

/-- What is fed for limits. -/
def Limits.feed (limits : Limits) : List Fed :=
  Fed.option Fed.ofUInt64 limits.timeoutMs ++ Fed.option Fed.ofUInt64 limits.memoryBytes ++
    Fed.option Fed.ofUInt64 limits.stackDepth

/-- What is fed for a frame. -/
def Frame.feed (frame : Frame) : List Fed :=
  Fed.ofString frame.filename ++ Fed.ofUInt32 frame.line ++ Fed.ofUInt32 frame.column ++
    Fed.ofString frame.name ++ Fed.option Fed.ofString frame.preview

/-- What is fed for an error. -/
def ScriptError.feed (error : ScriptError) : List Fed :=
  Fed.ofString error.message ++ Fed.option Fed.ofString error.excType ++
    Fed.option Fed.ofString error.filename ++ Fed.option Fed.ofUInt32 error.line ++
    Fed.option Fed.ofUInt32 error.column ++ Fed.list Frame.feed error.traceback

/-- What is fed for a result: its value as a text. -/
def RunResult.feed (result : RunResult) : List Fed :=
  Fed.option Fed.ofJson result.value ++ Fed.option ScriptError.feed result.error ++
    result.usage.feed

/-- What is fed for a pending call: its arguments as texts, without their number. -/
def PendingCall.feed (call : PendingCall) : List Fed :=
  Fed.ofString call.function ++ call.arguments.flatMap Fed.ofJson ++
    Fed.option Fed.ofJson call.kwargsJson ++ Fed.ofUInt32 call.callId ++
    [.word call.isMethod.toNat]

/-- What is fed for progress. -/
def Progress.feed : Progress → List Fed
  | complete result => .word 0 :: result.feed
  | pending call => .word 1 :: call.feed
  | futures ids => .word 2 :: Fed.list Fed.ofUInt32 ids

/-! ## Sets of values -/

/-- Whether an item is taken for one that a hash set holds: some item of the set feeds the same and
is the same. -/
def isKnown {α : Type} (feed : α → List Fed) (same : α → α → Bool) (kept : List α) (item : α) :
    Bool :=
  kept.any fun other => feed other == feed item && same other item

/-- The indices, from `index` on, of the items that a hash set with the items `kept` takes up. -/
def firstIndicesFrom {α : Type} (feed : α → List Fed) (same : α → α → Bool) (index : Nat)
    (kept : List α) : List α → List Nat
  | [] => []
  | item :: rest =>
    if isKnown feed same kept item then firstIndicesFrom feed same (index + 1) kept rest
    else index :: firstIndicesFrom feed same (index + 1) (item :: kept) rest

/-- The indices of the items that an empty hash set takes up, inserted in order. -/
def firstIndices {α : Type} (feed : α → List Fed) (same : α → α → Bool) (items : List α) :
    List Nat :=
  firstIndicesFrom feed same 0 [] items

end ScriptHost
