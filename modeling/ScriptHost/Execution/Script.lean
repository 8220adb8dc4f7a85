import ScriptHost.Execution.Basic

/-!
# Scripts and steps

A script is submitted either to be run to its end or to be driven step by step: it is started, and
whenever it waits for the answer to a call, the call is answered with a value or an error or is put
off; calls that were put off are answered later, in a batch.

Every step makes progress. Whether a script has to have a name depends on who is asked.

## Main definitions

* `ScriptHost.Script` — a script as it is submitted.
* `ScriptHost.Answers` — answers to calls that were put off.
* `ScriptHost.Step` — the ways to drive an execution.
-/

namespace ScriptHost

/-- A script as it is submitted. -/
structure Script (ν : Type) where
  /-- The source text. -/
  code : String
  /-- What the execution may use; absent, nothing is limited. -/
  limits : Option Limits
  /-- The name that tracebacks show. -/
  name : ν
deriving DecidableEq

/-- The script under another name. -/
def Script.rename {ν μ : Type} (f : ν → μ) (script : Script ν) : Script μ :=
  { code := script.code, limits := script.limits, name := f script.name }

/-- Answers to calls that were put off, by the numbers of the calls. -/
structure Answers where
  /-- The calls that are answered with a value. -/
  results : Dict UInt32 Json
  /-- The calls that are answered with the message of an error. -/
  errors : Dict UInt32 String
deriving DecidableEq

/-- The ways to drive an execution. -/
inductive Step (ν : Type) where
  /-- Starts a script that may call the named functions outside of it. -/
  | start (script : Script ν) (functions : List String)
  /-- Answers the call that waits with a value. -/
  | resume (value : Json)
  /-- Answers the call that waits with an error, which is raised in the script. -/
  | raise (message : String)
  /-- Puts off the call that waits. -/
  | postpone
  /-- Answers calls that were put off. -/
  | resolve (answers : Answers)
deriving DecidableEq

namespace Step

/-- The word for a step. -/
def word {ν : Type} : Step ν → String
  | start .. => "start"
  | resume _ => "resume"
  | raise _ => "resume_with_error"
  | postpone => "resume_as_future"
  | resolve _ => "resolve_futures"

/-- Whether a step puts off calls or answers calls that were put off. -/
def needsFutures {ν : Type} : Step ν → Bool
  | postpone => true
  | resolve _ => true
  | _ => false

/-- The step with the script under another name. -/
def rename {ν μ : Type} (f : ν → μ) : Step ν → Step μ
  | start script functions => start (script.rename f) functions
  | resume value => resume value
  | raise message => raise message
  | postpone => postpone
  | resolve answers => resolve answers

end Step

end ScriptHost
