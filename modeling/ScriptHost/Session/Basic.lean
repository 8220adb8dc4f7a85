import ScriptHost.Context.Operation
import ScriptHost.Session.Literal
import ScriptHost.Text.Identifier

/-!
# Sessions

An engine forgets its global names between runs. A session keeps those that are data and puts an
assignment for each of them in front of the next script. After a run without error the global names
that the run left behind take the place of the kept ones; after an error the kept ones stay.

The assignments take one line each, so the positions of errors are moved back by their number. It is
counted in 32 bits, as the lines of errors are.

## Main definitions

* `ScriptHost.Session` — a context and the kept variables.
* `ScriptHost.Session.preamble` — the assignments in front of a script.
* `ScriptHost.ScriptError.shifted` — an error whose positions are moved back.
* `ScriptHost.Session.run` — runs a script in a session.
-/

namespace ScriptHost

/-! ## Positions -/

/-- A line moved back by a number of lines, unless it is one of those lines. -/
def shiftLine (count line : UInt32) : UInt32 :=
  if count < line then line - count else line

/-- An error whose positions are moved back by a number of lines. -/
def ScriptError.shifted (count : UInt32) (error : ScriptError) : ScriptError :=
  { error with
    line := error.line.map (shiftLine count)
    traceback := error.traceback.map fun frame =>
      { frame with line := shiftLine count frame.line } }

/-! ## Sessions -/

/-- A context and the kept variables. -/
structure Session (ω : Type) where
  /-- The context. -/
  context : Context ω
  /-- The kept variables. -/
  kept : Dict String Json
  /-- Whether the session has been closed. -/
  closed : Bool

namespace Session

variable {ω α : Type}

/-- A session on a context, without variables. -/
def fresh (context : Context ω) : Session ω :=
  { context, kept := .empty, closed := false }

/-- Actions on a session. -/
abbrev Action (ω α : Type) := ExceptT Failure (StateM (Session ω)) α

/-- Acts on the context of a session. -/
def onContext (action : Context.Action ω α) : Action ω α :=
  ExceptT.mk fun session =>
    let (outcome, context) := action session.context
    (outcome, { session with context })

/-! ## Scripts -/

/-- The assignment of a value to a name, on a line of its own. -/
def assignment (entry : String × Json) : String :=
  entry.1 ++ " = " ++ entry.2.literal ++ "\n"

/-- The variables that a script can name. -/
def assignable (kept : Dict String Json) : List (String × Json) :=
  kept.entries.filter fun entry => Text.isIdentifier entry.1

/-- The assignments in front of a script. -/
def preamble (kept : Dict String Json) : String :=
  String.join ((assignable kept).map assignment)

/-- The number of lines in front of a script. -/
def preambleLines (kept : Dict String Json) : UInt32 :=
  UInt32.ofNat (assignable kept).length

/-- A submission with the assignments in front of its script. -/
def withPreamble (kept : Dict String Json) (submission : Submission) : Submission :=
  { submission with
    script := { submission.script with code := preamble kept ++ submission.script.code } }

/-- The global names that are data. -/
def capture (globals : Globals) : Dict String Json :=
  globals.filterMap Global.data?

/-- Runs a script with the kept variables in reach. An error that the script raises is part of the
result, with its positions counted from the first line of the script. -/
def run (backend : Backend ω) (submission : Submission) : Action ω RunResult := do
  let before ← get
  if before.closed then
    throw (.state "session run" [.idle] .disposed)
  unless ← onContext (Context.supportsGlobals backend) do
    throw (.unsupported backend.name "session")
  let result ← onContext (Context.run backend (withPreamble before.kept submission))
  match result.error with
  | some error =>
    return { result with error := some (error.shifted (preambleLines before.kept)) }
  | none =>
    let globals ← onContext (Context.globals backend)
    modify fun session => { session with kept := capture globals }
    return result

/-! ## The end -/

/-- Forgets the kept variables. -/
def clear (session : Session ω) : Session ω :=
  { session with kept := .empty }

/-- Closes a session; its context stays as it is. -/
def close (session : Session ω) : Session ω :=
  { session with kept := .empty, closed := true }

/-- Closes a session and disposes its context. -/
def dispose (backend : Backend ω) : Action ω Unit := do
  modify close
  onContext (Context.dispose backend)

end Session

end ScriptHost
