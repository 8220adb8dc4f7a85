import ScriptHost.Channel.Message
import ScriptHost.Engine.Basic
import ScriptHost.Execution.Form

/-!
# Commands

A request for an engine names a command and brings its parameters. They are checked before the
engine is asked, so a refusal for a parameter comes before all others.

## Main definitions

* `ScriptHost.Command` — the commands with their parameters.
* `ScriptHost.Command.read` — the command that a word and parameters name.
-/

namespace ScriptHost

/-- The commands. -/
inductive Command where
  /-- Sets an engine up. -/
  | init
  /-- Asks the engine. -/
  | call (call : Engine.Call)
  /-- Releases the engine. -/
  | dispose
deriving DecidableEq

namespace Command

/-- The script name where a command gives none. -/
def standardName : String := "<input>"

/-! ## Parameters -/

/-- A text that must be given. -/
def text (params : Json) (name : String) : Except Refusal String :=
  match (params.get? name).bind Json.asString? with
  | some text => .ok text
  | none => .error (.parameter name)

/-- A part that may be left out or null. -/
def part {α : Type} (params : Json) (name : String) (absent : α) (read : Json → Option α) :
    Except Refusal α :=
  match params.get? name with
  | none => .ok absent
  | some .null => .ok absent
  | some given =>
    match read given with
    | some value => .ok value
    | none => .error (.parameter name)

/-- The script in the parameters. -/
def script (params : Json) : Except Refusal (Script String) := do
  let code ← text params "code"
  let limits ← part params "limits" none fun given => (Limits.ofJson? given).map some
  let name := ((params.get? "script_name").bind Json.asString?).getD standardName
  return { code, limits, name }

/-- The number in decimal digits, which a plus sign and zeros may precede. -/
def digitsOnly? (digits : List Char) : Option UInt32 :=
  if digits.isEmpty || !digits.all Char.isDigit then none
  else
    let value := digits.foldl (fun n c => 10 * n + (c.toNat - '0'.toNat)) 0
    if value < UInt32.size then some (UInt32.ofNat value) else none

/-- The number of a call that a key denotes. -/
def callId? (key : String) : Option UInt32 :=
  match key.toList with
  | '+' :: digits => digitsOnly? digits
  | digits => digitsOnly? digits

/-- The number and the value of an entry. -/
def keyedEntry {α : Type} (name : String) (read : Json → Option α) (entry : String × Json) :
    Except Refusal (UInt32 × α) :=
  match callId? entry.1 with
  | none => .error (.notCallId name entry.1)
  | some id =>
    match read entry.2 with
    | none => .error (.parameter name)
    | some value => .ok (id, value)

/-- The values by the numbers of calls; of several keys for one number the last counts. -/
def keyed {α : Type} (params : Json) (name : String) (read : Json → Option α) :
    Except Refusal (Dict UInt32 α) :=
  match params.get? name with
  | none => .ok .empty
  | some .null => .ok .empty
  | some (.obj entries) => do
    let entries ← entries.mapM (keyedEntry name read)
    return .ofEntries entries
  | some _ => .error (.parameter name)

/-! ## Commands -/

/-- Refuses another version of the protocol, when one is named. -/
def checkVersion (params : Json) : Except Refusal Unit :=
  match params.get? "protocol_version" with
  | some (.str requested) =>
    if requested = protocolVersion then .ok () else .error (.version requested)
  | _ => .ok ()

/-- The start of a script. -/
def start (params : Json) : Except Refusal (Step String) := do
  let script ← script params
  let functions ← part params "external_functions" [] (Json.itemsOf? Json.asString?)
  return .start script functions

/-- The answers to calls that were put off. -/
def answers (params : Json) : Except Refusal Answers := do
  let results ← keyed params "results" some
  let errors ← keyed params "errors" Json.asString?
  return { results, errors }

/-- The captured state in the parameters. -/
def state (params : Json) : Except Refusal (List UInt8) :=
  match (params.get? "bytes").bind Json.asBytes? with
  | some bytes => .ok bytes
  | none => .error (.parameter "bytes")

/-- The command that a word and parameters name. -/
def read (word : String) (params : Json) : Except Refusal Command :=
  match word with
  | "init" => (checkVersion params).map fun _ => .init
  | "run" => (script params).map fun script => .call (.run script)
  | "start" => (start params).map fun step => .call (.drive step)
  | "resume" => .ok (.call (.drive (.resume (params.getOrNull "value"))))
  | "resume_with_error" =>
    (text params "message").map fun message => .call (.drive (.raise message))
  | "resume_as_future" => .ok (.call (.drive .postpone))
  | "resolve_futures" => (answers params).map fun answers => .call (.drive (.resolve answers))
  | "snapshot" => .ok (.call .snapshot)
  | "restore" => (state params).map fun bytes => .call (.restore bytes)
  | "globals" => .ok (.call .globals)
  | "dispose" => .ok .dispose
  | _ => .error (.unknownCommand word)

end Command

end ScriptHost
