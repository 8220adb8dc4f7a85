import ScriptHost.Json.Form

/-!
# Capabilities

Beyond running and driving a script an engine may capture its state, put calls off, and report the
global names that a run left behind. Its capabilities say which of these it offers.

## Main definitions

* `ScriptHost.Capabilities` — which optional groups of operations are offered.
* `ScriptHost.Capabilities.toJson`, `ScriptHost.Capabilities.ofJson?` — their JSON form.
-/

namespace ScriptHost

/-- Which optional groups of operations are offered. -/
structure Capabilities where
  /-- Capturing the state and restoring it. -/
  snapshot : Bool
  /-- Capturing the state also while no execution is suspended. -/
  idleSnapshot : Bool
  /-- Putting calls off and answering them in a batch. -/
  futures : Bool
  /-- Reporting the global names. -/
  globals : Bool
deriving DecidableEq, Repr

namespace Capabilities

/-- No optional group of operations. -/
def none : Capabilities := ⟨false, false, false, false⟩

/-- The names of the parts. -/
def parts : List (List String) :=
  [["snapshot"], ["idle_snapshot"], ["futures"], ["namespace"]]

/-- The fields of the form. -/
def fields (c : Capabilities) : List (String × Json) :=
  [("snapshot", .bool c.snapshot), ("idle_snapshot", .bool c.idleSnapshot),
    ("futures", .bool c.futures), ("namespace", .bool c.globals)]

/-- The form of capabilities. -/
def toJson (c : Capabilities) : Json :=
  .obj c.fields

/-- The capabilities of a form; what is left out is not offered. -/
def ofJson? (json : Json) : Option Capabilities :=
  match json.form? parts with
  | some [snapshot, idle, futures, globals] => do
    let snapshot ← Form.defaulted false Json.asBool? snapshot
    let idleSnapshot ← Form.defaulted false Json.asBool? idle
    let futures ← Form.defaulted false Json.asBool? futures
    let globals ← Form.defaulted false Json.asBool? globals
    return { snapshot, idleSnapshot, futures, globals }
  | _ => .none

end Capabilities

end ScriptHost
