import ScriptHost.Backend.Basic
import ScriptHost.Channel.Message
import ScriptHost.Execution.Form

/-!
# Engines behind a channel

This backend sends each call as a command over a channel. What the far end answers about an
execution is passed on as a record. Errors that the far end reports are told apart by their codes;
once one of them, or the channel, says that the engine is gone, the backend counts as not connected
and offers nothing until it is initialized again.

## Main definitions

* `ScriptHost.Remote` — a channel's world and what is known about the far end.
* `ScriptHost.Remote.params` — the parameters of the command for a call.
* `ScriptHost.Remote.lift` — the failure for an error that the far end reports.
* `ScriptHost.Remote.backend` — the backend over a channel.
-/

namespace ScriptHost

/-- A channel's world and what is known about the far end. -/
structure Remote (κ : Type) where
  /-- The world of the channel. -/
  channel : κ
  /-- Whether the far end has an engine. -/
  connected : Bool
  /-- What the engine offers, and nothing when there is none. -/
  capabilities : Capabilities

namespace Remote

variable {κ : Type}

/-- No engine yet. -/
def idle (channel : κ) : Remote κ :=
  ⟨channel, false, .none⟩

/-- The name of the backend. -/
def backendName : String := "wire"

/-! ## Commands -/

/-- The parameters of a script. -/
def scriptParams (script : Script (Option String)) : List (String × Json) :=
  Form.written [("code", some (.str script.code)),
    ("limits", script.limits.map fun limits => .ofFields limits.fields),
    ("script_name", script.name.map .str)]

/-- Values by the numbers of calls, the numbers written as keys. -/
def keyed {α : Type} (write : α → Json) (entries : Dict UInt32 α) : Json :=
  .ofFields (entries.entries.map fun entry => (decimal entry.1.toNat, write entry.2))

/-- The parameters of a step. -/
def stepParams : Step (Option String) → List (String × Json)
  | .start script functions =>
    scriptParams script ++ [("external_functions", .arr (functions.map .str))]
  | .resume value => [("value", value)]
  | .raise message => [("message", .str message)]
  | .postpone => []
  | .resolve answers =>
    [("results", keyed id answers.results), ("errors", keyed .str answers.errors)]

/-- The parameters of the command for a call. -/
def params (c : Backend.Call) : Json :=
  .ofFields <| match c with
    | .init => [("protocol_version", .str protocolVersion)]
    | .run script => scriptParams script
    | .drive step => stepParams step
    | .restore bytes => [("bytes", .ofBytes bytes)]
    | _ => []

/-! ## Errors of the far end -/

/-- The failure for an error that the far end reports on a command. -/
def lift (command : String) (fault : RemoteFault) : Failure :=
  match fault.code with
  | some "unsupported" => .unsupported backendName command
  | some "malformed_snapshot" => .snapshot (.malformed (.reported fault.message))
  | some "invalid_state" => .protocol (.rejected fault.message)
  | some "engine_panicked" => .closed fault.message
  | some "not_initialized" => .closed fault.message
  | _ => .channel (.remote fault)

/-- A failure of the channel as one of the backend. -/
def liftChannel (command : String) : ChannelFault → Failure
  | .remote fault => lift command fault
  | fault => .channel fault

/-- The far end has no engine. -/
def disconnect (remote : Remote κ) : Remote κ :=
  { remote with connected := false, capabilities := .none }

/-- Sends the command for a call. -/
def send (channel : Channel κ) (c : Backend.Call) (remote : Remote κ) :
    Except Failure Json × Remote κ :=
  match channel.call c.word (params c) remote.channel with
  | (.ok result, world) => (.ok result, { remote with channel := world })
  | (.error fault, world) =>
    let failure := liftChannel c.word fault
    let remote := { remote with channel := world }
    (.error failure, if failure.isClosed then remote.disconnect else remote)

/-! ## Calls -/

/-- The capabilities in a reply to the initialization; none when it has none. -/
def capabilitiesOf (reply : Json) : Except Failure Capabilities :=
  match reply.get? "capabilities" with
  | none => .ok .none
  | some advertised =>
    match Capabilities.ofJson? advertised with
    | some capabilities => .ok capabilities
    | none => .error (.protocol (.malformed .capabilities))

/-- Sets an engine up unless there is one. -/
def connect (channel : Channel κ) (remote : Remote κ) : Except Failure Bool × Remote κ :=
  if remote.connected then (.ok true, remote)
  else
    match send channel .init remote with
    | (.error failure, remote) => (.error failure, remote)
    | (.ok reply, remote) =>
      if reply.get? "ok" = some (.bool true) then
        match capabilitiesOf reply with
        | .ok capabilities => (.ok true, { remote with connected := true, capabilities })
        | .error failure => (.error failure, remote)
      else (.ok false, remote)

/-- The bytes in a reply. -/
def bytesOf (reply : Json) : Except Failure (List UInt8) :=
  match (reply.getOrNull "bytes").asBytes? with
  | some bytes => .ok bytes
  | none => .error (.protocol (.malformed .snapshotBytes))

/-- Releases the engine and the channel. Of two failures the one of the command counts. -/
def release (channel : Channel κ) (remote : Remote κ) : Except Failure Unit × Remote κ :=
  let (outcome, remote) := send channel .dispose remote
  let (closed, world) := channel.close remote.channel
  (outcome.bind fun _ => closed.mapError .channel, ⟨world, false, .none⟩)

/-- The backend over a channel. -/
def backend (channel : Channel κ) : Backend (Remote κ) where
  name := backendName
  offers := capabilities
  call
    | .init => connect channel
    | .run script => fun remote =>
      let (outcome, remote) := send channel (.run script) remote
      (outcome.map .record, remote)
    | .drive step => fun remote =>
      let (outcome, remote) := send channel (.drive step) remote
      (outcome.map .record, remote)
    | .snapshot => fun remote =>
      let (outcome, remote) := send channel .snapshot remote
      (outcome.bind bytesOf, remote)
    | .restore bytes => fun remote =>
      let (outcome, remote) := send channel (.restore bytes) remote
      (outcome.map fun _ => (), remote)
    | .globals => fun remote =>
      let (outcome, remote) := send channel .globals remote
      (outcome.map .record, remote)
    | .dispose => release channel

end Remote

end ScriptHost
