import ScriptHost.Channel.Message
import ScriptHost.Record.Encode
import ScriptHost.Server.Command
import ScriptHost.Text.Lines

/-!
# The serving side

A server holds at most one engine, which it builds when it is asked to. It answers the requests of a
connection one after the other, each line that is not blank by one response. An engine that panics
is dropped, and the server goes on. At the end of a connection the engine is dropped as well, unless
the connection ended at a line that is no text.

## Main definitions

* `ScriptHost.Server` — a factory's world and the engine.
* `ScriptHost.Server.execute` — carries out a command.
* `ScriptHost.Server.respond` — the response to a line.
* `ScriptHost.Server.serve` — the responses to the bytes of a connection.
-/

namespace ScriptHost

/-- A factory's world and the engine. -/
structure Server (ι ω : Type) where
  /-- The world of the factory. -/
  world : ω
  /-- The engine, when there is one. -/
  engine : Option ι

namespace Server

variable {ι ω : Type}

/-- No engine yet. -/
def idle (world : ω) : Server ι ω :=
  ⟨world, none⟩

/-- Whether there is an engine. -/
def isActive (server : Server ι ω) : Bool :=
  server.engine.isSome

/-- The engine is dropped. -/
def drop (server : Server ι ω) : Server ι ω :=
  { server with engine := none }

/-! ## Commands -/

/-- The result for an engine that is set up. -/
def initResult (capabilities : Capabilities) : Json :=
  .ofFields [("ok", .bool true), ("protocol_version", .str protocolVersion),
    ("capabilities", .ofFields capabilities.fields)]

/-- The result when no engine was set up. -/
def initRefused (reason : String) : Json :=
  .ofFields [("ok", .bool false), ("error", .str reason)]

/-- Sets an engine up unless there is one. -/
def init (factory : Engine.Factory ι ω) (server : Server ι ω) :
    Except Refusal Json × Server ι ω :=
  match server.engine with
  | some engine =>
    match factory.capabilities engine server.world with
    | .ok capabilities => (.ok (initResult capabilities), server)
    | .error panic => (.error (.panicked panic), server.drop)
  | none =>
    match factory.setUp server.world with
    | (.ok (engine, capabilities), world) => (.ok (initResult capabilities), ⟨world, some engine⟩)
    | (.error (.refused reason), world) => (.ok (initRefused reason), ⟨world, none⟩)
    | (.error (.panicked panic), world) => (.error (.panicked panic), ⟨world, none⟩)

/-- The result for an answer that an engine may refuse. -/
def lift {α : Type} (write : α → Json) : Except EngineFault α → Except Refusal Json
  | .ok value => .ok (write value)
  | .error fault => .error (.engine fault)

/-- The result for the answer to a call. -/
def result : (c : Engine.Call) → c.Answer → Except Refusal Json
  | .run _, answer => .ok answer.toRecord
  | .drive _, answer => lift Progress.toRecord answer
  | .snapshot, answer => lift (fun bytes => .obj [("bytes", .ofBytes bytes)]) answer
  | .restore _, answer => lift (fun _ => .obj [("ok", .bool true)]) answer
  | .globals, answer => lift Globals.toRecord answer

/-- Asks the engine. -/
def ask (factory : Engine.Factory ι ω) (c : Engine.Call) (server : Server ι ω) :
    Except Refusal Json × Server ι ω :=
  match server.engine with
  | none => (.error .notInitialized, server)
  | some engine =>
    match factory.call engine c server.world with
    | (.ok answer, world) => (result c answer, ⟨world, some engine⟩)
    | (.error panic, world) => (.error (.panicked panic), ⟨world, none⟩)

/-- Releases the engine. -/
def dispose (server : Server ι ω) : Except Refusal Json × Server ι ω :=
  (.ok (.ofFields [("ok", .bool true), ("disposed", .bool server.isActive)]), server.drop)

/-- Carries out a command. -/
def execute (factory : Engine.Factory ι ω) : Command → Server ι ω →
    Except Refusal Json × Server ι ω
  | .init => init factory
  | .call c => ask factory c
  | .dispose => dispose

/-! ## Requests -/

/-- The response to a request. -/
def handle (factory : Engine.Factory ι ω) (request : Request) (server : Server ι ω) :
    Response × Server ι ω :=
  match Command.read request.command request.params with
  | .error refusal => (⟨request.id, .error refusal⟩, server)
  | .ok command =>
    let (outcome, server) := execute factory command server
    (⟨request.id, outcome⟩, server)

/-- The response to a line. -/
def respond (codec : Codec) (factory : Engine.Factory ι ω) (line : List UInt8)
    (server : Server ι ω) : Response × Server ι ω :=
  match codec.request? line with
  | none => (⟨.null, .error .unreadable⟩, server)
  | some request => handle factory request server

/-! ## Connections -/

/-- What became of some lines. -/
structure Served (ι ω : Type) where
  /-- The responses in the order of the lines. -/
  responses : List Response
  /-- Whether all lines were texts; at a line that is none the connection ends. -/
  allText : Bool
  /-- The server behind the lines. -/
  server : Server ι ω

/-- Serves lines. -/
def serveLines (codec : Codec) (factory : Engine.Factory ι ω) :
    List (List UInt8) → Server ι ω → Served ι ω
  | [], server => ⟨[], true, server⟩
  | line :: rest, server =>
    match Text.ofBytes? line with
    | none => ⟨[], false, server⟩
    | some text =>
      if text.toList.all Text.isBlank then serveLines codec factory rest server
      else
        let (response, server) := respond codec factory line server
        let served := serveLines codec factory rest server
        { served with responses := response :: served.responses }

/-- Serves the bytes of a connection to their end. -/
def serve (codec : Codec) (factory : Engine.Factory ι ω) (stream : List UInt8)
    (server : Server ι ω) : Served ι ω :=
  let served := serveLines codec factory (Text.lines stream) server
  if served.allText then { served with server := served.server.drop } else served

/-- The bytes of responses, each on a line of its own. -/
def spell (codec : Codec) (responses : List Response) : List UInt8 :=
  responses.flatMap fun response => Text.endLine (codec.write response.toJson)

end Server

end ScriptHost
