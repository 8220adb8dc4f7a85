import ScriptHost.Engine.Basic
import ScriptHost.Json.Form
import ScriptHost.Json.Printer
import ScriptHost.Text.Utf8

/-!
# Channels and messages

A channel carries one command at a time to a far end and brings its result back. Both ends speak one
version of a protocol, and what they exchange are messages. A request carries a number that the
sender chose, a command and its parameters. Every request is answered with a response, which carries
the same number and the result, or the error for which the request was refused. A message is one
JSON object.

How messages are spelled on lines is a parameter of both ends of a stream. The spelling in use is
compact JSON text.

## Main definitions

* `ScriptHost.libraryVersion`, `ScriptHost.protocolVersion` — the version of the library and of the
  protocol that it speaks with engines behind a channel.
* `ScriptHost.Channel` — a channel in a world.
* `ScriptHost.Request` — a request; `ScriptHost.Request.toJson`, `ScriptHost.Request.ofBytes?` — how
  it is written and read.
* `ScriptHost.Refusal` — why a request is refused, with `ScriptHost.Refusal.code` and
  `ScriptHost.Refusal.message`.
* `ScriptHost.Response`, `ScriptHost.Response.toJson` — a response and how it is written.
* `ScriptHost.Codec` — writes JSON data as the bytes of a line and reads them;
  `ScriptHost.Codec.compact`, the spelling in use.
-/

namespace ScriptHost

/-! ## Versions -/

/-- The version of the library. -/
def libraryVersion : String := "0.1.0"

/-- The version of the protocol. -/
def protocolVersion : String := "1.0.0"

/-! ## Channels -/

/-- A channel in a world. -/
structure Channel (κ : Type) where
  /-- Sends a command with its parameters and waits for the result. -/
  call : String → Json → κ → Except ChannelFault Json × κ
  /-- Releases the channel. -/
  close : κ → Except ChannelFault Unit × κ

/-! ## Requests -/

/-- A request. -/
structure Request where
  /-- The number; the answering side takes any value for it. -/
  id : Json
  /-- The word of the command. -/
  command : String
  /-- The parameters. -/
  params : Json
deriving DecidableEq

namespace Request

/-- The object for a request, its fields in key order. -/
def toJson (request : Request) : Json :=
  .obj [("command", .str request.command), ("id", request.id), ("params", request.params)]

/-- The names of the parts. -/
def parts : List (List String) :=
  [["id"], ["command"], ["params"]]

/-- The value of a part of a request. -/
def part? (tree : Json.Tree) : Option Json :=
  tree.read? (Json.nestingLimit - 1)

/-- The request that a tree holds. Parameters that are left out are null, and what stands in unknown
fields is not looked at. -/
def ofTree? (tree : Json.Tree) : Option Request :=
  match tree.form? parts with
  | some [id, command, params] => do
    let id ← Form.required part? id
    let command ← (Form.required part? command).bind Json.asString?
    let params ← Form.defaulted .null part? params
    return { id, command, params }
  | _ => none

/-- The request that some bytes spell. -/
def ofBytes? (bytes : List UInt8) : Option Request :=
  (Json.Tree.ofBytes? bytes).bind ofTree?

end Request

/-! ## Refusals -/

/-- Why a request is refused. -/
inductive Refusal where
  /-- The text is no request. -/
  | unreadable
  /-- A parameter is missing or has the wrong shape. -/
  | parameter (name : String)
  /-- A key is not the number of a call. -/
  | notCallId (name key : String)
  /-- The sender speaks another version of the protocol. -/
  | version (requested : String)
  /-- The command is unknown. -/
  | unknownCommand (command : String)
  /-- There is no engine. -/
  | notInitialized
  /-- The engine broke down, or the factory that was to build it. -/
  | panicked (panic : Engine.Panic)
  /-- The engine refused. -/
  | engine (fault : EngineFault)
deriving DecidableEq

namespace Refusal

/-- The code of a refusal. -/
def code : Refusal → String
  | unreadable => "parse_error"
  | parameter _ => "invalid_params"
  | notCallId .. => "invalid_params"
  | version _ => "invalid_params"
  | unknownCommand _ => "unsupported_command"
  | notInitialized => "not_initialized"
  | panicked _ => "engine_panicked"
  | engine fault => fault.code

/-- The wording of a refusal. -/
def message : Refusal → String
  | unreadable => jsonDetail
  | parameter name => "missing or invalid parameter: " ++ name
  | notCallId name key => name ++ ": '" ++ key ++ "' is not a call id"
  | version requested =>
    "unsupported protocol version " ++ requested ++ " (host speaks " ++ protocolVersion ++ ")"
  | unknownCommand command => "Command '" ++ command ++ "' is not supported"
  | notInitialized => "engine has not been initialized"
  | panicked panic => "engine panicked: " ++ panic.message
  | engine fault => fault.message

/-- The object for a refusal. -/
def toJson (refusal : Refusal) : Json :=
  .obj [("code", .str refusal.code), ("message", .str refusal.message)]

end Refusal

/-! ## Responses -/

/-- A response: the number of the request, and its result or why it was refused. -/
structure Response where
  /-- The number of the request, null when the request could not be read. -/
  id : Json
  /-- The result or the refusal. -/
  outcome : Except Refusal Json

/-- The object for a response: the number, and either the result or the error. -/
def Response.toJson (response : Response) : Json :=
  .obj [("id", response.id),
    match response.outcome with
    | .ok result => ("result", result)
    | .error refusal => ("error", refusal.toJson)]

/-! ## Spellings -/

/-- Writes JSON data as the bytes of a line, the end of the line not included, and reads them. -/
structure Codec where
  /-- The bytes for a value. -/
  write : Json → List UInt8
  /-- The value of some bytes. -/
  read? : List UInt8 → Option Json
  /-- The request in some bytes. -/
  request? : List UInt8 → Option Request

/-- Compact JSON text. -/
def Codec.compact : Codec where
  write json := Text.bytes json.compact
  read? := Json.ofBytes?
  request? := Request.ofBytes?

end ScriptHost
