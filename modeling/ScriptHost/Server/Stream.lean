import ScriptHost.Server.Connection

/-!
# Serving a connection that may fail

A connection brings bytes, and reading may fail behind them. The responses go to a writer, which may
fail as well. The server answers one line after the other until something fails or the bytes are at
their end. It drops the engine at the end of the bytes and nowhere else.

## Main definitions

* `ScriptHost.Source` — what a connection brings.
* `ScriptHost.Writer`, `ScriptHost.Writer.buffer` — where responses go to, and a writer that takes
  everything.
* `ScriptHost.Server.Ending`, `ScriptHost.Server.Conveyed` — how the serving of a connection ends,
  and what becomes of the connection.
* `ScriptHost.Server.serveTo` — serves a connection.
-/

namespace ScriptHost

/-! ## Both directions of a connection -/

/-- What a connection brings. -/
structure Source where
  /-- The bytes that are read. -/
  bytes : List UInt8
  /-- Whether reading fails behind the bytes; otherwise they are at their end. -/
  breaks : Bool

/-- The lines that are read. A line that reading fails in is not one of them. -/
def Source.lines (source : Source) : List (List UInt8) :=
  if source.breaks then
    let begun := Connection.lastPart source.bytes
    Text.lines (source.bytes.take (source.bytes.length - begun.length))
  else Text.lines source.bytes

/-- Where responses go to. -/
structure Writer (σ : Type) where
  /-- Takes bytes; says whether it took all of them. -/
  write : List UInt8 → σ → Bool × σ
  /-- Passes on the bytes that it took; says whether it could. -/
  flush : σ → Bool × σ

namespace Writer

variable {σ : Type}

/-- Writes bytes and passes them on. -/
def send (writer : Writer σ) (bytes : List UInt8) (far : σ) : Bool × σ :=
  match writer.write bytes far with
  | (true, far) => writer.flush far
  | (false, far) => (false, far)

/-- A writer that takes everything and keeps it. -/
def buffer : Writer (List UInt8) where
  write bytes kept := (true, kept ++ bytes)
  flush kept := (true, kept)

end Writer

namespace Server

variable {ι ω σ : Type}

/-! ## Serving -/

/-- How the serving of a connection ends. -/
inductive Ending where
  /-- The bytes are at their end. -/
  | finished
  /-- Reading fails. -/
  | unread
  /-- A line is no text. -/
  | notText
  /-- Writing a response fails. -/
  | unwritten
deriving DecidableEq

/-- What became of a connection. -/
structure Conveyed (ι ω σ : Type) where
  /-- How serving it ended. -/
  ending : Ending
  /-- The server behind it. -/
  server : Server ι ω
  /-- The world of the writer. -/
  far : σ

/-- Serves lines until something fails. -/
def serveLinesTo (codec : Codec) (factory : Engine.Factory ι ω) (writer : Writer σ) :
    List (List UInt8) → Server ι ω → σ → Conveyed ι ω σ
  | [], server, far => ⟨.finished, server, far⟩
  | line :: rest, server, far =>
    match Text.ofBytes? line with
    | none => ⟨.notText, server, far⟩
    | some text =>
      if text.toList.all Text.isBlank then serveLinesTo codec factory writer rest server far
      else
        let (response, server) := respond codec factory line server
        match writer.send (Text.endLine (codec.write response.toJson)) far with
        | (true, far) => serveLinesTo codec factory writer rest server far
        | (false, far) => ⟨.unwritten, server, far⟩

/-- Serves a connection. The engine is dropped at the end of the bytes, and stays when something
fails before. -/
def serveTo (codec : Codec) (factory : Engine.Factory ι ω) (writer : Writer σ) (source : Source)
    (server : Server ι ω) (far : σ) : Conveyed ι ω σ :=
  let conveyed := serveLinesTo codec factory writer source.lines server far
  match conveyed.ending with
  | .finished =>
    if source.breaks then { conveyed with ending := .unread }
    else { conveyed with server := conveyed.server.drop }
  | _ => conveyed

end Server

end ScriptHost
