import ScriptHost.Channel.Ndjson
import ScriptHost.Server.Basic

/-!
# Serving over a link

A server at the far end of a link gets its requests piece by piece. It answers every line as soon as
the line has ended, and the end of the stream ends the last line. From then on the link refuses all
bytes.

## Main definitions

* `ScriptHost.Connection` — a server and the line that it is reading.
* `ScriptHost.Connection.link` — the link to the server.
-/

namespace ScriptHost

/-- A server and the line that it is reading. -/
structure Connection (ι ω : Type) where
  /-- The server. -/
  server : Server ι ω
  /-- What is there of a line that has not ended. -/
  begun : List UInt8
  /-- Whether the server still reads. -/
  isOpen : Bool

namespace Connection

variable {ι ω : Type}

/-- A connection to a server on which nothing was sent yet. -/
def fresh (server : Server ι ω) : Connection ι ω :=
  ⟨server, [], true⟩

/-- The bytes behind the last line feed. -/
def lastPart (stream : List UInt8) : List UInt8 :=
  (stream.reverse.takeWhile (· != Text.lineFeed)).reverse

/-- Answers the lines that have ended. -/
def receive (codec : Codec) (factory : Engine.Factory ι ω) (bytes : List UInt8)
    (connection : Connection ι ω) : List UInt8 × Connection ι ω :=
  let stream := connection.begun ++ bytes
  let begun := lastPart stream
  let ended := stream.take (stream.length - begun.length)
  let served := Server.serveLines codec factory (Text.lines ended) connection.server
  (Server.spell codec served.responses, ⟨served.server, begun, served.allText⟩)

/-- Serves the line that has not ended, and ends. -/
def finish (codec : Codec) (factory : Engine.Factory ι ω) (connection : Connection ι ω) :
    Connection ι ω :=
  if connection.isOpen then
    ⟨(Server.serve codec factory connection.begun connection.server).server, [], false⟩
  else connection

/-- The link to the server. -/
def link (codec : Codec) (factory : Engine.Factory ι ω) : Link (Connection ι ω) where
  send bytes connection :=
    if connection.isOpen then
      let (back, connection) := receive codec factory bytes connection
      (some back, connection)
    else (none, connection)
  finish := finish codec factory

end Connection

end ScriptHost
