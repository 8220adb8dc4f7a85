import ScriptHost.Channel.Message
import ScriptHost.Text.Lines

/-!
# Channels over streams of lines

This channel writes every command as a request on a line of its own, and reads lines until the
response comes. Requests are numbered from one, also across requests that failed. A response with a
lower number answers a request that was given up, and is passed over; one with a higher number
breaks the framing.

Bytes that are to be written gather in a buffer of limited size, which is emptied behind every
request. A line that does not fit the buffer goes to the stream at once.

## Main definitions

* `ScriptHost.Link` — a stream to a far end and back.
* `ScriptHost.Ndjson` — the state of a channel over a link.
* `ScriptHost.Ndjson.judge`, `ScriptHost.Ndjson.receive` — what a line says about a request, and the
  first line that decides it.
* `ScriptHost.Ndjson.channel` — the channel over a link.
-/

namespace ScriptHost

/-- A stream to a far end and back. The far end answers at once: what it sends back is there when
the bytes for it have been handed over, and nothing follows later. -/
structure Link (σ : Type) where
  /-- Hands over bytes; the result is what comes back, or nothing when the stream refuses. -/
  send : List UInt8 → σ → Option (List UInt8) × σ
  /-- Ends the stream to the far end. -/
  finish : σ → σ

/-- The state of a channel over a link. -/
structure Ndjson (σ : Type) where
  /-- The number of the next request. -/
  nextId : UInt64
  /-- The bytes that wait to be written. -/
  unsent : List UInt8
  /-- The bytes that came back and have not been read. -/
  incoming : List UInt8
  /-- The state of the link. -/
  link : σ

namespace Ndjson

variable {σ : Type}

/-- A channel that was not used yet, with bytes that are there to be read. -/
def fresh (link : σ) (incoming : List UInt8) : Ndjson σ :=
  ⟨1, [], incoming, link⟩

/-! ## Writing -/

/-- The size of the buffer. -/
def bufferSize : Nat := 8192

/-- Hands over bytes past the buffer; says whether the stream took them. -/
def push (link : Link σ) (bytes : List UInt8) (state : Ndjson σ) : Bool × Ndjson σ :=
  match link.send bytes state.link with
  | (some back, far) => (true, { state with incoming := state.incoming ++ back, link := far })
  | (none, far) => (false, { state with link := far })

/-- Empties the buffer; what the stream refuses stays in it. -/
def flush (link : Link σ) (state : Ndjson σ) : Bool × Ndjson σ :=
  if state.unsent.isEmpty then (true, state)
  else
    match push link state.unsent state with
    | (true, state) => (true, { state with unsent := [] })
    | (false, state) => (false, state)

/-- Puts bytes behind those in the buffer. -/
def gather (bytes : List UInt8) (state : Ndjson σ) : Ndjson σ :=
  { state with unsent := state.unsent ++ bytes }

/-- Writes bytes once the buffer has room for them, or past the buffer when they would fill it. -/
def place (link : Link σ) (bytes : List UInt8) (state : Ndjson σ) : Bool × Ndjson σ :=
  if bytes.length < bufferSize then flush link (gather bytes state)
  else push link bytes state

/-- Writes bytes and empties the buffer. -/
def write (link : Link σ) (bytes : List UInt8) (state : Ndjson σ) : Bool × Ndjson σ :=
  if state.unsent.length + bytes.length ≤ bufferSize then place link bytes state
  else
    match flush link state with
    | (true, state) => place link bytes state
    | (false, state) => (false, state)

/-! ## Reading -/

/-- The message of an error that has none. -/
def unknownMessage : String := "unknown remote error"

/-- The error in a response. -/
def remoteFault (error : Json) : RemoteFault :=
  { code := (error.get? "code").bind Json.asString?
    message := ((error.get? "message").bind Json.asString?).getD unknownMessage }

/-- What a response says: an error when there is a field for one, and else the result, which is null
when it is left out. -/
def outcome (response : Json) : Except ChannelFault Json :=
  match response.get? "error" with
  | some error => .error (.remote (remoteFault error))
  | none => .ok (response.getOrNull "result")

/-- What a line says about the request with a number: nothing, or how the request ends. -/
def judge (codec : Codec) (id : UInt64) (line : List UInt8) :
    Option (Except ChannelFault Json) :=
  if line.all Text.isAsciiBlank then none
  else
    match codec.read? line with
    | none => some (.error .json)
    | some response =>
      match (response.get? "id").bind Json.asUInt64? with
      | none => some (.error (.envelope .noId))
      | some got =>
        if got < id then none
        else if got = id then some (outcome response)
        else some (.error (.envelope (.idMismatch id got)))

/-- How the request with a number ends by the lines of a stream, and what is left of the stream. -/
def receive (codec : Codec) (id : UInt64) (stream : List UInt8) :
    Except ChannelFault Json × List UInt8 :=
  match _h : Text.takeLine stream with
  | none => (.error (.closed "connection closed by peer"), [])
  | some (line, rest) =>
    match judge codec id (Text.chomp line) with
    | none => receive codec id rest
    | some outcome => (outcome, rest)
termination_by stream.length
decreasing_by exact Text.length_lt_of_takeLine _h

/-! ## The channel -/

/-- The line for a request. -/
def requestLine (codec : Codec) (id : UInt64) (command : String) (params : Json) : List UInt8 :=
  Text.endLine (codec.write (Request.toJson ⟨.ofUInt64 id, command, params⟩))

/-- Sends a request and receives its result. -/
def call (codec : Codec) (link : Link σ) (command : String) (params : Json) (state : Ndjson σ) :
    Except ChannelFault Json × Ndjson σ :=
  let id := state.nextId
  match write link (requestLine codec id command params) { state with nextId := id + 1 } with
  | (false, state) => (.error .io, state)
  | (true, state) =>
    let (outcome, incoming) := receive codec id state.incoming
    (outcome, { state with incoming })

/-- Empties the buffer and ends the stream. -/
def close (link : Link σ) (state : Ndjson σ) : Except ChannelFault Unit × Ndjson σ :=
  match flush link state with
  | (true, state) => (.ok (), { state with link := link.finish state.link })
  | (false, state) => (.error .io, state)

/-- The channel over a link. -/
def channel (codec : Codec) (link : Link σ) : Channel (Ndjson σ) where
  call := call codec link
  close := close link

end Ndjson

end ScriptHost
