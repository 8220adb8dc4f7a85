import ScriptHost.Proofs.Channel.Message
import ScriptHost.Server.Connection

/-!
# Exchanges over a channel

A channel to a server is at rest when nothing is on its way: both buffers are empty and the server
waits for a line. A command that is sent over a channel at rest is carried out by the server, and
the channel is at rest again, whether the line fits the buffer or not. So a call over the channel is
the handling of its request as it is read, and the execution of its command when the texts of the
request and of the response are read back.

Over a stream that has ended every call fails, and the stream stays as it is.

## Main definitions

* `ScriptHost.Ndjson.atRest` — a channel on which nothing is on its way.
* `ScriptHost.Link.HasEnded` — a stream that has ended.

## Main results

* `ScriptHost.Ndjson.write_eq` — a line goes to the far end as a whole.
* `ScriptHost.Connection.receive_request` — the server answers the line of a request.
* `ScriptHost.Ndjson.call_eq` — a call is the handling of its request.
* `ScriptHost.Ndjson.call_atRest` — a legible call is the execution of its command.
* `ScriptHost.Ndjson.call_of_hasEnded` — a call over a stream that has ended fails.
-/

namespace ScriptHost

open Text

variable {σ ι ω : Type}

/-! ## The near end -/

namespace Ndjson

/-- A channel to a server on which nothing is on its way. -/
def atRest (nextId : UInt64) (server : Server ι ω) : Ndjson (Connection ι ω) :=
  ⟨nextId, [], [], ⟨server, [], true⟩⟩

lemma channel_call (codec : Codec) (link : Link σ) :
    (channel codec link).call = call codec link := rfl

lemma channel_close (codec : Codec) (link : Link σ) :
    (channel codec link).close = close link := rfl

/-- With an empty buffer there is nothing to be emptied. -/
lemma flush_of_empty {link : Link σ} {state : Ndjson σ} (h : state.unsent = []) :
    flush link state = (true, state) := by
  simp [flush, h]

/-- A line goes to the far end as a whole, through the buffer or past it.

**Proof sketch.** A line below the size of the buffer is gathered in it and the buffer is emptied; a
longer one is pushed past the buffer, which is empty. -/
lemma write_eq {link : Link σ} {state : Ndjson σ} {line back : List UInt8} {far : σ}
    (hunsent : state.unsent = []) (hline : line ≠ [])
    (hsend : link.send line state.link = (some back, far)) :
    write link line state =
      (true, { state with incoming := state.incoming ++ back, link := far }) := by
  have hpush : push link line state =
      (true, { state with incoming := state.incoming ++ back, link := far }) := by
    rw [push, hsend]
  have hplace : place link line state =
      (true, { state with incoming := state.incoming ++ back, link := far }) := by
    unfold place
    split
    · have hgathered : gather line state = { state with unsent := line } := by
        simp [gather, hunsent]
      have hempty : line.isEmpty = false := by
        simpa using hline
      rw [hgathered, flush]
      simp only [hempty, push, hsend, hunsent, Bool.false_eq_true, if_false]
    · exact hpush
  unfold write
  split
  · exact hplace
  · rw [flush_of_empty hunsent]
    exact hplace

/-- A line that decides a request is the first that is read. -/
lemma receive_endLine {codec : Codec} {id : UInt64} {bs : List UInt8} (h : Visible bs)
    {outcome : Except ChannelFault Json} (hjudge : judge codec id bs = some outcome) :
    receive codec id (endLine bs) = (outcome, []) := by
  have htake : takeLine (endLine bs) = some (endLine bs, []) := by
    simpa using takeLine_endLine h.lineFeed_notMem []
  rw [receive]
  split
  · rename_i hnone
    rw [htake] at hnone
    cases hnone
  · rename_i line rest hsome
    rw [htake] at hsome
    cases hsome
    rw [chomp_endLine h, hjudge]

/-- When its line was taken, a call ends by what came back. -/
lemma call_of_write {codec : Codec} {link : Link σ} {word : String} {params : Json}
    (state : Ndjson σ) {next : Ndjson σ}
    (h : write link (requestLine codec state.nextId word params)
      { state with nextId := state.nextId + 1 } = (true, next)) :
    call codec link word params state =
      ((receive codec state.nextId next.incoming).1,
        { next with incoming := (receive codec state.nextId next.incoming).2 }) := by
  rw [call]
  simp only [h]

end Ndjson

/-! ## The far end -/

namespace Connection

/-- Nothing of a line that has ended is left. -/
lemma lastPart_endLine (bs : List UInt8) : lastPart (endLine bs) = [] := by
  simp [lastPart, endLine]

/-- The line of a request is answered before the others. -/
lemma serveLines_request (factory : Engine.Factory ι ω) (request : Request)
    (rest : List (List UInt8)) {server after : Server ι ω} {response : Response}
    (h : Server.respond .compact factory (bytes request.toJson.compact) server =
      (response, after)) :
    Server.serveLines .compact factory (bytes request.toJson.compact :: rest) server =
      { Server.serveLines .compact factory rest after with
        responses := response :: (Server.serveLines .compact factory rest after).responses } := by
  have hblank : request.toJson.compact.toList.all isBlank = false := by
    obtain ⟨later, hlater⟩ := Json.exists_text_obj
      [("command", .str request.command), ("id", request.id), ("params", request.params)]
    rw [Request.toJson, Json.compact, String.toList_ofList, hlater]
    rfl
  rw [Server.serveLines, ofBytes?_bytes]
  simp only [hblank, h, Bool.false_eq_true, if_false]

/-- The server answers the line of a request with one response and waits for the next line. -/
lemma receive_request (factory : Engine.Factory ι ω) (request : Request) {server after : Server ι ω}
    {response : Response}
    (h : Server.respond .compact factory (bytes request.toJson.compact) server =
      (response, after)) :
    (link .compact factory).send (endLine (bytes request.toJson.compact)) ⟨server, [], true⟩ =
      (some (endLine (bytes response.toJson.compact)), ⟨after, [], true⟩) := by
  have hvisible := Json.visible_compact request.toJson
  have hserved := serveLines_request factory request [] h
  have hended : ([] ++ endLine (bytes request.toJson.compact)).take
      (([] ++ endLine (bytes request.toJson.compact)).length - ([] : List UInt8).length) =
        endLine (bytes request.toJson.compact) := by
    simp
  simp only [link, receive, if_true, List.nil_append, lastPart_endLine] at hended ⊢
  rw [hended, lines_endLine hvisible, hserved]
  simp [Server.spell, Server.serveLines, Codec.compact]

end Connection

/-! ## Exchanges -/

namespace Ndjson

/-- A call over a channel at rest ends by what the response of the server says, and the channel is
at rest again. -/
lemma call_of_respond (factory : Engine.Factory ι ω) {word : String} {params : Json} {id : UInt64}
    {server after : Server ι ω} {response : Response} {outcome : Except ChannelFault Json}
    (hrespond : Server.respond .compact factory
      (bytes (Request.toJson ⟨.ofUInt64 id, word, params⟩).compact) server = (response, after))
    (hjudge : judge .compact id (bytes response.toJson.compact) = some outcome) :
    call .compact (Connection.link .compact factory) word params (atRest id server) =
      (outcome, atRest (id + 1) after) := by
  have hsend := Connection.receive_request factory ⟨.ofUInt64 id, word, params⟩ hrespond
  have hline : requestLine .compact id word params =
      endLine (bytes (Request.toJson ⟨.ofUInt64 id, word, params⟩).compact) := by
    rw [requestLine, Codec.write_compact]
  rw [← hline] at hsend
  have hwrite : write (Connection.link .compact factory) (requestLine .compact id word params)
      (atRest (id + 1) server) = (true, { atRest (id + 1) server with
        incoming := [] ++ endLine (bytes response.toJson.compact)
        link := ⟨after, [], true⟩ }) :=
    write_eq rfl (by simp [hline, endLine]) hsend
  have hreceive := receive_endLine (Json.visible_compact _) hjudge
  refine (call_of_write (atRest id server) hwrite).trans ?_
  simp only [atRest, List.nil_append, hreceive]

/-- **Exchanges.** A call over a channel at rest is the handling of its request with the parameters
as they are read, and the channel is at rest again. When the parameters nest too deep, the server
does nothing.

**Proof sketch.** The line of the request goes to the server as a whole. The server handles the
request that it reads, if it reads one, and sends one line back, which decides the request. -/
theorem call_eq (factory : Engine.Factory ι ω) (word : String) (params : Json) (id : UInt64)
    (server : Server ι ω) :
    call .compact (Connection.link .compact factory) word params (atRest id server) =
      match params.tree.read? Request.depth with
      | none => (.error (.envelope .noId), atRest (id + 1) server)
      | some read =>
        (Response.heard (Server.handle factory ⟨.ofUInt64 id, word, read⟩ server).1.outcome,
          atRest (id + 1) (Server.handle factory ⟨.ofUInt64 id, word, read⟩ server).2) := by
  have hrequest := Request.ofBytes?_text_eq ⟨.ofUInt64 id, word, params⟩
    (Json.isLegible_ofUInt64 id _)
  cases hread : params.tree.read? Request.depth with
  | none =>
    rw [hread] at hrequest
    have hrespond : Server.respond .compact factory
        (bytes (Request.toJson ⟨.ofUInt64 id, word, params⟩).compact) server =
          (⟨.null, .error .unreadable⟩, server) := by
      rw [Server.respond, Codec.request?_compact, hrequest]
      rfl
    exact call_of_respond factory hrespond (judge_unreadable id)
  | some read =>
    rw [hread, Option.map_some] at hrequest
    obtain ⟨outcome, after, hhandle⟩ : ∃ outcome after,
        Server.handle factory ⟨.ofUInt64 id, word, read⟩ server =
          (⟨.ofUInt64 id, outcome⟩, after) := by
      unfold Server.handle
      split <;> exact ⟨_, _, rfl⟩
    have hrespond : Server.respond .compact factory
        (bytes (Request.toJson ⟨.ofUInt64 id, word, params⟩).compact) server =
          (⟨.ofUInt64 id, outcome⟩, after) := by
      rw [Server.respond, Codec.request?_compact, hrequest]
      exact hhandle
    simp only [hhandle]
    exact call_of_respond factory hrespond (judge_response id outcome)

/-- A call with legible parameters and a legible result is the execution of its command. -/
lemma call_atRest (factory : Engine.Factory ι ω) {word : String} {params : Json}
    {command : Command} (hcommand : Command.read word params = .ok command)
    (hparams : params.isLegible Request.depth = true) (id : UInt64) (server : Server ι ω)
    (hresult : ∀ result, (Server.execute factory command server).1 = .ok result →
      result.isLegible Request.depth = true) :
    call .compact (Connection.link .compact factory) word params (atRest id server) =
      (Response.learned (Server.execute factory command server).1,
        atRest (id + 1) (Server.execute factory command server).2) := by
  rw [call_eq, Json.read?_tree params hparams, ← Response.heard_eq_learned hresult]
  simp only [Server.handle, hcommand]

/-- A call whose parameters nest too deep fails, and the server does nothing. -/
lemma call_unread (factory : Engine.Factory ι ω) (word : String) {params : Json} {deep : Nat}
    (hparams : params.isLegible deep = true) (htooDeep : params.isLegible Request.depth = false)
    (id : UInt64) (server : Server ι ω) :
    call .compact (Connection.link .compact factory) word params (atRest id server) =
      (.error (.envelope .noId), atRest (id + 1) server) := by
  rw [call_eq, Json.read?_tree_eq params hparams, htooDeep, if_neg Bool.false_ne_true]

/-- A channel at rest ends when it is closed, and the server with it. -/
lemma close_atRest (factory : Engine.Factory ι ω) (id : UInt64) (server : Server ι ω) :
    close (Connection.link .compact factory) (atRest id server) =
      (.ok (), ⟨id, [], [], ⟨server.drop, [], false⟩⟩) := by
  rw [close, flush_of_empty rfl]
  simp [atRest, Connection.link, Connection.finish, Server.serve, lines_nil, Server.serveLines]

end Ndjson

/-! ## Streams that have ended -/

/-- A stream that refuses all bytes and does not end again. -/
structure Link.HasEnded (link : Link σ) (far : σ) : Prop where
  /-- It takes no bytes. -/
  send : ∀ bytes, link.send bytes far = (none, far)
  /-- Ending it changes nothing. -/
  finish : link.finish far = far

/-- A connection that is not open has ended. -/
lemma Connection.hasEnded (codec : Codec) (factory : Engine.Factory ι ω)
    {connection : Connection ι ω} (h : connection.isOpen = false) :
    (link codec factory).HasEnded connection where
  send bytes := by simp [link, h]
  finish := by simp [link, Connection.finish, h]

namespace Ndjson

variable {link : Link σ} {state : Ndjson σ}

lemma flush_of_hasEnded (h : link.HasEnded state.link) :
    ∃ done, flush link state = (done, state) ∧ (state.unsent ≠ [] → done = false) := by
  unfold flush
  split
  · rename_i hempty
    exact ⟨true, rfl, fun hne => absurd (by simpa using hempty) hne⟩
  · refine ⟨false, ?_, fun _ => rfl⟩
    rw [push, h.send]

lemma place_of_hasEnded (h : link.HasEnded state.link) {bytes : List UInt8} (hbytes : bytes ≠ []) :
    ∃ next, place link bytes state = (false, next) ∧ next.link = state.link := by
  unfold place
  split
  · have hgathered : link.HasEnded (gather bytes state).link := h
    obtain ⟨done, hflush, hdone⟩ := flush_of_hasEnded hgathered
    have hne : (gather bytes state).unsent ≠ [] := by
      simp [gather, hbytes]
    rw [hflush, hdone hne]
    exact ⟨_, rfl, rfl⟩
  · rw [push, h.send]
    exact ⟨_, rfl, rfl⟩

/-- Nothing is written to a stream that has ended, whether or not it fits the buffer. -/
lemma write_of_hasEnded (h : link.HasEnded state.link) {bytes : List UInt8} (hbytes : bytes ≠ []) :
    ∃ next, write link bytes state = (false, next) ∧ next.link = state.link := by
  unfold write
  split
  · exact place_of_hasEnded h hbytes
  · obtain ⟨done, hflush, -⟩ := flush_of_hasEnded h
    rw [hflush]
    cases done with
    | true => exact place_of_hasEnded h hbytes
    | false => exact ⟨_, rfl, rfl⟩

/-- A call over a stream that has ended fails. -/
lemma call_of_hasEnded (codec : Codec) (h : link.HasEnded state.link) (word : String)
    (params : Json) :
    ∃ next, call codec link word params state = (.error .io, next) ∧ next.link = state.link := by
  have hline : requestLine codec state.nextId word params ≠ [] := by
    simp [requestLine, endLine]
  have hstate : link.HasEnded { state with nextId := state.nextId + 1 }.link := h
  obtain ⟨next, hwrite, hnext⟩ := write_of_hasEnded hstate hline
  refine ⟨next, ?_, hnext⟩
  unfold call
  simp only [hwrite]

/-- Closing a channel whose stream has ended leaves the stream as it is. -/
lemma close_of_hasEnded (h : link.HasEnded state.link) :
    (close link state).2.link = state.link := by
  obtain ⟨done, hflush, -⟩ := flush_of_hasEnded h
  unfold close
  rw [hflush]
  cases done with
  | true => exact h.finish
  | false => rfl

end Ndjson

end ScriptHost
