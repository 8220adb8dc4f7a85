import ScriptHost.Proofs.Channel.Exchange
import ScriptHost.Proofs.Server.Command
import ScriptHost.Proofs.Server.Lifecycle
import ScriptHost.Scripted.Engine
import ScriptHost.Server.Stream

/-!
# The engine behind a connection

A server drops its engine when a connection comes to its end. When reading or writing fails, or a
line is no text, it leaves without doing so: the engine is then what the lines so far left, and the
next connection finds it. With a writer that takes everything, all of this is the serving of bytes.

## Main definitions

* `ScriptHost.Server.deliver` — hands responses to a writer.
* `ScriptHost.Server.Ends` — how the serving of a connection ends.

## Main results

* `ScriptHost.Server.serveTo_buffer` — serving to a writer that takes everything.
* `ScriptHost.Server.exists_ends` — which lines are answered, and what ends the connection.
* `ScriptHost.Server.engine_behind_connection` — the engine that a connection leaves.
* `ScriptHost.Server.engine_outlives_connection` — an execution that the next connection resumes.
-/

namespace ScriptHost

open Text

namespace Server

variable {ι ω σ : Type}

section Connections

variable (codec : Codec) (factory : Engine.Factory ι ω)

/-! ## A writer that takes everything -/

/-- Serving lines to a writer that takes everything is serving them. -/
lemma serveLinesTo_buffer (ls : List (List UInt8)) (server : Server ι ω) (far : List UInt8) :
    serveLinesTo codec factory .buffer ls server far =
      ⟨if (serveLines codec factory ls server).allText then .finished else .notText,
        (serveLines codec factory ls server).server,
        far ++ spell codec (serveLines codec factory ls server).responses⟩ := by
  induction ls generalizing server far with
  | nil => simp [serveLinesTo, serveLines, spell]
  | cons line rest ih =>
    rw [serveLinesTo, serveLines]
    cases ofBytes? line with
    | none => simp [spell]
    | some text =>
      dsimp only
      split
      · exact ih server far
      · simp only [Writer.send, Writer.buffer] at ih ⊢
        rw [ih]
        simp [spell]

/-- **Serving to a writer that takes everything is serving.** -/
theorem serveTo_buffer (stream : List UInt8) (server : Server ι ω) (far : List UInt8) :
    let served := serve codec factory stream server
    serveTo codec factory .buffer ⟨stream, false⟩ server far =
      ⟨if served.allText then .finished else .notText, served.server,
        far ++ spell codec served.responses⟩ := by
  intro served
  have hlines : Source.lines ⟨stream, false⟩ = lines stream := rfl
  simp only [serveTo, served, serve, hlines, serveLinesTo_buffer]
  rcases serveLines codec factory (lines stream) server with ⟨responses, _ | _, after⟩ <;> rfl

/-! ## Any writer -/

/-- Hands responses to a writer one after the other, as long as it takes them. -/
def deliver (writer : Writer σ) : List Response → σ → Bool × σ
  | [], far => (true, far)
  | response :: rest, far =>
    match writer.send (endLine (codec.write response.toJson)) far with
    | (true, far) => deliver writer rest far
    | (false, far) => (false, far)

/-- How the serving of a connection ends: which lines are left, what became of the responses, and
the writer behind them. -/
inductive Ends (writer : Writer σ) (breaks : Bool) (responses : List Response)
    (rest : List (List UInt8)) (far : σ) : Ending → σ → Prop
  /-- All lines are answered, and the bytes are at their end. -/
  | finished {after : σ} (hwhole : breaks = false) (hrest : rest = [])
      (hsent : deliver codec writer responses far = (true, after)) :
      Ends writer breaks responses rest far .finished after
  /-- All lines are answered, and reading fails behind them. -/
  | unread {after : σ} (hbreaks : breaks = true) (hrest : rest = [])
      (hsent : deliver codec writer responses far = (true, after)) :
      Ends writer breaks responses rest far .unread after
  /-- The next line is no text. -/
  | notText {after : σ} {line : List UInt8} {later : List (List UInt8)}
      (hrest : rest = line :: later) (hline : ofBytes? line = none)
      (hsent : deliver codec writer responses far = (true, after)) :
      Ends writer breaks responses rest far .notText after
  /-- The last response is the one that the writer does not take. -/
  | unwritten {after : σ} (earlier : List Response) (response : Response)
      (hresponses : responses = earlier ++ [response])
      (hearlier : (deliver codec writer earlier far).1 = true)
      (hsent : deliver codec writer responses far = (false, after)) :
      Ends writer breaks responses rest far .unwritten after

variable {codec} in
/-- A response that is taken comes before the others. -/
lemma Ends.cons {writer : Writer σ} {breaks : Bool} {responses : List Response}
    {rest : List (List UInt8)} {far next after : σ} {ending : Ending} {response : Response}
    (h : Ends codec writer breaks responses rest next ending after)
    (hsend : writer.send (endLine (codec.write response.toJson)) far = (true, next)) :
    Ends codec writer breaks (response :: responses) rest far ending after := by
  have hdeliver (later : List Response) :
      deliver codec writer (response :: later) far = deliver codec writer later next := by
    rw [deliver, hsend]
  cases h with
  | finished hwhole hrest hsent => exact .finished hwhole hrest ((hdeliver _).trans hsent)
  | unread hbreaks hrest hsent => exact .unread hbreaks hrest ((hdeliver _).trans hsent)
  | notText hrest hline hsent => exact .notText hrest hline ((hdeliver _).trans hsent)
  | unwritten earlier last hresponses hearlier hsent =>
    refine .unwritten (response :: earlier) last ?_ ?_ ((hdeliver _).trans hsent)
    · rw [hresponses, List.cons_append]
    · rw [hdeliver]
      exact hearlier

/-- **Which lines are answered, and what ends the connection.** The lines up to the end are
answered, and the server is what they left.

**Proof sketch.** By induction on the lines: a line is no text, or it is blank and passed over, or
it is answered and the response is taken or not. -/
theorem exists_ends (writer : Writer σ) (ls : List (List UInt8)) (server : Server ι ω) (far : σ) :
    let conveyed := serveLinesTo codec factory writer ls server far
    ∃ handled rest, ls = handled ++ rest ∧ (∀ line ∈ handled, ofBytes? line ≠ none) ∧
      let answered := answer codec factory (handled.filter fun line => !isBlankLine line) server
      conveyed.server = answered.2 ∧
        Ends codec writer false answered.1 rest far conveyed.ending conveyed.far := by
  induction ls generalizing server far with
  | nil => exact ⟨[], [], rfl, List.forall_mem_nil _, rfl, .finished rfl rfl rfl⟩
  | cons line ls ih =>
    rw [serveLinesTo]
    cases htext : ofBytes? line with
    | none => exact ⟨[], line :: ls, rfl, List.forall_mem_nil _, rfl, .notText rfl htext rfl⟩
    | some text =>
      have hline : ofBytes? line ≠ none := by
        rw [htext]
        exact Option.some_ne_none text
      have hblank : isBlankLine line = text.toList.all isBlank := by
        rw [isBlankLine, htext]
      dsimp only
      by_cases hall : text.toList.all isBlank = true
      · obtain ⟨handled, rest, rfl, htexts, hserver, hends⟩ := ih server far
        rw [if_pos hall]
        refine ⟨line :: handled, rest, rfl, List.forall_mem_cons.mpr ⟨hline, htexts⟩, ?_⟩
        rw [List.filter_cons, hblank, hall]
        exact ⟨hserver, hends⟩
      · rw [if_neg hall]
        have hkept (handled : List (List UInt8)) :
            (line :: handled).filter (fun line => !isBlankLine line) =
              line :: handled.filter fun line => !isBlankLine line := by
          rw [List.filter_cons, if_pos (by simp [hblank, hall])]
        rcases hsend : writer.send
          (endLine (codec.write (respond codec factory line server).1.toJson)) far with
            ⟨_ | _, next⟩
        · refine ⟨[line], ls, rfl, List.forall_mem_singleton.mpr hline, ?_⟩
          rw [hkept]
          refine ⟨rfl, .unwritten [] _ rfl rfl ?_⟩
          rw [List.filter_nil, answer_cons]
          simp only [deliver, hsend]
        · obtain ⟨handled, rest, rfl, htexts, hserver, hends⟩ :=
            ih (respond codec factory line server).2 next
          refine ⟨line :: handled, rest, rfl, List.forall_mem_cons.mpr ⟨hline, htexts⟩, ?_⟩
          rw [hkept]
          exact ⟨hserver, hends.cons hsend⟩

/-- **The engine that a connection leaves.** Whatever a connection brings, whatever the writer does
and whatever engines and factories do: the lines up to some line are answered, and the server is
what they left, its engine included. Only when the bytes came to their end is the engine dropped. So
there is an engine behind a connection just when the lines left one and something failed: reading, a
line that is no text, or the writing of the last response. -/
theorem engine_behind_connection (writer : Writer σ) (source : Source) (server : Server ι ω)
    (far : σ) :
    let conveyed := serveTo codec factory writer source server far
    ∃ handled rest, source.lines = handled ++ rest ∧ (∀ line ∈ handled, ofBytes? line ≠ none) ∧
      let answered := answer codec factory (handled.filter fun line => !isBlankLine line) server
      Ends codec writer source.breaks answered.1 rest far conveyed.ending conveyed.far ∧
        conveyed.server =
          (if conveyed.ending = .finished then answered.2.drop else answered.2) ∧
        (conveyed.server.isActive = true ↔
          conveyed.ending ≠ .finished ∧ answered.2.isActive = true) := by
  obtain ⟨handled, rest, hlines, htexts, hserver, hends⟩ :=
    exists_ends codec factory writer source.lines server far
  rcases hconveyed : serveLinesTo codec factory writer source.lines server far with
    ⟨ending, last, after⟩
  rw [hconveyed] at hserver hends
  intro conveyed
  refine ⟨handled, rest, hlines, htexts, ?_⟩
  simp only [conveyed, serveTo, hconveyed]
  rw [← hserver]
  cases hends with
  | finished _ hrest hsent =>
    cases hbreaks : source.breaks with
    | false => exact ⟨.finished rfl hrest hsent, rfl, by simp⟩
    | true => exact ⟨.unread rfl hrest hsent, rfl, by simp⟩
  | unread hbreaks => cases hbreaks
  | notText hrest hline hsent => exact ⟨.notText hrest hline hsent, rfl, by simp⟩
  | unwritten earlier response hresponses hearlier hsent =>
    exact ⟨.unwritten earlier response hresponses hearlier hsent, rfl, by simp⟩

end Connections

/-! ## The next connection -/

/-- The line of the request for a call. -/
def callLine (id : UInt64) (c : Backend.Call) : List UInt8 :=
  Ndjson.requestLine .compact id c.word (Remote.params c)

/-- The request for a legible call is answered with what its command results in, before the lines
behind it are served. -/
lemma serveLines_call (factory : Engine.Factory ι ω) {c : Backend.Call} (hc : c.isLegible = true)
    (id : UInt64) (stream : List UInt8) (server : Server ι ω) :
    serveLines .compact factory (lines (callLine id c ++ stream)) server =
      let later := serveLines .compact factory (lines stream) (execute factory c.command server).2
      { later with
        responses := ⟨.ofUInt64 id, (execute factory c.command server).1⟩ :: later.responses } := by
  have hrequest : Request.ofBytes?
      (bytes (Request.toJson ⟨.ofUInt64 id, c.word, Remote.params c⟩).compact) =
        some ⟨.ofUInt64 id, c.word, Remote.params c⟩ := by
    rw [Request.ofBytes?_text_eq _ (Json.isLegible_ofUInt64 id _),
      Json.read?_tree _ (Remote.isLegible_params hc), Option.map_some]
  have hrespond : respond .compact factory
      (bytes (Request.toJson ⟨.ofUInt64 id, c.word, Remote.params c⟩).compact) server =
        (⟨.ofUInt64 id, (execute factory c.command server).1⟩,
          (execute factory c.command server).2) := by
    rw [respond, Codec.request?_compact, hrequest]
    simp only [handle, Command.read_params]
  rw [callLine, Ndjson.requestLine, Codec.write_compact,
    lines_endLine_append (Json.visible_compact _),
    Connection.serveLines_request factory _ _ hrespond]

/-- A call that a script waits for. -/
def awaited : PendingCall :=
  ⟨"fetch", [], none, 1, false⟩

/-- **An execution outlives its connection.** The first connection starts a script, which waits for
a call, and ends at a byte that is no text. The engine stays, and the next connection resumes the
script. -/
theorem engine_outlives_connection :
    let factory := Scripted.factory .none
    let result := RunResult.success (.ofUInt64 42) .zero
    let first := callLine 1 .init ++
      (callLine 2 (.drive (.start ⟨"fetch()", none, none⟩ ["fetch"])) ++ endLine [0xFF])
    let before := serveTo .compact factory .buffer ⟨first, false⟩
      (idle ⟨[], [.progress (.pending awaited), .progress (.complete result)]⟩) []
    let after := serveTo .compact factory .buffer ⟨callLine 3 (.drive (.resume .null)), false⟩
      before.server []
    before.ending = .notText ∧ before.server.isActive = true ∧
      after.far = spell .compact [⟨.ofUInt64 3, .ok (Progress.complete result).toRecord⟩] := by
  intro factory result first before after
  have hbad : ofBytes? [0xFF] = none := by decide
  have hfirst (server : Server Unit Scripted.EngineScript) :
      (serveLines .compact factory (lines (endLine [0xFF])) server) = ⟨[], false, server⟩ := by
    rw [lines_endLine (by decide), serveLines, hbad]
  have hbefore : before.ending = .notText ∧
      before.server = ⟨⟨[], [.progress (.complete result)]⟩, some ()⟩ := by
    simp only [before, first, serveTo_buffer, serve, serveLines_call factory (c := .init) rfl,
      serveLines_call factory (c := .drive (.start ⟨"fetch()", none, none⟩ ["fetch"])) rfl, hfirst]
    exact ⟨rfl, rfl⟩
  have hafter := serveLines_call factory (c := .drive (.resume .null)) rfl 3 []
    ⟨⟨[], [.progress (.complete result)]⟩, some ()⟩
  rw [List.append_nil] at hafter
  refine ⟨hbefore.1, by rw [hbefore.2]; rfl, ?_⟩
  simp only [after, hbefore.2, serveTo_buffer, serve, hafter, lines_nil, serveLines, if_true,
    List.nil_append]
  rfl

end Server

end ScriptHost
