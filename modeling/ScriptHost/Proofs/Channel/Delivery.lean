import ScriptHost.Channel.Ndjson
import ScriptHost.Proofs.Text.Lines
import ScriptHost.Recorded

/-!
# Replies reach the requests that they answer

The calls of a channel are numbered, and each of them reads on where the one before it stopped. A
call passes over blank lines and over responses to earlier requests, and the first other line
decides how it ends, so that no request is given the response to another one. Whatever the far end
sends, the lines that the calls take are the first lines of the stream, each of them taken once.

## Main definitions

* `ScriptHost.Link.recorded` — a link with a record of the bytes that came back.
* `ScriptHost.Ndjson.Skips`, `ScriptHost.Ndjson.Verdict` — the lines that a request passes over, and
  how any other line decides it.
* `ScriptHost.Ndjson.Turn`, `ScriptHost.Ndjson.Delivery` — how a call ends by the lines that are
  there, and how it ends.
* `ScriptHost.Ndjson.afterCalls`, `ScriptHost.Ndjson.consumed` — the channel behind some calls, and
  the lines that they took.

## Main results

* `ScriptHost.Ndjson.judge_eq_none_iff`, `ScriptHost.Ndjson.judge_eq_some_iff` — what a line says
  about a request.
* `ScriptHost.Ndjson.receive_turn` — a call is decided by the first line that it does not pass over.
* `ScriptHost.Ndjson.consumed_append` — nothing of the stream is lost or taken twice.
* `ScriptHost.Ndjson.replies_delivered` — how every call of a channel ends.
-/

namespace ScriptHost

open Text

variable {σ : Type}

/-- The link with a record of the bytes that came back. -/
def Link.recorded (link : Link σ) : Link (Recorded (List UInt8) σ) where
  send bytes := Recorded.after (fun back => back.getD []) (link.send bytes)
  finish far := { far with world := link.finish far.world }

namespace Ndjson

/-! ## One line -/

/-- The number that a response carries. -/
def numberOf (response : Json) : Option UInt64 :=
  (response.get? "id").bind Json.asUInt64?

/-- The lines that the request with a number passes over. -/
inductive Skips (codec : Codec) (id : UInt64) (line : List UInt8) : Prop
  /-- The line is blank. -/
  | blank (h : line.all isAsciiBlank = true)
  /-- The line is the response to an earlier request. -/
  | earlier {response : Json} {got : UInt64} (hread : codec.read? line = some response)
      (hgot : numberOf response = some got) (hlt : got < id)

/-- How the request with a number ends by what is read from a line that it does not pass over. -/
inductive Verdict (id : UInt64) : Option Json → Except ChannelFault Json → Prop
  /-- The line is no JSON text. -/
  | notJson : Verdict id none (.error .json)
  /-- The line carries no number. -/
  | noNumber {response : Json} (hgot : numberOf response = none) :
      Verdict id (some response) (.error (.envelope .noId))
  /-- The line carries a number that was not given out yet. -/
  | later {response : Json} {got : UInt64} (hgot : numberOf response = some got) (hlt : id < got) :
      Verdict id (some response) (.error (.envelope (.idMismatch id got)))
  /-- The request was refused. -/
  | refused {response error : Json} (hgot : numberOf response = some id)
      (herror : response.get? "error" = some error) :
      Verdict id (some response) (.error (.remote (remoteFault error)))
  /-- The request was answered; a result that is left out is null. -/
  | answered {response : Json} (hgot : numberOf response = some id)
      (herror : response.get? "error" = none) :
      Verdict id (some response) (.ok (response.getOrNull "result"))

variable {codec : Codec} {id : UInt64} {line : List UInt8} {outcome : Except ChannelFault Json}

/-- A line says nothing about a request just when the request passes over it. -/
lemma judge_eq_none_iff : judge codec id line = none ↔ Skips codec id line := by
  constructor
  · intro h
    unfold judge at h
    split at h
    · rename_i hblank
      exact .blank hblank
    · split at h
      · cases h
      · rename_i response hread
        split at h
        · cases h
        · rename_i got hgot
          split at h
          · rename_i hlt
            exact .earlier hread hgot hlt
          · split at h <;> cases h
  · rintro (hblank | ⟨hread, hgot, hlt⟩)
    · rw [judge, if_pos hblank]
    · rw [judge]
      split
      · rfl
      · rw [numberOf] at hgot
        simp only [hread, hgot, hlt, if_true]

/-- A line decides a request just when it is not blank and what is read from it is a verdict. -/
lemma judge_eq_some_iff : judge codec id line = some outcome ↔
    line.all isAsciiBlank = false ∧ Verdict id (codec.read? line) outcome := by
  constructor
  · intro h
    unfold judge at h
    split at h
    · cases h
    · rename_i hblank
      refine ⟨Bool.not_eq_true _ ▸ hblank, ?_⟩
      split at h
      · rename_i hread
        cases h
        rw [hread]
        exact .notJson
      · rename_i response hread
        rw [hread]
        split at h
        · rename_i hgot
          cases h
          exact .noNumber hgot
        · rename_i got hgot
          split at h
          · cases h
          · rename_i hnot
            split at h
            · rename_i hid
              cases h
              rw [hid] at hgot
              unfold Ndjson.outcome
              split
              · rename_i error herror
                exact .refused hgot herror
              · rename_i herror
                exact .answered hgot herror
            · rename_i hne
              cases h
              refine .later hgot (UInt64.lt_of_le_of_ne (UInt64.not_lt.mp hnot) fun h => hne h.symm)
  · rintro ⟨hblank, hverdict⟩
    rw [judge, if_neg (by simp [hblank])]
    have hself : ¬ id < id := UInt64.lt_irrefl id
    cases hread : codec.read? line with
    | none =>
      rw [hread] at hverdict
      cases hverdict
      rfl
    | some response =>
      rw [hread] at hverdict
      cases hverdict with
      | noNumber hgot =>
        rw [numberOf] at hgot
        simp only [hgot]
      | @later _ got hgot hlt =>
        rw [numberOf] at hgot
        have hne : got ≠ id := fun heq => hself (heq ▸ hlt)
        simp only [hgot, UInt64.lt_asymm hlt, hne, if_false]
      | refused hgot herror =>
        rw [numberOf] at hgot
        simp only [hgot, hself, if_true, if_false, Ndjson.outcome, herror]
      | answered hgot herror =>
        rw [numberOf] at hgot
        simp only [hgot, hself, if_true, if_false, Ndjson.outcome, herror]

/-! ## The lines that are there -/

/-- How the request with a number ends by the lines that are there: the outcome, the lines that it
takes and the lines that it leaves. -/
inductive Turn (codec : Codec) (id : UInt64) : List (List UInt8) → Except ChannelFault Json →
    List (List UInt8) → List (List UInt8) → Prop
  /-- It passes over all of them to the end of the stream. -/
  | ended {there : List (List UInt8)} (h : ∀ line ∈ there, Skips codec id (chomp line)) :
      Turn codec id there (.error (.closed "connection closed by peer")) there []
  /-- The first line that it does not pass over decides it. -/
  | decided {passed left : List (List UInt8)} {line : List UInt8}
      {outcome : Except ChannelFault Json} (h : ∀ other ∈ passed, Skips codec id (chomp other))
      (hblank : (chomp line).all isAsciiBlank = false)
      (hverdict : Verdict id (codec.read? (chomp line)) outcome) :
      Turn codec id (passed ++ line :: left) outcome (passed ++ [line]) left

/-- The lines up to the first that decides a request. -/
def upToDecider (codec : Codec) (id : UInt64) : List (List UInt8) → List (List UInt8)
  | [] => []
  | line :: rest =>
    if (judge codec id (chomp line)).isSome then [line] else line :: upToDecider codec id rest

namespace Turn

variable {there taken left : List (List UInt8)}

/-- A line that is passed over is taken. -/
lemma skip (hline : Skips codec id (chomp line)) (h : Turn codec id there outcome taken left) :
    Turn codec id (line :: there) outcome (line :: taken) left := by
  cases h with
  | ended h => exact .ended (List.forall_mem_cons.mpr ⟨hline, h⟩)
  | @decided passed _ _ _ h hblank hverdict =>
    have hpassed : ∀ other ∈ line :: passed, Skips codec id (chomp other) :=
      List.forall_mem_cons.mpr ⟨hline, h⟩
    exact .decided hpassed hblank hverdict

/-- The lines that are taken and those that are left are the lines that are there. -/
lemma append_eq (h : Turn codec id there outcome taken left) : taken ++ left = there := by
  cases h with
  | ended h => exact List.append_nil _
  | decided h hblank hverdict => simp

end Turn

/-- **A call is decided by the first line that it does not pass over.** -/
theorem receive_turn (codec : Codec) (id : UInt64) (stream : List UInt8) :
    Turn codec id (wholeLines stream) (receive codec id stream).1
      (upToDecider codec id (wholeLines stream)) (wholeLines (receive codec id stream).2) := by
  fun_induction receive codec id stream with
  | case1 stream h =>
    rw [takeLine_eq_none_iff.mp h, wholeLines_nil]
    exact .ended (by simp)
  | case2 stream line rest h hjudge ih =>
    rw [wholeLines_of_takeLine h, upToDecider, hjudge, if_neg (by simp)]
    exact ih.skip (judge_eq_none_iff.mp hjudge)
  | case3 stream line rest h outcome hjudge =>
    obtain ⟨hblank, hverdict⟩ := judge_eq_some_iff.mp hjudge
    rw [wholeLines_of_takeLine h, upToDecider, hjudge, if_pos Option.isSome_some]
    have hpassed : ∀ other ∈ ([] : List (List UInt8)), Skips codec id (chomp other) := by simp
    exact .decided hpassed hblank hverdict

/-! ## Writing -/

/-- Writing keeps the count of the requests, and adds what comes back to the bytes that are there to
be read. -/
structure Gathers (before next : Ndjson (Recorded (List UInt8) σ)) : Prop where
  /-- The next number stays. -/
  nextId : next.nextId = before.nextId
  /-- What comes back is there to be read. -/
  back : ∃ back, next.incoming = before.incoming ++ back.flatten ∧
    next.link.events = before.link.events ++ back

section Writing

variable {before next last : Ndjson (Recorded (List UInt8) σ)}

lemma Gathers.refl (state : Ndjson (Recorded (List UInt8) σ)) : Gathers state state :=
  ⟨rfl, [], by simp⟩

lemma Gathers.trans (h : Gathers before next) (k : Gathers next last) : Gathers before last := by
  obtain ⟨back, hincoming, hevents⟩ := h.back
  obtain ⟨more, kincoming, kevents⟩ := k.back
  refine ⟨k.nextId.trans h.nextId, back ++ more, ?_, ?_⟩
  · rw [kincoming, hincoming, List.flatten_append, List.append_assoc]
  · rw [kevents, hevents, List.append_assoc]

variable (link : Link σ) (bytes : List UInt8) (state : Ndjson (Recorded (List UInt8) σ))

lemma gathers_push : Gathers state (push link.recorded bytes state).2 := by
  unfold push
  rcases hsend : link.send bytes state.link.world with ⟨_ | back, far⟩
  · have hrecorded : link.recorded.send bytes state.link =
        (none, ⟨far, state.link.events ++ [[]]⟩) := by
      simp [Link.recorded, Recorded.after, hsend]
    rw [hrecorded]
    exact ⟨rfl, [[]], by simp⟩
  · have hrecorded : link.recorded.send bytes state.link =
        (some back, ⟨far, state.link.events ++ [back]⟩) := by
      simp [Link.recorded, Recorded.after, hsend]
    rw [hrecorded]
    exact ⟨rfl, [back], by simp⟩

lemma gathers_flush : Gathers state (flush link.recorded state).2 := by
  have hgathers := gathers_push link state.unsent state
  unfold flush
  split
  · exact .refl state
  · rcases hpush : push link.recorded state.unsent state with ⟨_ | _, pushed⟩ <;>
      rw [hpush] at hgathers
    · exact hgathers
    · exact ⟨hgathers.nextId, hgathers.back⟩

lemma gathers_place : Gathers state (place link.recorded bytes state).2 := by
  unfold place
  split
  · have hflush := gathers_flush link (gather bytes state)
    exact ⟨hflush.nextId, hflush.back⟩
  · exact gathers_push link bytes state

/-- Writing a line gathers what comes back, whether or not the line is written. -/
lemma gathers_write : Gathers state (write link.recorded bytes state).2 := by
  have hgathers := gathers_flush link state
  unfold write
  split
  · exact gathers_place link bytes state
  · rcases hflush : flush link.recorded state with ⟨_ | _, flushed⟩ <;> rw [hflush] at hgathers
    · exact hgathers
    · exact hgathers.trans (gathers_place link bytes flushed)

end Writing

/-! ## Calls -/

/-- Writes the request for a command under the next number. -/
def send (codec : Codec) (link : Link σ) (word : String) (params : Json) (state : Ndjson σ) :
    Bool × Ndjson σ :=
  write link (requestLine codec state.nextId word params) { state with nextId := state.nextId + 1 }

/-- How a call ends: the outcome, the lines that it takes, and the channel behind it. -/
inductive Delivery (codec : Codec) (link : Link σ) (word : String) (params : Json)
    (before : Ndjson σ) : Except ChannelFault Json → List (List UInt8) → Ndjson σ → Prop
  /-- The request is not written, and no line is taken. -/
  | unsent {sent : Ndjson σ} (h : send codec link word params before = (false, sent)) :
      Delivery codec link word params before (.error .io) [] sent
  /-- The request is written, and the lines that are there decide it. -/
  | received {sent : Ndjson σ} {outcome : Except ChannelFault Json} {taken : List (List UInt8)}
      {rest : List UInt8} (h : send codec link word params before = (true, sent))
      (turn : Turn codec before.nextId (wholeLines sent.incoming) outcome taken
        (wholeLines rest)) :
      Delivery codec link word params before outcome taken { sent with incoming := rest }

/-- The lines that a call takes. -/
def taken (codec : Codec) (link : Link σ) (word : String) (params : Json) (state : Ndjson σ) :
    List (List UInt8) :=
  match send codec link word params state with
  | (false, _) => []
  | (true, sent) => upToDecider codec state.nextId (wholeLines sent.incoming)

/-- The channel behind some calls, the latest of which stands first. -/
def afterCalls (codec : Codec) (link : Link σ) (start : Ndjson σ) :
    List (String × Json) → Ndjson σ
  | [] => start
  | (word, params) :: past => (call codec link word params (afterCalls codec link start past)).2

/-- The lines that some calls took, the latest of which stands first; their lines stand in the order
in which they were taken. -/
def consumed (codec : Codec) (link : Link σ) (start : Ndjson σ) :
    List (String × Json) → List (List UInt8)
  | [] => []
  | (word, params) :: past =>
    consumed codec link start past ++
      taken codec link word params (afterCalls codec link start past)

/-- Every call ends. -/
lemma call_delivery (codec : Codec) (link : Link σ) (word : String) (params : Json)
    (state : Ndjson σ) :
    Delivery codec link word params state (call codec link word params state).1
      (taken codec link word params state) (call codec link word params state).2 := by
  rcases hsend : send codec link word params state with ⟨_ | _, sent⟩
  · have hcall : call codec link word params state = (.error .io, sent) := by
      rw [call]
      simp only [send] at hsend
      simp only [hsend]
    rw [hcall, taken, hsend]
    exact .unsent hsend
  · have hcall : call codec link word params state =
        ((receive codec state.nextId sent.incoming).1,
          { sent with incoming := (receive codec state.nextId sent.incoming).2 }) := by
      rw [call]
      simp only [send] at hsend
      simp only [hsend]
    rw [hcall, taken, hsend]
    exact .received hsend (receive_turn codec state.nextId sent.incoming)

section Runs

variable {codec : Codec} {link : Link σ}

/-- What a call does to the channel: the request is counted, and what the call takes and leaves is
what was there and what came back. -/
lemma Delivery.step {word : String} {params : Json}
    {before next : Ndjson (Recorded (List UInt8) σ)} {outcome : Except ChannelFault Json}
    {taken : List (List UInt8)}
    (h : Delivery codec link.recorded word params before outcome taken next) :
    next.nextId = before.nextId + 1 ∧
      ∃ back, next.link.events = before.link.events ++ back ∧
        taken.flatten ++ next.incoming = before.incoming ++ back.flatten ∧
        (back.flatten = [] → wholeLines before.incoming = taken ++ wholeLines next.incoming) := by
  obtain ⟨hnext, back, hincoming, hevents⟩ := gathers_write link
    (requestLine codec before.nextId word params) { before with nextId := before.nextId + 1 }
  cases h with
  | unsent hsend =>
    rw [send] at hsend
    rw [hsend] at hnext hincoming hevents
    refine ⟨hnext, back, hevents, hincoming, fun hback => ?_⟩
    dsimp only at hincoming
    rw [hincoming, hback, List.append_nil, List.nil_append]
  | @received sent _ _ rest hsend turn =>
    rw [send] at hsend
    rw [hsend] at hnext hincoming hevents
    dsimp only at hincoming
    have hlines := turn.append_eq
    have hbytes : taken.flatten ++ rest = sent.incoming := by
      rw [← flatten_wholeLines rest, ← List.flatten_append, hlines, flatten_wholeLines]
    refine ⟨hnext, back, hevents, hbytes.trans hincoming, fun hback => ?_⟩
    rw [hincoming, hback, List.append_nil] at hlines
    exact hlines.symm

variable (codec link)

/-- **Nothing of the stream is lost or taken twice.** Behind some calls the lines that they took and
what was not read are the bytes that were there and those that came back. When nothing came back,
they are the first lines of the stream. -/
theorem consumed_append (far : σ) (stream : List UInt8) (past : List (String × Json)) :
    let start := fresh (Recorded.fresh far) stream
    let last := afterCalls codec link.recorded start past
    let lines := consumed codec link.recorded start past
    last.nextId = UInt64.ofNat (past.length + 1) ∧
      lines.flatten ++ last.incoming = stream ++ last.link.events.flatten ∧
      (last.link.events.flatten = [] → wholeLines stream = lines ++ wholeLines last.incoming) := by
  induction past with
  | nil => exact ⟨rfl, by simp [afterCalls, consumed, fresh, Recorded.fresh], fun _ => rfl⟩
  | cons c past ih =>
    obtain ⟨word, params⟩ := c
    obtain ⟨hid, hbytes, hlines⟩ := ih
    obtain ⟨hnext, back, hevents, htaken, hwhole⟩ := (call_delivery codec link.recorded word params
      (afterCalls codec link.recorded (fresh (Recorded.fresh far) stream) past)).step
    simp only [afterCalls, consumed, List.length_cons]
    refine ⟨?_, ?_, fun hback => ?_⟩
    · rw [hnext, hid]
      exact (UInt64.ofNat_add _ 1).symm
    · rw [List.flatten_append, List.append_assoc, htaken, ← List.append_assoc, hbytes,
        List.append_assoc, ← List.flatten_append, ← hevents]
    · rw [hevents, List.flatten_append, List.append_eq_nil_iff] at hback
      rw [hlines hback.1, hwhole hback.2, List.append_assoc]

/-- **Replies reach the requests that they answer.** Whatever the far end sends and takes, in every
sequence of calls the `n`-th one carries the number `n`, and it ends: without taking a line when its
request cannot be written, and otherwise by the first line that it does not pass over. The lines
that the calls take and what was not read are the bytes of the stream in their order; when the whole
stream is there from the start, they are its first lines. Lines end with a line feed, which the last
one may lack. -/
theorem replies_delivered (far : σ) (stream : List UInt8) (past : List (String × Json))
    (word : String) (params : Json) :
    let start := fresh (Recorded.fresh far) stream
    let before := afterCalls codec link.recorded start past
    let next := afterCalls codec link.recorded start ((word, params) :: past)
    let lines := consumed codec link.recorded start ((word, params) :: past)
    before.nextId = UInt64.ofNat (past.length + 1) ∧
      Delivery codec link.recorded word params before
        (call codec link.recorded word params before).1
        (taken codec link.recorded word params before) next ∧
      lines.flatten ++ next.incoming = stream ++ next.link.events.flatten ∧
      (next.link.events.flatten = [] → wholeLines stream = lines ++ wholeLines next.incoming) ∧
      ∀ (ended : List (List UInt8)) (last : List UInt8), stream = ended.flatMap endLine ++ last →
        (∀ bs ∈ ended, lineFeed ∉ bs) → lineFeed ∉ last →
        wholeLines stream = ended.map endLine ++ if last = [] then [] else [last] := by
  intro start before next lines
  have hbefore := consumed_append codec link far stream past
  have hnext := consumed_append codec link far stream ((word, params) :: past)
  refine ⟨hbefore.1, call_delivery codec link.recorded word params before, hnext.2.1, hnext.2.2, ?_⟩
  rintro ended last rfl hended hlast
  exact wholeLines_ended hended hlast

end Runs

end Ndjson

end ScriptHost
