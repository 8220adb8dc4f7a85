import Mathlib.Data.List.Forall2
import ScriptHost.Proofs.Json.Lines
import ScriptHost.Proofs.Text.Lines
import ScriptHost.Server.Basic

/-!
# Every line is answered

A server answers the lines of a text that are not blank one after the other, each by one line of its
own, whatever stands in them and whatever engines and factories do. A line that is no request has an
answer too and changes nothing for the lines behind it, so the answers never get out of step with
the lines.

## Main definitions

* `ScriptHost.Server.asked` — the lines of a stream that are answered.
* `ScriptHost.Server.askedId` — the number that the answer to a line carries.
* `ScriptHost.Server.answer` — the answers to some lines.
* `ScriptHost.Server.IsAnswer` — what is written for an answer.

## Main results

* `ScriptHost.Server.serveLines_eq` — of texts the lines that are not blank are answered.
* `ScriptHost.Server.forall₂_answer` — each line is answered under its number.
* `ScriptHost.Server.answer_insert` — a line that is no request changes no other answer.
* `ScriptHost.Server.lines_answered` — every line is answered once and in order.
-/

namespace ScriptHost

open Text

namespace Server

variable {ι ω : Type}

/-! ## Lines and answers -/

/-- Whether a line is a text of blanks. -/
def isBlankLine (line : List UInt8) : Bool :=
  match ofBytes? line with
  | some text => text.toList.all isBlank
  | none => false

/-- The lines of a stream that are answered. -/
def asked (stream : List UInt8) : List (List UInt8) :=
  (lines stream).filter fun line => !isBlankLine line

/-- The number that the answer to a line carries: that of the request, or null when the line is no
request. -/
def askedId (codec : Codec) (line : List UInt8) : Json :=
  ((codec.request? line).map Request.id).getD .null

/-- The answers to some lines and the server behind them. -/
def answer (codec : Codec) (factory : Engine.Factory ι ω) :
    List (List UInt8) → Server ι ω → List Response × Server ι ω
  | [], server => ([], server)
  | line :: rest, server =>
    let (response, next) := respond codec factory line server
    let (responses, last) := answer codec factory rest next
    (response :: responses, last)

/-- What is written for an answer with a number: an object of the number and a result, or of the
number and an error. -/
inductive IsAnswer (id : Json) : List UInt8 → Prop
  /-- There is a result. -/
  | result (value : Json) :
      IsAnswer id (bytes (Json.obj [("id", id), ("result", value)]).compact)
  /-- There is an error. -/
  | error (refusal : Refusal) :
      IsAnswer id (bytes (Json.obj [("id", id), ("error", refusal.toJson)]).compact)

section Answers

variable (codec : Codec) (factory : Engine.Factory ι ω)

/-! ## One line -/

/-- A line is answered under its number, whatever comes of its request. -/
lemma respond_id (line : List UInt8) (server : Server ι ω) :
    (respond codec factory line server).1.id = askedId codec line := by
  unfold respond askedId
  cases codec.request? line with
  | none => rfl
  | some request =>
    unfold handle
    dsimp only
    split <;> rfl

/-- A line that is no request is answered without a number, and the server stays as it is. -/
lemma respond_unreadable {line : List UInt8} (h : codec.request? line = none)
    (server : Server ι ω) :
    respond codec factory line server = (⟨.null, .error .unreadable⟩, server) := by
  rw [respond, h]

/-- An answer is written with its number, and with a result or with an error. -/
lemma isAnswer_response (response : Response) :
    IsAnswer response.id (bytes response.toJson.compact) := by
  obtain ⟨id, outcome⟩ := response
  cases outcome with
  | ok value => exact .result value
  | error refusal => exact .error refusal

/-! ## Many lines -/

/-- The first line is answered, and the others by the server that it leaves. -/
lemma answer_cons (line : List UInt8) (rest : List (List UInt8)) (server : Server ι ω) :
    answer codec factory (line :: rest) server =
      ((respond codec factory line server).1 ::
          (answer codec factory rest (respond codec factory line server).2).1,
        (answer codec factory rest (respond codec factory line server).2).2) := rfl

/-- Each line is answered under its number. -/
theorem forall₂_answer (ls : List (List UInt8)) (server : Server ι ω) :
    List.Forall₂ (fun line response => response.id = askedId codec line) ls
      (answer codec factory ls server).1 := by
  induction ls generalizing server with
  | nil => exact .nil
  | cons line rest ih => exact .cons (respond_id codec factory line server) (ih _)

/-- There are as many answers as lines. -/
lemma length_answer (ls : List (List UInt8)) (server : Server ι ω) :
    (answer codec factory ls server).1.length = ls.length :=
  (forall₂_answer codec factory ls server).length_eq.symm

/-- Lines behind others are answered by the server that those leave. -/
lemma answer_append (earlier later : List (List UInt8)) (server : Server ι ω) :
    answer codec factory (earlier ++ later) server =
      ((answer codec factory earlier server).1 ++
          (answer codec factory later (answer codec factory earlier server).2).1,
        (answer codec factory later (answer codec factory earlier server).2).2) := by
  induction earlier generalizing server with
  | nil => rfl
  | cons line earlier ih => simp only [List.cons_append, answer_cons, ih]

/-- **A line that is no request changes no other answer.** -/
theorem answer_insert {line : List UInt8} (h : codec.request? line = none)
    (earlier later : List (List UInt8)) (server : Server ι ω) :
    (answer codec factory (earlier ++ line :: later) server).1 =
      (answer codec factory (earlier ++ later) server).1.take earlier.length ++
        ⟨.null, .error .unreadable⟩ ::
          (answer codec factory (earlier ++ later) server).1.drop earlier.length := by
  have hline (next : Server ι ω) : (answer codec factory (line :: later) next).1 =
      ⟨.null, .error .unreadable⟩ :: (answer codec factory later next).1 := by
    rw [answer_cons, respond_unreadable codec factory h]
  have hlength := length_answer codec factory earlier server
  simp only [answer_append, hline]
  rw [← hlength, List.take_left, List.drop_left]

/-- **Of texts the lines that are not blank are answered**, and no line ends the connection. -/
theorem serveLines_eq {ls : List (List UInt8)} (h : ∀ line ∈ ls, IsText line)
    (server : Server ι ω) :
    serveLines codec factory ls server =
      ⟨(answer codec factory (ls.filter fun line => !isBlankLine line) server).1, true,
        (answer codec factory (ls.filter fun line => !isBlankLine line) server).2⟩ := by
  induction ls generalizing server with
  | nil => rfl
  | cons line rest ih =>
    obtain ⟨text, htext⟩ := (h line List.mem_cons_self).exists_ofBytes?
    have hrest : ∀ other ∈ rest, IsText other := fun other hother =>
      h other (List.mem_cons_of_mem _ hother)
    have hblank : isBlankLine line = text.toList.all isBlank := by
      rw [isBlankLine, htext]
    rw [serveLines]
    simp only [htext, List.filter_cons, hblank]
    by_cases hall : text.toList.all isBlank = true
    · simp only [hall, if_true, Bool.not_true, Bool.false_eq_true, if_false, ih hrest]
    · simp only [Bool.not_eq_true] at hall
      simp only [hall, Bool.false_eq_true, if_false, Bool.not_false, if_true, ih hrest, answer_cons]

end Answers

/-! ## Connections -/

/-- The bytes of answers are lines, one for each of them. -/
lemma spell_eq (responses : List Response) :
    spell .compact responses =
      (responses.map fun response => bytes response.toJson.compact).flatMap endLine := by
  rw [List.flatMap_map]
  rfl

/-- **Every line is answered.** Whatever a text says and whatever engines and factories do, serving
the text comes to its end and leaves no engine. What is written are lines, one for each line of the
text that is not blank and in the same order. Each of them carries the number of the request, or
null when the line is no request, and either a result or an error. A line that is no request has
such an answer, and all other answers are the same without that line.

**Proof sketch.** The lines of a text are texts, so no line ends the connection (`serveLines_eq`).
Each line is answered under its number (`forall₂_answer`), and no compact text has a line feed. -/
theorem lines_answered (factory : Engine.Factory ι ω) (text : String) (server : Server ι ω) :
    let served := serve .compact factory (bytes text) server
    (served.allText = true ∧ served.server.engine = none) ∧
      (∃ written : List (List UInt8),
        spell .compact served.responses = written.flatMap endLine ∧
          (∀ line ∈ written, lineFeed ∉ line) ∧
          List.Forall₂ (fun line answer => IsAnswer (askedId .compact line) answer)
            (asked (bytes text)) written) ∧
      ∀ earlier line later, asked (bytes text) = earlier ++ line :: later →
        Request.ofBytes? line = none →
        let others := serveLines .compact factory (earlier ++ later) server
        served.responses = others.responses.take earlier.length ++
          ⟨.null, .error .unreadable⟩ :: others.responses.drop earlier.length := by
  intro served
  have htexts : ∀ line ∈ lines (bytes text), IsText line := fun line hline =>
    (isText_bytes text).of_mem_lines hline
  have hserved : served = ⟨(answer .compact factory (asked (bytes text)) server).1, true,
      (answer .compact factory (asked (bytes text)) server).2.drop⟩ := by
    show serve .compact factory (bytes text) server = _
    rw [serve, serveLines_eq _ _ htexts]
    rfl
  rw [hserved]
  refine ⟨⟨rfl, rfl⟩, ⟨_, spell_eq _, ?_, ?_⟩, ?_⟩
  · intro line hline
    obtain ⟨response, -, rfl⟩ := List.mem_map.mp hline
    exact (Json.visible_compact response.toJson).lineFeed_notMem
  · rw [List.forall₂_map_right_iff]
    refine (forall₂_answer .compact factory _ server).imp fun line response hid => ?_
    rw [← hid]
    exact isAnswer_response response
  · intro earlier line later hasked hline others
    have hmem : ∀ other ∈ earlier ++ later, other ∈ asked (bytes text) := by
      intro other hother
      rw [hasked]
      simp only [List.mem_append, List.mem_cons] at hother ⊢
      exact hother.imp_right .inr
    have hkept : (earlier ++ later).filter (fun line => !isBlankLine line) = earlier ++ later :=
      List.filter_eq_self.mpr fun other hother => (List.mem_filter.mp (hmem other hother)).2
    have hothers : others.responses = (answer .compact factory (earlier ++ later) server).1 := by
      show (serveLines .compact factory (earlier ++ later) server).responses = _
      rw [serveLines_eq _ _ fun other hother =>
        htexts other (List.mem_filter.mp (hmem other hother)).1, hkept]
    rw [hothers]
    show (answer .compact factory (asked (bytes text)) server).1 = _
    rw [hasked]
    exact answer_insert .compact factory hline earlier later server

end Server

end ScriptHost
