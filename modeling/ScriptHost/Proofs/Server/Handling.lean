import Mathlib.Tactic.Lemma
import ScriptHost.Server.Basic

/-!
# The engine of a server

A request that cannot be read as a command is refused for what stands in it, and the engine is not
touched. A request for the engine either leaves the engine where it is, or it is refused because
there is none, be it that there was none or that the engine broke down. So the refusal of a request
tells whether the server has lost its engine.

## Main definitions

* `ScriptHost.Refusal.isOfRequest`, `ScriptHost.Refusal.saysNoEngine` — refusals for what stands in
  a request, and refusals that say that there is no engine.
* `ScriptHost.Refusal.Blames`, `ScriptHost.Refusal.Objects` — outcomes that are refusals for what
  stands in a request if they are refusals, and outcomes that do not say that there is no engine.
* `ScriptHost.Engine.Call.word` — the word for a call of the engine.
* `ScriptHost.Server.Tells` — outcomes that tell what became of the engine.

## Main results

* `ScriptHost.Command.blames_read` — a request that is no command is refused for what stands in it.
* `ScriptHost.Command.readsCall_read` — what a word and parameters are read as.
* `ScriptHost.Server.tells_handle` — what becomes of the engine.
-/

namespace ScriptHost

variable {ι ω α β : Type}

/-! ## Refusals -/

namespace Refusal

/-- Whether a request is refused for what stands in it. -/
def isOfRequest : Refusal → Bool
  | unreadable => true
  | parameter _ => true
  | notCallId .. => true
  | version _ => true
  | unknownCommand _ => true
  | _ => false

/-- Whether a refusal says that there is no engine. -/
def saysNoEngine : Refusal → Bool
  | notInitialized => true
  | panicked _ => true
  | _ => false

/-- What is refused for what stands in a request is not refused for want of an engine. -/
lemma saysNoEngine_of_isOfRequest {refusal : Refusal} (h : refusal.isOfRequest = true) :
    refusal.saysNoEngine = false := by
  cases refusal with
  | notInitialized => cases h
  | panicked panic => cases h
  | _ => rfl

/-- An outcome that does not say that there is no engine. -/
def Objects (outcome : Except Refusal α) : Prop :=
  ∀ refusal, outcome = .error refusal → refusal.saysNoEngine = false

lemma objects_error {refusal : Refusal} (h : refusal.saysNoEngine = false) :
    Objects (.error refusal : Except Refusal α) := by
  rintro other ⟨⟩
  exact h

/-- An outcome that is no refusal, or one for what stands in a request. -/
def Blames (outcome : Except Refusal α) : Prop :=
  ∀ refusal, outcome = .error refusal → refusal.isOfRequest = true

lemma blames_ok (a : α) : Blames (.ok a) := by
  intro refusal h
  cases h

lemma blames_error {refusal : Refusal} (h : refusal.isOfRequest = true) :
    Blames (.error refusal : Except Refusal α) := by
  rintro other ⟨⟩
  exact h

lemma Blames.bind {x : Except Refusal α} {f : α → Except Refusal β} (hx : Blames x)
    (hf : ∀ a, Blames (f a)) : Blames (x >>= f) := by
  intro refusal h
  cases x with
  | error other => exact hx refusal (by cases h; rfl)
  | ok a => exact hf a refusal h

lemma Blames.map {x : Except Refusal α} (hx : Blames x) (f : α → β) : Blames (x.map f) := by
  intro refusal h
  cases x with
  | error other => exact hx refusal (by cases h; rfl)
  | ok a => cases h

lemma blames_mapM {f : β → Except Refusal α} (hf : ∀ b, Blames (f b)) (bs : List β) :
    Blames (bs.mapM f) := by
  induction bs with
  | nil => exact blames_ok _
  | cons b bs ih =>
    rw [List.mapM_cons]
    exact (hf b).bind fun a => ih.bind fun as => blames_ok _

end Refusal

/-! ## Commands -/

/-- The word for a call of the engine. -/
def Engine.Call.word : Engine.Call → String
  | run _ => "run"
  | drive step => step.word
  | snapshot => "snapshot"
  | restore _ => "restore"
  | globals => "globals"

namespace Command

open Refusal

lemma blames_text (params : Json) (name : String) : Blames (text params name) := by
  unfold text
  split
  · exact blames_ok _
  · exact blames_error rfl

lemma blames_part (params : Json) (name : String) (absent : α) (read : Json → Option α) :
    Blames (part params name absent read) := by
  unfold part
  split
  · exact blames_ok _
  · exact blames_ok _
  · split
    · exact blames_ok _
    · exact blames_error rfl

lemma blames_script (params : Json) : Blames (script params) :=
  (blames_text _ _).bind fun _ => (blames_part _ _ _ _).bind fun _ => blames_ok _

lemma blames_start (params : Json) : Blames (start params) :=
  (blames_script _).bind fun _ => (blames_part _ _ _ _).bind fun _ => blames_ok _

lemma blames_keyedEntry (name : String) (read : Json → Option α) (entry : String × Json) :
    Blames (keyedEntry name read entry) := by
  unfold keyedEntry
  split
  · exact blames_error rfl
  · split
    · exact blames_error rfl
    · exact blames_ok _

lemma blames_keyed (params : Json) (name : String) (read : Json → Option α) :
    Blames (keyed params name read) := by
  unfold keyed
  split
  · exact blames_ok _
  · exact blames_ok _
  · exact (blames_mapM (blames_keyedEntry name read) _).bind fun _ => blames_ok _
  · exact blames_error rfl

lemma blames_answers (params : Json) : Blames (answers params) :=
  (blames_keyed _ _ _).bind fun _ => (blames_keyed _ _ _).bind fun _ => blames_ok _

lemma blames_state (params : Json) : Blames (state params) := by
  unfold state
  split
  · exact blames_ok _
  · exact blames_error rfl

lemma blames_checkVersion (params : Json) : Blames (checkVersion params) := by
  unfold checkVersion
  split
  · split
    · exact blames_ok _
    · exact blames_error rfl
  · exact blames_ok _

/-- **A request that is no command is refused for what stands in it.** -/
theorem blames_read (word : String) (params : Json) : Blames (read word params) := by
  unfold read
  split
  · exact (blames_checkVersion params).map _
  · exact (blames_script params).map _
  · exact (blames_start params).map _
  · exact blames_ok _
  · exact (blames_text params "message").map _
  · exact blames_ok _
  · exact (blames_answers params).map _
  · exact blames_ok _
  · exact (blames_state params).map _
  · exact blames_ok _
  · exact blames_ok _
  · exact blames_error rfl

/-- A word and parameters are read as the call of the engine with that word, or not as a command. -/
def ReadsCall (word : String) (outcome : Except Refusal Command) : Prop :=
  ∀ command, outcome = .ok command → ∃ asked : Engine.Call, asked.word = word ∧
    command = .call asked

lemma readsCall_map (x : Except Refusal α) {word : String} {f : α → Engine.Call}
    (hf : ∀ a, x = .ok a → (f a).word = word) :
    ReadsCall word (x.map fun a => .call (f a)) := by
  intro command h
  cases x with
  | error refusal => cases h
  | ok a =>
    cases h
    exact ⟨f a, hf a rfl, rfl⟩

/-- The start of a script is a start. -/
lemma word_of_start {params : Json} {step : Step String} (h : start params = .ok step) :
    step.word = "start" := by
  unfold start at h
  cases hscript : script params with
  | error refusal =>
    rw [hscript] at h
    cases h
  | ok script =>
    rw [hscript] at h
    cases hfunctions : part params "external_functions" [] (Json.itemsOf? Json.asString?) with
    | error refusal =>
      rw [hfunctions] at h
      cases h
    | ok functions =>
      rw [hfunctions] at h
      cases h
      rfl

lemma readsCall_ok (asked : Engine.Call) : ReadsCall asked.word (.ok (.call asked)) := by
  rintro command ⟨⟩
  exact ⟨asked, rfl, rfl⟩

/-- A word that neither sets an engine up nor releases it is that of a call of the engine, or it
names no command. -/
theorem readsCall_read {word : String} (hinit : word ≠ "init") (hdispose : word ≠ "dispose")
    (params : Json) : ReadsCall word (read word params) := by
  unfold read
  split
  · exact absurd rfl hinit
  · exact readsCall_map (script params) fun _ _ => rfl
  · exact readsCall_map (start params) fun _ => word_of_start
  · exact readsCall_ok (.drive (.resume _))
  · exact readsCall_map (text params "message") fun message _ =>
      show (Engine.Call.drive (.raise message)).word = _ from rfl
  · exact readsCall_ok (.drive .postpone)
  · exact readsCall_map (answers params) fun answers _ =>
      show (Engine.Call.drive (.resolve answers)).word = _ from rfl
  · exact readsCall_ok .snapshot
  · exact readsCall_map (state params) fun _ _ => rfl
  · exact readsCall_ok .globals
  · exact absurd rfl hdispose
  · rintro command ⟨⟩

end Command

/-! ## The engine -/

namespace Server

open Refusal

variable {factory : Engine.Factory ι ω}

/-- The outcome of a request and the engine behind it: the engine is where it was and the outcome
does not say otherwise, or there is none and the outcome says so. -/
def Tells (server : Server ι ω) (outcome : Except Refusal Json) (after : Server ι ω) : Prop :=
  (Objects outcome ∧ after.engine = server.engine) ∨
    ∃ refusal, outcome = .error refusal ∧ refusal.saysNoEngine = true ∧ after.engine = none

/-- An answer of an engine is refused only for what the engine says. -/
lemma exists_fault_of_result {c : Engine.Call} {answer : c.Answer} {refusal : Refusal}
    (h : result c answer = .error refusal) : ∃ fault, refusal = .engine fault := by
  have of_lift {α : Type} {write : α → Json} {answer : Except EngineFault α}
      (h : lift write answer = .error refusal) : ∃ fault, refusal = .engine fault := by
    cases answer with
    | error fault =>
      cases h
      exact ⟨fault, rfl⟩
    | ok value => cases h
  cases c with
  | run script => cases h
  | drive step => exact of_lift h
  | snapshot => exact of_lift h
  | restore bytes => exact of_lift h
  | globals => exact of_lift h

/-- The answer of an engine does not say that there is none. -/
lemma objects_result (c : Engine.Call) (answer : c.Answer) : Objects (result c answer) := by
  intro refusal h
  obtain ⟨fault, rfl⟩ := exists_fault_of_result h
  rfl

/-- Asking the engine tells whether there is one. -/
lemma tells_ask (factory : Engine.Factory ι ω) (c : Engine.Call) (server : Server ι ω) :
    Tells server (ask factory c server).1 (ask factory c server).2 := by
  obtain ⟨world, engine⟩ := server
  cases engine with
  | none => exact .inr ⟨.notInitialized, rfl, rfl, rfl⟩
  | some engine =>
    rcases hcall : factory.call engine c world with ⟨panic | answer, next⟩
    · simp only [ask, hcall]
      exact .inr ⟨.panicked panic, rfl, rfl, rfl⟩
    · simp only [ask, hcall]
      exact .inl ⟨objects_result c answer, rfl⟩

/-- **A request for the engine tells whether there is one.**

**Proof sketch.** A refusal for what stands in the request leaves the engine alone, and a command is
the asking of the engine. -/
theorem tells_handle (factory : Engine.Factory ι ω) {request : Request}
    (hinit : request.command ≠ "init") (hdispose : request.command ≠ "dispose")
    (server : Server ι ω) :
    Tells server (handle factory request server).1.outcome (handle factory request server).2 := by
  unfold handle
  rcases hread : Command.read request.command request.params with refusal | command
  · have hblamed : refusal.isOfRequest = true :=
      Command.blames_read request.command request.params refusal hread
    exact .inl ⟨objects_error (saysNoEngine_of_isOfRequest hblamed), rfl⟩
  · obtain ⟨asked, -, rfl⟩ := Command.readsCall_read hinit hdispose request.params command hread
    exact tells_ask factory asked server

end Server

end ScriptHost
