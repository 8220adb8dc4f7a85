import ScriptHost.Proofs.Channel.Message
import ScriptHost.Proofs.Record.RoundTrip
import ScriptHost.Server.Basic

/-!
# Legible answers

The answer of an engine is sent as a record inside a response. The response is read back when the
data that the answer brings does not nest too deep and has only numbers that are read back; of the
rest of a record every part is legible.

## Main definitions

* `ScriptHost.Engine.Call.isLegible` — the answers that are read back from a response.
* `ScriptHost.Engine.Event.isLegible` — the events with such answers.

## Main results

* `ScriptHost.Server.isLegible_result` — the result for a legible answer is legible.
-/

namespace ScriptHost

/-! ## Legible data -/

/-- Whether the value of a result is read back from a response. -/
def RunResult.isLegible (result : RunResult) : Bool :=
  result.isError || result.valueOrNull.isLegible (Request.depth - 1)

/-- Whether the arguments of a call are read back from a response. -/
def PendingCall.isLegible (call : PendingCall) : Bool :=
  call.arguments.all (Json.isLegible (Request.depth - 2)) &&
    call.kwargs.all fun kwargs => kwargs.entries.all fun e => e.2.isLegible (Request.depth - 2)

/-- Whether the data of progress is read back from a response. -/
def Progress.isLegible : Progress → Bool
  | complete result => result.isLegible
  | pending call => call.isLegible
  | futures _ => true

/-- Whether the data of global names is read back from a response. -/
def Globals.isLegible (globals : Globals) : Bool :=
  globals.entries.all fun e => e.2.data?.all (Json.isLegible (Request.depth - 3))

namespace Engine

/-- Whether the data of an answer is read back from a response. -/
def Call.isLegible : (c : Call) → c.Answer → Bool
  | run _, result => result.isLegible
  | drive _, .ok progress => progress.isLegible
  | globals, .ok names => names.isLegible
  | _, _ => true

/-- Whether the data of the answer that an event tells of is read back from a response. -/
def Event.isLegible : Event → Bool
  | call _ c (.ok answer) => c.isLegible answer
  | _ => true

end Engine

/-! ## Legible records -/

/-- The record of a usage is legible. -/
lemma Usage.isLegible_toRecord (usage : Usage) (depth : Nat) :
    usage.toRecord.isLegible (depth + 1) = true := by
  refine Json.isLegible_ofFields _ fun e he => ?_
  simp only [List.mem_cons, List.not_mem_nil, or_false] at he
  rcases he with rfl | rfl | rfl <;> exact Json.isLegible_ofUInt64 _ _

/-- A part that is absent or legible. -/
lemma forall_mem_map_isLegible {α : Type} {write : α → Json} {depth : Nat}
    (h : ∀ a, (write a).isLegible depth = true) (part : Option α) :
    ∀ value ∈ part.map write, value.isLegible depth = true := by
  intro value hvalue
  obtain ⟨a, -, rfl⟩ := Option.map_eq_some_iff.mp hvalue
  exact h a

/-- The record of a frame is legible. -/
lemma Frame.isLegible_toRecord (frame : Frame) (depth : Nat) :
    frame.toRecord.isLegible (depth + 1) = true := by
  have htext := forall_mem_map_isLegible fun s => Json.isLegible_str s depth
  have hposition := forall_mem_map_isLegible fun n => Json.isLegible_ofUInt32 n depth
  refine Json.isLegible_ofWritten _ fun part hpart => ?_
  simp only [List.mem_cons, List.not_mem_nil, or_false] at hpart
  rcases hpart with rfl | rfl | rfl | rfl | rfl
  · exact htext (some frame.filename)
  · exact hposition (some frame.line)
  · exact hposition (some frame.column)
  · exact htext (some frame.name)
  · exact htext frame.preview

/-- The parts of the record of an error are legible. -/
lemma ScriptError.isLegible_recordParts {error : ScriptError} {part : String × Option Json}
    (h : part ∈ error.recordParts) (depth : Nat) :
    ∀ value ∈ part.2, value.isLegible (depth + 2) = true := by
  have htext := forall_mem_map_isLegible fun s => Json.isLegible_str s (depth + 2)
  have hposition := forall_mem_map_isLegible fun n => Json.isLegible_ofUInt32 n (depth + 2)
  simp only [recordParts, List.mem_cons, List.not_mem_nil, or_false] at h
  rcases h with rfl | rfl | rfl | rfl | rfl | rfl
  · exact htext (some error.message)
  · exact htext error.excType
  · exact htext error.filename
  · exact hposition error.line
  · exact hposition error.column
  · intro value hvalue
    have hframes :
        (Json.arr (error.traceback.map Frame.toRecord)).isLegible (depth + 2) = true := by
      refine Json.isLegible_arr _ fun x hx => ?_
      obtain ⟨frame, -, rfl⟩ := List.mem_map.mp hx
      exact frame.isLegible_toRecord depth
    simp only at hvalue
    split at hvalue
    · cases hvalue
    · rw [← Option.some.inj hvalue]
      exact hframes

/-- The parts of the record of a legible result are legible. -/
lemma RunResult.isLegible_recordParts {result : RunResult} (h : result.isLegible = true)
    {state : Option String} {part : String × Option Json}
    (hpart : part ∈ result.recordParts state) :
    ∀ value ∈ part.2, value.isLegible (Request.depth - 1) = true := by
  simp only [recordParts, List.mem_cons] at hpart
  rcases hpart with rfl | rfl | rfl | hpart
  · exact forall_mem_map_isLegible (fun s => Json.isLegible_str s _) state
  · exact forall_mem_map_isLegible (fun b => Json.isLegible_bool b _) (some (!result.isError))
  · intro value hvalue
    rw [← Option.some.inj hvalue]
    exact result.usage.isLegible_toRecord (Request.depth - 2)
  · rcases he : result.error with _ | error
    · rw [he, List.mem_singleton] at hpart
      rw [hpart]
      intro value hvalue
      rw [← Option.some.inj hvalue]
      simpa [RunResult.isLegible, RunResult.isError, he] using h
    · rw [he] at hpart
      exact ScriptError.isLegible_recordParts hpart (Request.depth - 3)

/-- The record of a legible result is legible. -/
lemma RunResult.isLegible_toRecord {result : RunResult} (h : result.isLegible = true) :
    result.toRecord.isLegible Request.depth = true := by
  have hwritten : Form.written (result.recordParts none) = result.recordFields :=
    result.written_recordParts none
  rw [toRecord, ← hwritten]
  exact Json.isLegible_ofWritten (Request.depth - 1) fun part hpart =>
    isLegible_recordParts h hpart

/-- The record of legible progress is legible. -/
lemma Progress.isLegible_toRecord {progress : Progress} (h : progress.isLegible = true) :
    progress.toRecord.isLegible Request.depth = true := by
  cases progress with
  | complete result =>
    have hwritten : Form.written (result.recordParts (some (completeState result))) =
        ("state", .str (completeState result)) :: result.recordFields :=
      result.written_recordParts (some (completeState result))
    rw [toRecord, ← hwritten]
    exact Json.isLegible_ofWritten (Request.depth - 1) fun part hpart =>
      RunResult.isLegible_recordParts h hpart
  | pending call =>
    simp only [isLegible, PendingCall.isLegible, Bool.and_eq_true] at h
    obtain ⟨harguments, hkwargs⟩ := h
    refine Json.isLegible_ofWritten (Request.depth - 1) fun part hpart => ?_
    have htext := forall_mem_map_isLegible fun s => Json.isLegible_str s (Request.depth - 1)
    have hbool := forall_mem_map_isLegible fun b => Json.isLegible_bool b (Request.depth - 1)
    simp only [List.mem_cons, List.not_mem_nil, or_false] at hpart
    rcases hpart with rfl | rfl | rfl | rfl | rfl | rfl | rfl
    · exact hbool (some true)
    · exact htext (some "pending")
    · exact htext (some call.function)
    · intro value hvalue
      rw [← Option.some.inj hvalue]
      exact Json.isLegible_arr (Request.depth - 2) (List.all_eq_true.mp harguments)
    · intro value hvalue
      obtain ⟨kwargs, hsome, rfl⟩ := Option.map_eq_some_iff.mp hvalue
      have hgiven : call.kwargs = some kwargs := (Option.filter_eq_some_iff.mp hsome).1
      rw [hgiven, Option.all_some] at hkwargs
      exact Json.isLegible_obj (Request.depth - 2) kwargs.ordered
        (List.all_eq_true.mp hkwargs)
    · exact forall_mem_map_isLegible (fun n => Json.isLegible_ofUInt32 n _) (some call.callId)
    · exact hbool (some call.isMethod)
  | futures ids =>
    refine Json.isLegible_ofFields (Request.depth - 1) fun e he => ?_
    simp only [List.mem_cons, List.not_mem_nil, or_false] at he
    rcases he with rfl | rfl | rfl
    · exact Json.isLegible_bool _ _
    · exact Json.isLegible_str _ _
    · refine Json.isLegible_arr (Request.depth - 2) fun x hx => ?_
      obtain ⟨id, -, rfl⟩ := List.mem_map.mp hx
      exact Json.isLegible_ofUInt32 _ _

/-- The record of legible global names is legible. -/
lemma Globals.isLegible_toRecord {globals : Globals} (h : globals.isLegible = true) :
    globals.toRecord.isLegible Request.depth = true := by
  have hentries : Entries.Ordered
      (globals.entries.map fun entry => (entry.1, entry.2.toEntry)) :=
    List.pairwise_map.mpr globals.ordered
  have houter : Entries.Ordered [("globals", Json.obj
      (globals.entries.map fun entry => (entry.1, entry.2.toEntry)))] :=
    List.pairwise_singleton _ _
  refine Json.isLegible_obj (Request.depth - 1) houter fun e he => ?_
  rw [List.mem_singleton.mp he]
  refine Json.isLegible_obj (Request.depth - 2) hentries fun e he => ?_
  obtain ⟨⟨name, global⟩, hentry, rfl⟩ := List.mem_map.mp he
  have hdata := List.all_eq_true.mp h _ hentry
  cases global with
  | data value =>
    refine Json.isLegible_obj (Request.depth - 3) (List.pairwise_singleton _ _)
      fun e he => ?_
    rw [List.mem_singleton.mp he]
    simpa [Global.data?] using hdata
  | foreign typeName =>
    refine Json.isLegible_obj (Request.depth - 3) (List.pairwise_singleton _ _)
      fun e he => ?_
    rw [List.mem_singleton.mp he]
    exact Json.isLegible_str _ _

/-! ## Legible results of commands -/

namespace Server

/-- The result for an engine that is set up is legible. -/
lemma isLegible_initResult (c : Capabilities) :
    (initResult c).isLegible Request.depth = true := by
  refine Json.isLegible_ofFields (Request.depth - 1) fun e he => ?_
  simp only [List.mem_cons, List.not_mem_nil, or_false] at he
  rcases he with rfl | rfl | rfl
  · exact Json.isLegible_bool _ _
  · exact Json.isLegible_str _ _
  · refine Json.isLegible_ofFields (Request.depth - 2) fun e he => ?_
    simp only [Capabilities.fields, List.mem_cons, List.not_mem_nil, or_false] at he
    rcases he with rfl | rfl | rfl | rfl <;> exact Json.isLegible_bool _ _

/-- The result when no engine was set up is legible. -/
lemma isLegible_initRefused (reason : String) :
    (initRefused reason).isLegible Request.depth = true := by
  refine Json.isLegible_ofFields (Request.depth - 1) fun e he => ?_
  simp only [List.mem_cons, List.not_mem_nil, or_false] at he
  rcases he with rfl | rfl
  · exact Json.isLegible_bool _ _
  · exact Json.isLegible_str _ _

/-- What is written for an answer that an engine did not refuse. -/
lemma exists_of_lift_eq_ok {α : Type} {write : α → Json} {answer : Except EngineFault α}
    {json : Json} (h : lift write answer = .ok json) :
    ∃ value, answer = .ok value ∧ json = write value := by
  cases answer with
  | error fault => cases h
  | ok value =>
    cases h
    exact ⟨value, rfl, rfl⟩

/-- **Legible results.** The result for a legible answer is legible. -/
theorem isLegible_result {c : Engine.Call} {answer : c.Answer} (h : c.isLegible answer = true)
    {json : Json} (hresult : result c answer = .ok json) :
    json.isLegible Request.depth = true := by
  cases c with
  | run script =>
    cases hresult
    exact RunResult.isLegible_toRecord h
  | drive step =>
    obtain ⟨progress, rfl, rfl⟩ := exists_of_lift_eq_ok hresult
    exact Progress.isLegible_toRecord h
  | snapshot =>
    obtain ⟨bytes, rfl, rfl⟩ := exists_of_lift_eq_ok hresult
    refine Json.isLegible_obj (Request.depth - 1) (List.pairwise_singleton _ _)
      fun e he => ?_
    rw [List.mem_singleton.mp he]
    exact Json.isLegible_ofBytes bytes (Request.depth - 2)
  | restore bytes =>
    obtain ⟨_, rfl, rfl⟩ := exists_of_lift_eq_ok hresult
    refine Json.isLegible_obj (Request.depth - 1) (List.pairwise_singleton _ _)
      fun e he => ?_
    rw [List.mem_singleton.mp he]
    exact Json.isLegible_bool _ _
  | globals =>
    obtain ⟨names, rfl, rfl⟩ := exists_of_lift_eq_ok hresult
    exact Globals.isLegible_toRecord h

end Server

end ScriptHost
