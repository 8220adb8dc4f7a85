import Mathlib.Data.List.Perm.Lattice
import ScriptHost.Backend.Remote
import ScriptHost.Proofs.Channel.Message
import ScriptHost.Proofs.Execution.Forms
import ScriptHost.Proofs.Server.CallNumber

/-!
# Commands are read back

The parameters with which a backend sends a call over a channel name the same call at the far end:
limits are read back from their form, and the answers to calls that were put off stand under the
same numbers again, although their keys are texts, which have another order than the numbers.

## Main definitions

* `ScriptHost.Backend.Call.command` — the command for a call.

## Main results

* `ScriptHost.Command.keyed_sent` — values by the numbers of calls are read back.
* `ScriptHost.Command.read_params` — the command for a call is read back from its parameters.
* `ScriptHost.Remote.isLegible_params` — parameters are legible when the values in them are.
-/

namespace ScriptHost

/-! ## Limits and capabilities -/

/-- Limits are read back from their fields. -/
lemma Limits.ofJson?_ofFields (limits : Limits) :
    ofJson? (.ofFields limits.fields) = some limits := by
  have hrecord : (Json.ofFields limits.fields).IsRecord
      [("timeoutMs", limits.timeoutMs.map .ofUInt64),
        ("memoryBytes", limits.memoryBytes.map .ofUInt64),
        ("stackDepth", limits.stackDepth.map .ofUInt64)] := Json.isRecord_ofFields (by simp)
  exact readsBack.read limits _
    ⟨_, List.mem_cons_self, _, List.mem_cons_self, _, List.mem_cons_self, hrecord⟩

/-- Capabilities are read back from their fields. -/
lemma Capabilities.ofJson?_ofFields (c : Capabilities) : ofJson? (.ofFields c.fields) = some c := by
  have hrecord : (Json.ofFields c.fields).IsRecord [("snapshot", some (.bool c.snapshot)),
      ("idle_snapshot", some (.bool c.idleSnapshot)), ("futures", some (.bool c.futures)),
      ("namespace", some (.bool c.globals))] := Json.isRecord_ofFields (by simp)
  exact readsBack.read c _ hrecord

namespace Command

/-! ## Values by the numbers of calls -/

/-- Values by the numbers of calls are read back.

**Proof sketch.** The digits of different numbers are different, so that putting the keys in their
order as texts only permutes the entries. Each of them is read back, and the entries are put in the
order of their numbers again. -/
theorem keyed_sent {α : Type} (write : α → Json) {read : Json → Option α}
    (back : ∀ a, read (write a) = some a) (entries : Dict UInt32 α) {params : Json} {name : String}
    (h : params.get? name = some (Remote.keyed write entries)) :
    keyed params name read = .ok entries := by
  let send (e : UInt32 × α) : String × Json := (decimal e.1.toNat, write e.2)
  have hnodup : ((entries.entries.map send).map Prod.fst).Nodup := by
    rw [List.map_map]
    have hkeys : (entries.entries.map Prod.fst).Nodup := entries.ordered.nodup_keys
    have hinjective : Function.Injective fun id : UInt32 => decimal id.toNat := fun a b hab =>
      Option.some.inj ((callId?_decimal a).symm.trans ((congrArg callId? hab).trans
        (callId?_decimal b)))
    have hmap := hkeys.map hinjective
    rwa [List.map_map] at hmap
  have hentry (e : UInt32 × α) : keyedEntry name read (send e) = .ok e := by
    simp only [keyedEntry, send, callId?_decimal, back]
  have hsent : List.Forall₂ (fun s e => keyedEntry name read s = .ok e)
      (entries.entries.map send) entries.entries := by
    rw [List.forall₂_map_left_iff, List.forall₂_same]
    exact fun e _ => hentry e
  obtain ⟨read', hread, hperm⟩ :=
    List.perm_comp_forall₂ (Entries.ofList_perm hnodup) hsent
  rw [keyed, h]
  change (do
    let read ← (Entries.ofList (entries.entries.map send)).mapM (keyedEntry name read)
    return Dict.ofEntries read : Except Refusal (Dict UInt32 α)) = _
  rw [mapM_of_forall₂ hread]
  exact congrArg Except.ok (Dict.ext (entries.ordered.ofList_eq_of_perm hperm))

/-! ## Scripts -/

/-- A part that is left out has its default. -/
lemma part_of_none {α : Type} {params : Json} {name : String} {absent : α}
    {read : Json → Option α} (h : params.get? name = none) :
    part params name absent read = .ok absent := by
  rw [part, h]

/-- A part that is given is read. -/
lemma part_of_some {α : Type} {params : Json} (given : Json) {name : String} {absent value : α}
    {read : Json → Option α} (h : params.get? name = some given) (hnull : given ≠ .null)
    (hread : read given = some value) : part params name absent read = .ok value := by
  rw [part, h]
  cases given with
  | null => exact absurd rfl hnull
  | _ => simp only [hread]

/-- A script is read back; without a name it gets the standard one. -/
lemma script_sent {params : Json} {sent : Script (Option String)}
    (hcode : params.get? "code" = some (.str sent.code))
    (hlimits : params.get? "limits" = sent.limits.map fun limits => .ofFields limits.fields)
    (hname : params.get? "script_name" = sent.name.map .str) :
    script params = .ok (sent.rename fun name => name.getD standardName) := by
  have htext : text params "code" = .ok sent.code := by
    rw [text, hcode]
    rfl
  have hpart : part params "limits" none (fun given => (Limits.ofJson? given).map some) =
      .ok sent.limits := by
    rcases hl : sent.limits with _ | limits
    · exact part_of_none (by rw [hlimits, hl]; rfl)
    · refine part_of_some (.ofFields limits.fields) (by rw [hlimits, hl]; rfl) Json.noConfusion ?_
      rw [Limits.ofJson?_ofFields]
      rfl
  rw [script, htext, hpart, hname]
  rcases sent with ⟨code, limits, _ | name⟩ <;> rfl

end Command

/-! ## Commands -/

namespace Backend.Call

/-- The name of a script as the far end has it. -/
def sentName (name : Option String) : String :=
  name.getD Command.standardName

/-- The command for a call. -/
def command : Call → Command
  | init => .init
  | run script => .call (.run (script.rename sentName))
  | drive step => .call (.drive (step.rename sentName))
  | snapshot => .call .snapshot
  | restore bytes => .call (.restore bytes)
  | globals => .call .globals
  | dispose => .dispose

end Backend.Call

namespace Command

open Remote

/-- A script is read back from its own parameters. -/
lemma script_scriptParams (sent : Script (Option String)) :
    script (.ofFields (scriptParams sent)) = .ok (sent.rename Backend.Call.sentName) := by
  refine script_sent ?_ ?_ ?_ <;> rw [scriptParams, Json.get?_ofWritten (by simp)]
  · rfl
  · rfl
  · rfl

/-- The start of a script is read back. -/
lemma start_stepParams (sent : Script (Option String)) (functions : List String) :
    start (.ofFields (stepParams (.start sent functions))) =
      .ok (.start (sent.rename Backend.Call.sentName) functions) := by
  have hwritten : stepParams (.start sent functions) =
      Form.written [("code", some (.str sent.code)),
        ("limits", sent.limits.map fun limits => .ofFields limits.fields),
        ("script_name", sent.name.map .str),
        ("external_functions", some (.arr (functions.map .str)))] :=
    (Form.written_append _ [("external_functions", some (.arr (functions.map .str)))]).symm
  have hscript : script (.ofFields (stepParams (.start sent functions))) =
      .ok (sent.rename Backend.Call.sentName) := by
    rw [hwritten]
    refine script_sent ?_ ?_ ?_ <;> rw [Json.get?_ofWritten (by simp)]
    · rfl
    · rfl
    · rfl
  have hfunctions : part (.ofFields (stepParams (.start sent functions))) "external_functions" []
      (Json.itemsOf? Json.asString?) = .ok functions := by
    refine part_of_some (.arr (functions.map .str))
      (by rw [hwritten, Json.get?_ofWritten (by simp)]; rfl) Json.noConfusion ?_
    have hback (name : String) : Json.asString? (.str name) = pure name := rfl
    exact mapM_map_of_back hback functions
  rw [start, hscript, hfunctions]
  rfl

/-- The answers to calls that were put off are read back. -/
lemma answers_stepParams (sent : Answers) :
    answers (.ofFields (stepParams (.resolve sent))) = .ok sent := by
  have hresults : keyed (.ofFields (stepParams (.resolve sent))) "results" some =
      .ok sent.results :=
    keyed_sent id (fun _ => rfl) sent.results
      (Json.get?_ofFields (by simp [stepParams]) _)
  have herrors : keyed (.ofFields (stepParams (.resolve sent))) "errors" Json.asString? =
      .ok sent.errors :=
    keyed_sent .str (fun _ => rfl) sent.errors
      (Json.get?_ofFields (by simp [stepParams]) _)
  rw [answers, hresults, herrors]
  rfl

/-- **Commands are read back.** The word and the parameters that are sent for a call name its
command. -/
theorem read_params (c : Backend.Call) : read c.word (params c) = .ok c.command := by
  cases c with
  | init => rfl
  | run sent => exact congrArg (Except.map _) (script_scriptParams sent)
  | drive step =>
    cases step with
    | start sent functions => exact congrArg (Except.map _) (start_stepParams sent functions)
    | resume value => rfl
    | raise message => rfl
    | postpone => rfl
    | resolve sent => exact congrArg (Except.map _) (answers_stepParams sent)
  | snapshot => rfl
  | restore bytes =>
    have hbytes : state (params (.restore bytes)) = .ok bytes := by
      have hget : (params (.restore bytes)).get? "bytes" = some (.ofBytes bytes) := rfl
      rw [state, hget, Option.bind_some, Json.asBytes?_ofBytes]
    exact congrArg (Except.map _) hbytes
  | globals => rfl
  | dispose => rfl

end Command

/-! ## Legible parameters -/

/-- Whether the values that a step brings are read back from the parameters of a request. -/
def Step.isLegible {ν : Type} : Step ν → Bool
  | resume value => value.isLegible (Request.depth - 1)
  | resolve answers => answers.results.entries.all fun e => e.2.isLegible (Request.depth - 2)
  | _ => true

/-- Whether the values that a call brings are read back from the parameters of a request. -/
def Backend.Call.isLegible : Backend.Call → Bool
  | drive step => step.isLegible
  | _ => true

namespace Remote

/-- The parts of the parameters of a script are legible. -/
lemma isLegible_scriptPart {sent : Script (Option String)} {part : String × Option Json}
    (hpart : part ∈ [("code", some (Json.str sent.code)),
      ("limits", sent.limits.map fun limits => .ofFields limits.fields),
      ("script_name", sent.name.map .str)]) {value : Json} (hvalue : value ∈ part.2)
    (depth : Nat) : value.isLegible (depth + 1) = true := by
  have hlimit (key : String) (limit : Option UInt64) :
      ∀ value ∈ (key, limit.map Json.ofUInt64).2, value.isLegible depth = true := by
    intro value hmem
    obtain ⟨n, -, rfl⟩ := Option.map_eq_some_iff.mp hmem
    exact Json.isLegible_ofUInt64 n depth
  simp only [List.mem_cons, List.not_mem_nil, or_false] at hpart
  rcases hpart with rfl | rfl | rfl
  · rw [← Option.some.inj hvalue]
    exact Json.isLegible_str _ _
  · obtain ⟨limits, -, rfl⟩ := Option.map_eq_some_iff.mp hvalue
    refine Json.isLegible_ofWritten _ fun part hpart => ?_
    simp only [List.mem_cons, List.not_mem_nil, or_false] at hpart
    rcases hpart with rfl | rfl | rfl <;> exact hlimit _ _
  · obtain ⟨name, -, rfl⟩ := Option.map_eq_some_iff.mp hvalue
    exact Json.isLegible_str _ _

/-- The parameters of a script are legible. -/
lemma isLegible_scriptParams {sent : Script (Option String)} {e : String × Json}
    (h : e ∈ scriptParams sent) (depth : Nat) : e.2.isLegible (depth + 1) = true := by
  obtain ⟨part, hpart, hvalue⟩ := List.mem_filterMap.mp h
  obtain ⟨value, hsome, rfl⟩ := Option.map_eq_some_iff.mp hvalue
  exact isLegible_scriptPart hpart hsome depth

/-- Texts are legible as an array. -/
lemma isLegible_texts (texts : List String) (depth : Nat) :
    (Json.arr (texts.map .str)).isLegible (depth + 1) = true := by
  refine Json.isLegible_arr _ fun x hx => ?_
  obtain ⟨s, -, rfl⟩ := List.mem_map.mp hx
  exact Json.isLegible_str s depth

/-- Values by the numbers of calls are legible when each of them is. -/
lemma isLegible_keyed {α : Type} {write : α → Json} {entries : Dict UInt32 α} (depth : Nat)
    (h : ∀ e ∈ entries.entries, (write e.2).isLegible depth = true) :
    (keyed write entries).isLegible (depth + 1) = true := by
  refine Json.isLegible_ofFields _ fun e he => ?_
  obtain ⟨entry, hentry, rfl⟩ := List.mem_map.mp he
  exact h entry hentry

/-- The parameters of a legible step are legible. -/
lemma isLegible_stepParams {step : Step (Option String)} (h : step.isLegible = true)
    {e : String × Json} (he : e ∈ stepParams step) :
    e.2.isLegible (Request.depth - 1) = true := by
  cases step with
  | start sent functions =>
    rcases List.mem_append.mp he with he | he
    · exact isLegible_scriptParams he (Request.depth - 2)
    · rw [List.mem_singleton.mp he]
      exact isLegible_texts functions (Request.depth - 2)
  | resume value =>
    rw [List.mem_singleton.mp he]
    exact h
  | raise message =>
    rw [List.mem_singleton.mp he]
    exact Json.isLegible_str _ _
  | postpone => exact absurd he List.not_mem_nil
  | resolve answers =>
    rw [Step.isLegible, List.all_eq_true] at h
    simp only [stepParams, List.mem_cons, List.not_mem_nil, or_false] at he
    rcases he with rfl | rfl
    · exact isLegible_keyed (Request.depth - 2) h
    · exact isLegible_keyed (Request.depth - 2) fun _ _ => Json.isLegible_str _ _

/-- The parameters of a legible call are legible. -/
theorem isLegible_params {c : Backend.Call} (h : c.isLegible = true) :
    (params c).isLegible Request.depth = true := by
  refine Json.isLegible_ofFields (Request.depth - 1) fun e he => ?_
  cases c with
  | init =>
    rw [List.mem_singleton.mp he]
    exact Json.isLegible_str _ _
  | run sent => exact isLegible_scriptParams he (Request.depth - 2)
  | drive step => exact isLegible_stepParams h he
  | restore bytes =>
    rw [List.mem_singleton.mp he]
    exact Json.isLegible_ofBytes bytes (Request.depth - 2)
  | snapshot => exact absurd he List.not_mem_nil
  | globals => exact absurd he List.not_mem_nil
  | dispose => exact absurd he List.not_mem_nil

end Remote

end ScriptHost
