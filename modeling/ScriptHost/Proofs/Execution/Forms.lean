import ScriptHost.Config.Basic
import ScriptHost.Engine.Capabilities
import ScriptHost.Proofs.Json.Records

/-!
# Forms are read back

The form of a value of the domain is a record. Which names its fields have, which parts may be
absent and how the parts are written themselves is said here for each type without its writer and
its reader. The writer writes this form, and the reader reads the value from every such form, in
whatever order the fields are; only a null as the value of a result is read as an absent value.

The names of limits have a second spelling each. Limits are read from every mixture of the two, and
never from an object with both spellings of a name.

## Main definitions

* `IsForm` of the types of the domain — a value is a form of another.
* `ScriptHost.ReadsBack` — values are written in their form and read back from it.

## Main results

* `ScriptHost.Limits.ofJson?_eq_none` — limits are not read when a name stands in both spellings.
* `ScriptHost.forms_readBack` — the values of all types are read back from their forms.
-/

namespace ScriptHost

variable {α : Type} {json : Json}

/-- Values are written in their form, and from every form of a value it is read as the value that
comes back for it. -/
structure ReadsBack (IsForm : α → Json → Prop) (write : α → Json) (read : Json → Option α)
    (back : α → α) : Prop where
  /-- What is written is a form of the value. -/
  written : ∀ a, IsForm a (write a)
  /-- What is read of a form is the value that comes back. -/
  read : ∀ a json, IsForm a json → read json = some (back a)

/-! ## Resources -/

namespace Usage

/-- A value is a form of a usage. -/
def IsForm (usage : Usage) (json : Json) : Prop :=
  json.IsRecord [("memory_bytes_used", some (.ofUInt64 usage.memoryBytes)),
    ("time_elapsed_ms", some (.ofUInt64 usage.timeMs)),
    ("stack_depth_used", some (.ofUInt64 usage.stackDepth))]

/-- A usage is read back. -/
lemma readsBack : ReadsBack IsForm toJson ofJson? id where
  written usage := Json.isRecord_written _
  read usage json h := by
    have hslots := h.form?_eq parts (by simp [parts]) (by simp [parts])
    rw [ofJson?, hslots]
    simp

end Usage

namespace Limits

/-- A value is a form of limits: each name is spelled in one of its two ways, and limits that are
absent are left out. -/
def IsForm (limits : Limits) (json : Json) : Prop :=
  ∃ timeout ∈ ["timeoutMs", "timeout_ms"], ∃ memory ∈ ["memoryBytes", "memory_bytes"],
    ∃ stack ∈ ["stackDepth", "stack_depth"],
      json.IsRecord [(timeout, limits.timeoutMs.map .ofUInt64),
        (memory, limits.memoryBytes.map .ofUInt64), (stack, limits.stackDepth.map .ofUInt64)]

/-- Limits are read back, in whatever spelling their names are. -/
lemma readsBack : ReadsBack IsForm toJson ofJson? id where
  written limits := ⟨_, List.mem_cons_self, _, List.mem_cons_self, _, List.mem_cons_self,
    Json.isRecord_written _⟩
  read limits json h := by
    obtain ⟨timeout, htimeout, memory, hmemory, stack, hstack, hrecord⟩ := h
    have hslots := hrecord.form?_eq parts
      (.cons htimeout (.cons hmemory (.cons hstack .nil))) (by simp [parts])
    rw [ofJson?, hslots]
    simp [ofSlots?]

/-- **Both spellings.** Limits are not read from an object with both spellings of a name, whatever
stands under them. -/
theorem ofJson?_eq_none {fields : List (String × Json)} {spellings : List String}
    (hspellings : spellings ∈ parts)
    (hboth : ∀ spelling ∈ spellings, spelling ∈ fields.map Prod.fst) :
    ofJson? (.obj fields) = none := by
  have hslots : Form.ofFields parts fields = none := by
    obtain ⟨first, second, hfirst, hsecond, hne⟩ :
        ∃ first second, first ∈ spellings ∧ second ∈ spellings ∧ first ≠ second := by
      simp only [parts, List.mem_cons, List.not_mem_nil, or_false] at hspellings
      rcases hspellings with rfl | rfl | rfl <;>
        exact ⟨_, _, List.mem_cons_self, List.mem_cons_of_mem _ List.mem_cons_self, by decide⟩
    obtain ⟨a, ha, rfl⟩ := List.mem_map.mp (hboth first hfirst)
    obtain ⟨b, hb, rfl⟩ := List.mem_map.mp (hboth second hsecond)
    exact Form.ofFields_eq_none hspellings ha hb hfirst hsecond hne
  rw [ofJson?, Json.form?, hslots]
  rfl

example : ofJson? (.obj [("timeoutMs", .null), ("timeout_ms", .null)]) = none := rfl

end Limits

/-! ## Results -/

namespace Frame

/-- A value is a form of a frame. -/
def IsForm (frame : Frame) (json : Json) : Prop :=
  json.IsRecord [("filename", some (.str frame.filename)),
    ("start_line", some (.ofUInt32 frame.line)), ("start_column", some (.ofUInt32 frame.column)),
    ("frame_name", some (.str frame.name)), ("preview_line", frame.preview.map .str)]

/-- A frame is read back. -/
lemma readsBack : ReadsBack IsForm toJson ofJson? id where
  written frame := Json.isRecord_written _
  read frame json h := by
    have hslots := h.form?_eq parts (by simp [parts]) (by simp [parts])
    rw [ofJson?, hslots]
    simp

end Frame

namespace ScriptError

/-- A value is a form of an error; an empty traceback is left out. -/
def IsForm (error : ScriptError) (json : Json) : Prop :=
  ∃ frames, List.Forall₂ Frame.IsForm error.traceback frames ∧
    json.IsRecord [("message", some (.str error.message)),
      ("exc_type", error.excType.map .str), ("filename", error.filename.map .str),
      ("line_number", error.line.map .ofUInt32), ("column_number", error.column.map .ofUInt32),
      ("traceback", if frames.isEmpty then none else some (.arr frames))]

/-- A traceback is read back, also when it is empty and left out. -/
lemma traceback_of_forms {traceback : List Frame} {frames : List Json}
    (h : List.Forall₂ Frame.IsForm traceback frames) :
    Form.defaulted [] (Json.itemsOf? Frame.ofJson?)
      (if frames.isEmpty then none else some (.arr frames)) = some traceback := by
  cases h with
  | nil => rfl
  | cons hhead hrest =>
    exact mapM_of_forall₂ ((List.Forall₂.cons hhead hrest).flip.imp
      fun _ _ hform => Frame.readsBack.read _ _ hform)

/-- An error is read back. -/
lemma readsBack : ReadsBack IsForm toJson ofJson? id where
  written error := by
    refine ⟨error.traceback.map Frame.toJson, ?_, ?_⟩
    · rw [List.forall₂_map_right_iff, List.forall₂_same]
      exact fun frame _ => Frame.readsBack.written frame
    · rw [List.isEmpty_map]
      exact Json.isRecord_written _
  read error json h := by
    obtain ⟨frames, hframes, hrecord⟩ := h
    have hslots := hrecord.form?_eq parts (by simp [parts]) (by simp [parts])
    rw [ofJson?, hslots]
    simp [-List.isEmpty_iff, traceback_of_forms hframes]

end ScriptError

namespace RunResult

/-- A value is a form of a result; an absent value is null, and an absent error is left out. -/
def IsForm (result : RunResult) (json : Json) : Prop :=
  ∃ error usage, Option.Rel ScriptError.IsForm result.error error ∧
    result.usage.IsForm usage ∧ json.IsRecord [("value", some result.valueOrNull),
      ("error", error), ("usage", some usage)]

/-- A result without a null as its value: it has no value then. -/
def withoutNull (result : RunResult) : RunResult :=
  { result with value := result.value.filter fun value => !value.isNull }

/-- A value is read back, and null is read as an absent one. -/
lemma optional_valueOrNull (result : RunResult) :
    Form.optional some (some result.valueOrNull) = some result.withoutNull.value := by
  rcases result with ⟨_ | value, error, usage⟩
  · rfl
  · cases value <;> rfl

/-- An error that may be absent is read back. -/
lemma error_of_form {error : Option ScriptError} {form : Option Json}
    (h : Option.Rel ScriptError.IsForm error form) :
    Form.optional ScriptError.ofJson? form = some error := by
  cases h with
  | none => rfl
  | some hform =>
    refine Form.optional_of_eq (ScriptError.readsBack.read _ _ hform) ?_
    obtain ⟨frames, -, hrecord⟩ := hform
    exact hrecord.ne_null

/-- A result is read back without a null as its value. -/
lemma readsBack : ReadsBack IsForm toJson ofJson? withoutNull where
  written result := by
    refine ⟨result.error.map ScriptError.toJson, result.usage.toJson, ?_,
      Usage.readsBack.written _, Json.isRecord_written _⟩
    rcases result.error with _ | error
    · exact .none
    · exact .some (ScriptError.readsBack.written error)
  read result json h := by
    obtain ⟨error, usage, herror, husage, hrecord⟩ := h
    have hslots := hrecord.form?_eq parts (by simp [parts]) (by simp [parts])
    rw [ofJson?, hslots]
    simp [optional_valueOrNull, error_of_form herror, Form.defaulted,
      Usage.readsBack.read _ _ husage, withoutNull]

end RunResult

/-! ## Progress -/

namespace PendingCall

/-- The parts of the form of a pending call. -/
def record (call : PendingCall) : List (String × Option Json) :=
  [("function_name", some (.str call.function)), ("arguments", some (.arr call.arguments)),
    ("kwargs", call.kwargs.map .ofDict), ("call_id", some (.ofUInt32 call.callId)),
    ("method_call", some (.bool call.isMethod))]

/-- A value is a form of a pending call. -/
def IsForm (call : PendingCall) (json : Json) : Prop :=
  json.IsRecord call.record

/-- Arguments by name are read back. -/
lemma optional_kwargs (kwargs : Option (Dict String Json)) :
    Form.optional (fun given => given.asObject?.map Dict.ofEntries) (kwargs.map .ofDict) =
      some kwargs := by
  have hback (d : Dict String Json) :
      (Json.ofDict d).asObject?.map Dict.ofEntries = some d :=
    congrArg some (Dict.ofEntries_entries d)
  exact Form.optional_map hback (fun _ => Json.noConfusion) kwargs

/-- A pending call is read back. -/
lemma readsBack : ReadsBack IsForm toJson ofJson? id where
  written call := Json.isRecord_written _
  read call json h := by
    have hslots := h.form?_eq parts (by simp [parts, record]) (by simp [parts])
    have harguments : Form.required Json.asArray? (some (.arr call.arguments)) =
        some call.arguments := Form.required_of_eq rfl
    rw [ofJson?, hslots]
    simp [record, harguments, optional_kwargs]

end PendingCall

namespace Progress

/-- A value is a form of progress: the state stands in one object with the result, with the parts of
the pending call, or with the numbers of the calls. -/
def IsForm (progress : Progress) (json : Json) : Prop :=
  match progress with
  | complete result => ∃ form, result.IsForm form ∧
      json.IsRecord [("state", some (.str "complete")), ("result", some form)]
  | pending call => json.IsRecord (("state", some (.str "pending")) :: call.record)
  | futures ids => json.IsRecord [("state", some (.str "resolve_futures")),
      ("pending_call_ids", some (.arr (ids.map .ofUInt32)))]

/-- Progress without a null as the value of its result. -/
def withoutNull : Progress → Progress
  | complete result => complete result.withoutNull
  | progress => progress

/-- The state of a record, and the record without it. -/
lemma untag?_of_isRecord {state : String} {rest : List (String × Option Json)}
    (h : json.IsRecord (("state", some (.str state)) :: rest))
    (hrest : (rest.map Prod.fst).Nodup) (hstate : "state" ∉ rest.map Prod.fst) :
    ∃ untagged, untag? json = some (state, untagged) ∧ untagged.IsRecord rest := by
  obtain ⟨fields, rfl, hfields⟩ := h
  have hperm : fields.Perm (("state", .str state) :: Form.written rest) := hfields
  have hkeys : ((Form.written rest).map Prod.fst).Sublist (rest.map Prod.fst) :=
    Form.keys_written rest
  have hother : ∀ field ∈ Form.written rest, field.1 ≠ "state" := fun field hfield heq =>
    hstate (hkeys.subset (heq ▸ List.mem_map_of_mem hfield))
  have hnodup : ((("state", Json.str state) :: Form.written rest).map Prod.fst).Nodup :=
    List.nodup_cons.mpr ⟨fun hmem => hstate (hkeys.subset hmem), hrest.sublist hkeys⟩
  have hlookup : fields.lookup "state" = some (.str state) := by
    rw [Entries.lookup_congr hnodup hperm, Entries.lookup_cons, if_pos rfl]
  have hfilter : (fields.filter (·.1 != "state")).Perm (Form.written rest) := by
    have hkept : (Form.written rest).filter (·.1 != "state") = Form.written rest :=
      List.filter_eq_self.mpr fun field hfield => bne_iff_ne.mpr (hother field hfield)
    have hperm' := hperm.filter (·.1 != "state")
    rwa [List.filter_cons_of_neg (by simp), hkept] at hperm'
  exact ⟨_, by rw [untag?, hlookup]; rfl, _, rfl, hfilter⟩

/-- The only part of a record of one part. -/
lemma onlyPart?_of_isRecord {name : String} {part : Json}
    (h : json.IsRecord [(name, some part)]) : onlyPart? name json = some part := by
  have hslots := h.form?_eq [[name]] (by simp) (by simp)
  rw [onlyPart?, hslots]
  rfl

/-- Progress is read back without a null as the value of its result. -/
lemma readsBack : ReadsBack IsForm toJson ofJson? withoutNull where
  written progress := by
    cases progress with
    | complete result => exact ⟨_, RunResult.readsBack.written result, Json.isRecord_written _⟩
    | pending call =>
      exact Json.isRecord_written (("state", some (.str "pending")) :: call.record)
    | futures ids =>
      exact Json.isRecord_written [("state", some (.str "resolve_futures")),
        ("pending_call_ids", some (.arr (ids.map .ofUInt32)))]
  read progress json h := by
    cases progress with
    | complete result =>
      obtain ⟨form, hform, hrecord⟩ := h
      obtain ⟨untagged, huntag, huntagged⟩ := untag?_of_isRecord hrecord (by simp) (by simp)
      rw [ofJson?, huntag]
      simp [onlyPart?_of_isRecord huntagged, RunResult.readsBack.read _ _ hform, withoutNull]
    | pending call =>
      obtain ⟨untagged, huntag, huntagged⟩ :=
        untag?_of_isRecord h (by simp [PendingCall.record]) (by simp [PendingCall.record])
      rw [ofJson?, huntag]
      simp [PendingCall.readsBack.read call _ huntagged, withoutNull]
    | futures ids =>
      obtain ⟨untagged, huntag, huntagged⟩ := untag?_of_isRecord h (by simp) (by simp)
      have hids : Json.itemsOf? Json.asUInt32? (.arr (ids.map .ofUInt32)) = some ids :=
        mapM_map_of_back Json.asUInt32?_ofUInt32 ids
      rw [ofJson?, huntag]
      simp [onlyPart?_of_isRecord huntagged, hids, withoutNull]

end Progress

/-! ## Global names -/

namespace Global

/-- A value is a form of a binding: an object with one field, whose name is the kind. -/
def IsForm (binding : Global) (json : Json) : Prop :=
  match binding with
  | data value => json.IsRecord [("data", some value)]
  | foreign typeName => ∃ form : Json, form.IsRecord [("type_name", some (.str typeName))] ∧
      json.IsRecord [("opaque", some form)]

/-- A binding is read back. -/
lemma readsBack : ReadsBack IsForm toJson ofJson? id where
  written binding := by
    cases binding with
    | data value => exact Json.isRecord_written [("data", some value)]
    | foreign typeName => exact ⟨_, Json.isRecord_written _, Json.isRecord_written _⟩
  read binding json h := by
    cases binding with
    | data value =>
      obtain ⟨fields, rfl, hperm⟩ := h
      rw [List.perm_singleton.mp hperm]
      rfl
    | foreign typeName =>
      obtain ⟨form, hform, fields, rfl, hperm⟩ := h
      have htype := hform.form?_eq [["type_name"]] (by simp) (by simp)
      obtain ⟨inner, rfl, -⟩ := hform
      rw [Json.form?] at htype
      rw [List.perm_singleton.mp hperm]
      simp [ofJson?, htype]

end Global

/-! ## Capabilities and settings -/

namespace Capabilities

/-- A value is a form of capabilities. -/
def IsForm (c : Capabilities) (json : Json) : Prop :=
  json.IsRecord [("snapshot", some (.bool c.snapshot)),
    ("idle_snapshot", some (.bool c.idleSnapshot)), ("futures", some (.bool c.futures)),
    ("namespace", some (.bool c.globals))]

/-- Capabilities are read back. -/
lemma readsBack : ReadsBack IsForm toJson ofJson? id where
  written c := Json.isRecord_written _
  read c json h := by
    have hslots := h.form?_eq parts (by simp [parts]) (by simp [parts])
    rw [ofJson?, hslots]
    rfl

end Capabilities

namespace Config

/-- A value is a form of settings. -/
def IsForm (config : Config) (json : Json) : Prop :=
  ∃ limits, config.defaultLimits.IsForm limits ∧
    json.IsRecord [("script_name", some (.str config.scriptName)),
      ("default_limits", some limits), ("worker_thread_name", some (.str config.workerName)),
      ("command_buffer", some (.ofUInt64 config.commandBuffer))]

/-- Settings are read of slots of which each part is read. -/
lemma ofSlots?_of_read {β : Type} {value : β → Option Json} {limits : β → Option Limits}
    {name default worker buffer : β} {config : Config}
    (hname : value name = some (.str config.scriptName))
    (hlimits : limits default = some config.defaultLimits)
    (hworker : value worker = some (.str config.workerName))
    (hbuffer : value buffer = some (.ofUInt64 config.commandBuffer)) :
    ofSlots? value limits [some name, some default, some worker, some buffer] = some config := by
  have htext {slot : β} {text : String} (absent : String) (h : value slot = some (.str text)) :
      Form.defaulted absent (fun slot => (value slot).bind Json.asString?) (some slot) =
        some text := Form.defaulted_of_eq (by rw [h]; rfl)
  have hlimits' : Form.defaulted standard.defaultLimits limits (some default) =
      some config.defaultLimits := Form.defaulted_of_eq hlimits
  have hbuffer' : Form.defaulted standard.commandBuffer
      (fun slot => (value slot).bind Json.asUInt64?) (some buffer) = some config.commandBuffer :=
    Form.defaulted_of_eq (by rw [hbuffer, Option.bind_some, Json.asUInt64?_ofUInt64])
  rw [ofSlots?, htext _ hname, htext _ hworker, hlimits', hbuffer']
  rfl

/-- Settings are read back. -/
lemma readsBack : ReadsBack IsForm toJson ofJson? id where
  written config := ⟨_, Limits.readsBack.written _, Json.isRecord_written _⟩
  read config json h := by
    obtain ⟨limits, hlimits, hrecord⟩ := h
    have hslots := hrecord.form?_eq parts (by simp [parts]) (by simp [parts])
    rw [ofJson?, hslots]
    exact ofSlots?_of_read rfl (Limits.readsBack.read _ _ hlimits) rfl rfl

end Config

/-! ## All types -/

/-- **Forms are read back.** The values of all types of the domain are written in their form and
read back from it, but a null as the value of a result is read as an absent one; limits are read
back in whatever spelling their names are, and are not read when a name stands in both spellings.

**Proof sketch.** The slots of a form do not depend on the order of its fields, and the slots of a
record are its parts. The parts are read back one by one. -/
theorem forms_readBack :
    ReadsBack Usage.IsForm Usage.toJson Usage.ofJson? id ∧
      ReadsBack Frame.IsForm Frame.toJson Frame.ofJson? id ∧
      ReadsBack ScriptError.IsForm ScriptError.toJson ScriptError.ofJson? id ∧
      ReadsBack RunResult.IsForm RunResult.toJson RunResult.ofJson? RunResult.withoutNull ∧
      (ReadsBack Limits.IsForm Limits.toJson Limits.ofJson? id ∧
        ∀ fields, ∀ spellings ∈ Limits.parts,
          (∀ spelling ∈ spellings, spelling ∈ fields.map Prod.fst) →
            Limits.ofJson? (.obj fields) = none) ∧
      ReadsBack PendingCall.IsForm PendingCall.toJson PendingCall.ofJson? id ∧
      ReadsBack Progress.IsForm Progress.toJson Progress.ofJson? Progress.withoutNull ∧
      ReadsBack Global.IsForm Global.toJson Global.ofJson? id ∧
      ReadsBack Capabilities.IsForm Capabilities.toJson Capabilities.ofJson? id ∧
      ReadsBack Config.IsForm Config.toJson Config.ofJson? id :=
  ⟨Usage.readsBack, Frame.readsBack, ScriptError.readsBack, RunResult.readsBack,
    ⟨Limits.readsBack, fun _ _ => Limits.ofJson?_eq_none⟩, PendingCall.readsBack,
    Progress.readsBack, Global.readsBack, Capabilities.readsBack, Config.readsBack⟩

end ScriptHost
