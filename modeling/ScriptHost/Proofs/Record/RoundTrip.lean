import ScriptHost.Proofs.Json.Fields
import ScriptHost.Record.Decode
import ScriptHost.Record.Encode

/-!
# Records are read back

What an engine answers about an execution is read back from its record up to a normal form: a value
that is null counts as absent, a failed result has no value, there are keyword arguments only when
there is one, and the missing positions of an error are those of its innermost frame.

## Main definitions

* `ScriptHost.RunResult.norm`, `ScriptHost.Progress.norm` — the normal form of a result and of
  progress.

## Main results

* `ScriptHost.Record.runResult_toRecord`, `ScriptHost.Record.progress_toRecord`,
  `ScriptHost.Record.globals_toRecord` — results, progress and global names are read back from their
  records.
-/

namespace ScriptHost

/-! ## Normal forms -/

/-- An error with its missing positions filled in from the innermost frame. -/
def ScriptError.norm (error : ScriptError) : ScriptError :=
  { error with
    filename := error.filename.or (error.traceback.getLast?.map Frame.filename)
    line := error.line.or (error.traceback.getLast?.map Frame.line)
    column := error.column.or (error.traceback.getLast?.map Frame.column) }

/-- A result whose error has its positions and which has a value only when it has no error, and
only one that is not null. -/
def RunResult.norm (result : RunResult) : RunResult :=
  match result.error with
  | some error => .failure error.norm result.usage
  | none => .success result.valueOrNull result.usage

/-- The error of a result in its normal form. -/
lemma RunResult.error_norm (result : RunResult) :
    result.norm.error = result.error.map ScriptError.norm := by
  rw [norm]
  cases result.error <;> rfl

/-- The usage of a result stays. -/
lemma RunResult.usage_norm (result : RunResult) : result.norm.usage = result.usage := by
  rw [norm]
  cases result.error <;> rfl

/-- A call whose keyword arguments are absent when there are none. -/
def PendingCall.norm (call : PendingCall) : PendingCall :=
  { call with kwargs := call.kwargs.filter fun kwargs => !kwargs.isEmpty }

/-- Progress in its normal form. -/
def Progress.norm : Progress → Progress
  | complete result => complete result.norm
  | pending call => pending call.norm
  | futures ids => futures ids

/-! ## The parts of records -/

/-- The parts of the record of an error. -/
def ScriptError.recordParts (error : ScriptError) : List (String × Option Json) :=
  [("error", some (.str error.message)), ("exc_type", error.excType.map .str),
    ("filename", error.filename.map .str), ("line_number", error.line.map .ofUInt32),
    ("column_number", error.column.map .ofUInt32),
    ("traceback", if error.traceback.isEmpty then none
      else some (.arr (error.traceback.map Frame.toRecord)))]

/-- The parts of the record of a result, with the state that the record of progress has. -/
def RunResult.recordParts (state : Option String) (result : RunResult) :
    List (String × Option Json) :=
  ("state", state.map .str) :: ("ok", some (.bool (!result.isError))) ::
    ("usage", some result.usage.toRecord) ::
      match result.error with
      | some error => error.recordParts
      | none => [("value", some result.valueOrNull)]

lemma RunResult.written_recordParts (state : Option String) (result : RunResult) :
    Form.written (result.recordParts state) =
      (state.map fun state => ("state", Json.str state)).toList ++ result.recordFields := by
  obtain ⟨value, _ | error, usage⟩ := result <;> cases state <;> rfl

lemma RunResult.nodup_recordParts (state : Option String) (result : RunResult) :
    ((result.recordParts state).map Prod.fst).Nodup := by
  obtain ⟨value, _ | error, usage⟩ := result <;>
    simp [RunResult.recordParts, ScriptError.recordParts]

namespace Record

/-! ## Parts of errors -/

/-- A position is read back. -/
lemma saturate_ofUInt32 (n : UInt32) : (Json.ofUInt32 n).asUInt64?.map saturate = some n := by
  have hn : n.toNat < UInt64.size := Nat.lt_trans n.toNat_lt_size (by decide)
  have hback : (Json.ofUInt32 n).asUInt64? = some (UInt64.ofNat n.toNat) := by
    simp only [Json.ofUInt32, Json.asUInt64?, Number.toUInt64?, Number.ofUInt32,
      Number.toNatBelow?_ofNat _ hn, Option.map_some]
  rw [hback, Option.map_some, saturate, UInt64.toNat_ofNat_of_lt' hn, if_pos n.toNat_lt_size]
  simp

section Lookups

variable {fields : Fields} {key : String}

lemma textAt?_of_lookup (text : Option String) (h : fields.lookup key = text.map .str) :
    textAt? fields key = text := by
  rw [textAt?, h]
  cases text <;> rfl

lemma positionAt?_of_lookup (position : Option UInt32)
    (h : fields.lookup key = position.map .ofUInt32) : positionAt? fields key = position := by
  rw [positionAt?, h]
  cases position with
  | none => rfl
  | some n => rw [Option.map_some, Option.bind_some, saturate_ofUInt32]

lemma counter_of_lookup {n : UInt64} (h : fields.lookup key = some (.ofUInt64 n)) :
    counter fields key = n := by
  have hback : (fields.lookup key).bind Json.asUInt64? = some n := by
    rw [h, Option.bind_some, Json.asUInt64?_ofUInt64]
  simp only [counter, hback, Option.getD_some]

end Lookups

/-- The usage of a record is read back. -/
lemma usage_of_lookup {fields : Fields} {used : Usage}
    (h : fields.lookup "usage" = some used.toRecord) : usage fields = .ok used := by
  have hnodup : ([("memory_bytes_used", Json.ofUInt64 used.memoryBytes),
      ("time_elapsed_ms", .ofUInt64 used.timeMs),
      ("stack_depth_used", .ofUInt64 used.stackDepth)].map Prod.fst).Nodup := by
    simp
  rw [usage, h, Usage.toRecord, Json.ofFields]
  simp only
  rw [counter_of_lookup (Entries.lookup_ofList_of_nodup hnodup _),
    counter_of_lookup (Entries.lookup_ofList_of_nodup hnodup _),
    counter_of_lookup (Entries.lookup_ofList_of_nodup hnodup _)]

/-- A frame is read back from its record. -/
lemma frame_toRecord (f : Frame) : frame f.toRecord = .ok f := by
  have hnodup : ([("filename", some (Json.str f.filename)),
      ("start_line", some (.ofUInt32 f.line)), ("start_column", some (.ofUInt32 f.column)),
      ("frame_name", some (.str f.name)),
      ("preview_line", f.preview.map .str)].map Prod.fst).Nodup := by
    simp
  have hlookup := Json.lookup_ofWritten hnodup
  rw [Frame.toRecord, Json.ofFields, frame]
  rw [textAt?_of_lookup (some f.filename) (hlookup _),
    positionAt?_of_lookup (some f.line) (hlookup _),
    positionAt?_of_lookup (some f.column) (hlookup _),
    textAt?_of_lookup (some f.name) (hlookup _),
    textAt?_of_lookup f.preview (hlookup _)]
  rfl

/-! ## Results -/

/-- The error in the record of a failed result is read back in its normal form. -/
lemma error_recordParts (state : Option String) {result : RunResult} {e : ScriptError}
    (he : result.error = some e) :
    error (Entries.ofList (Form.written (result.recordParts state))) = .ok e.norm := by
  have hlookup := Json.lookup_ofWritten (result.nodup_recordParts state)
  generalize Entries.ofList (Form.written (result.recordParts state)) = fields at hlookup ⊢
  rw [RunResult.recordParts, he] at hlookup
  have hmessage : fields.lookup "error" = some (.str e.message) := hlookup _
  have htraceback : traceback fields = .ok e.traceback := by
    have hframes : fields.lookup "traceback" = if e.traceback.isEmpty then none
        else some (.arr (e.traceback.map Frame.toRecord)) := hlookup _
    rw [traceback, hframes]
    rcases hcases : e.traceback with _ | ⟨f, fs⟩
    · rfl
    · exact mapM_map_of_back frame_toRecord (f :: fs)
  have hdetail : errorDetail fields = (fields, some e.message) := by
    rw [errorDetail, hmessage]
  have htype : textAt? fields "exc_type" = e.excType := textAt?_of_lookup _ (hlookup _)
  have hname : textAt? fields "filename" = e.filename := textAt?_of_lookup _ (hlookup _)
  have hline : positionAt? fields "line_number" = e.line := positionAt?_of_lookup _ (hlookup _)
  have hcolumn : positionAt? fields "column_number" = e.column :=
    positionAt?_of_lookup _ (hlookup _)
  rw [error, hdetail]
  simp only [htraceback, errorOf, htype, hname, hline, hcolumn]
  rfl

/-- A result is read back in its normal form from its parts.

**Proof sketch.** The usage and the mark of success are read back as they are. With the mark the
value is read, and without it the error, whose positions are filled in. -/
lemma resultOf_recordParts (state : Option String) (result : RunResult) :
    resultOf (Entries.ofList (Form.written (result.recordParts state))) = .ok result.norm := by
  have hlookup := Json.lookup_ofWritten (result.nodup_recordParts state)
  have husage : usage (Entries.ofList (Form.written (result.recordParts state))) =
      .ok result.usage := usage_of_lookup (hlookup _)
  have hmark : okMark (Entries.ofList (Form.written (result.recordParts state))) =
      .ok (!result.isError) := by
    have hok : (Entries.ofList (Form.written (result.recordParts state))).lookup "ok" =
        some (.bool (!result.isError)) := hlookup _
    rw [okMark, hok]
  rw [resultOf, husage, hmark]
  rcases herror : result.error with _ | e
  · have hvalue : (Entries.ofList (Form.written (result.recordParts state))).lookup "value" =
        some result.valueOrNull := by
      rw [hlookup, RunResult.recordParts, herror]
      rfl
    have hmarked : (!result.isError) = true := by
      simp [RunResult.isError, herror]
    rw [hmarked, hvalue, RunResult.norm, herror]
    rfl
  · have hmarked : (!result.isError) = false := by
      simp [RunResult.isError, herror]
    rw [hmarked, error_recordParts _ herror, RunResult.norm, herror]
    rfl

/-- **Results are read back** in their normal form. -/
theorem runResult_toRecord (result : RunResult) :
    runResult result.toRecord = .ok result.norm := by
  have hwritten : Form.written (result.recordParts none) = result.recordFields :=
    result.written_recordParts none
  have hresult := resultOf_recordParts none result
  rw [hwritten] at hresult
  exact hresult

/-! ## Progress -/

/-- The parts of the record of a call. -/
def callParts (call : PendingCall) : List (String × Option Json) :=
  [("ok", some (.bool true)), ("state", some (.str "pending")),
    ("function_name", some (.str call.function)), ("arguments", some (.arr call.arguments)),
    ("kwargs", Progress.recordKwargs call), ("call_id", some (.ofUInt32 call.callId)),
    ("method_call", some (.bool call.isMethod))]

/-- Keyword arguments are read back, and are absent when there are none. -/
lemma kwargs_of_lookup {fields : Fields} (call : PendingCall)
    (h : fields.lookup "kwargs" = Progress.recordKwargs call) :
    kwargs fields = .ok (call.kwargs.filter fun kwargs => !kwargs.isEmpty) := by
  rw [kwargs, h, Progress.recordKwargs]
  rcases call.kwargs with _ | ⟨_ | ⟨e, rest⟩, hordered⟩
  · rfl
  · rfl
  · have hback : Dict.ofEntries (e :: rest) = ⟨e :: rest, hordered⟩ :=
      Dict.ofEntries_entries ⟨e :: rest, hordered⟩
    exact congrArg (fun kwargs => Except.ok (some kwargs)) hback

/-- The number of a call is read when there is one. -/
lemma callId_of_lookup {fields : Fields} {got : Json} {id : UInt32}
    (h : fields.lookup "call_id" = some got) (hid : got.asUInt32? = some id) :
    callId fields = .ok id := by
  rw [callId, h]
  cases got with
  | num n => simp only [hid]
  | _ => cases hid

/-- The parts of the record of a call have different keys. -/
lemma nodup_callParts (call : PendingCall) : ((callParts call).map Prod.fst).Nodup := by
  simp [callParts]

/-- A call is read back in its normal form. -/
lemma pendingCall_callParts (call : PendingCall) :
    pendingCall (Entries.ofList (Form.written (callParts call))) = .ok call.norm := by
  have hlookup := Json.lookup_ofWritten (nodup_callParts call)
  generalize Entries.ofList (Form.written (callParts call)) = fields at hlookup ⊢
  have hfunction : functionName fields = .ok call.function := by
    have h : fields.lookup "function_name" = some (.str call.function) := hlookup _
    rw [functionName, h]
  have harguments : arguments fields = .ok call.arguments := by
    have h : fields.lookup "arguments" = some (.arr call.arguments) := hlookup _
    rw [arguments, h]
  have hkwargs := kwargs_of_lookup call (hlookup "kwargs")
  have hid : callId fields = .ok call.callId :=
    callId_of_lookup (hlookup _) (Json.asUInt32?_ofUInt32 _)
  have hmethod : fields.lookup "method_call" = some (.bool call.isMethod) := hlookup _
  rw [pendingCall, hfunction, harguments, hkwargs, hid, hmethod]
  rfl

/-- Numbers of calls are read back. -/
lemma awaitedIds_of_lookup {fields : Fields} {ids : List UInt32}
    (h : fields.lookup "pending_call_ids" = some (.arr (ids.map .ofUInt32))) :
    awaitedIds fields = .ok ids := by
  have hid (id : UInt32) : awaitedId (.ofUInt32 id) = .ok id := by
    rw [awaitedId, Json.asUInt32?_ofUInt32]
  rw [awaitedIds, h]
  exact mapM_map_of_back hid ids

/-- Progress is read by the state of its record. -/
lemma progress_of_state {fields : Fields} (word : String)
    (h : fields.lookup "state" = some (.str word)) :
    progress (.obj fields) =
      if word = "complete" then (resultOf fields).map .complete
      else if word = "error" then do
        let usage ← usage fields
        return .complete (.failure (← error fields) usage)
      else if word = "pending" then (pendingCall fields).map .pending
      else if word = "resolve_futures" then (awaitedIds fields).map .futures
      else .error (.unknownState word) := by
  have hstate : state fields = .ok word := by
    rw [state, h]
  have hfields : fieldsOf "progress result" (.obj fields) = .ok fields := rfl
  rw [progress, hfields]
  change (do
    let word ← state fields
    _ : Reading Progress) = _
  rw [hstate]
  rfl

/-- **Progress is read back** in its normal form. -/
theorem progress_toRecord (p : Progress) : progress p.toRecord = .ok p.norm := by
  cases p with
  | complete result =>
    have hwritten := result.written_recordParts (some (Progress.completeState result))
    have hlookup := Json.lookup_ofWritten
      (result.nodup_recordParts (some (Progress.completeState result)))
    have hresult := resultOf_recordParts (some (Progress.completeState result)) result
    have husage : usage (Entries.ofList (Form.written (result.recordParts
        (some (Progress.completeState result))))) = .ok result.usage := usage_of_lookup (hlookup _)
    have herror (e : ScriptError) (he : result.error = some e) :=
      error_recordParts (some (Progress.completeState result)) he
    have hrecord : (Progress.complete result).toRecord = .obj (Entries.ofList
        (Form.written (result.recordParts (some (Progress.completeState result))))) := by
      rw [hwritten]
      rfl
    rw [hrecord, progress_of_state (Progress.completeState result) (hlookup _)]
    rcases he : result.error with _ | e
    · have hword : Progress.completeState result = "complete" := by
        simp [Progress.completeState, RunResult.isError, he]
      rw [if_pos hword, hresult]
      rfl
    · have hword : Progress.completeState result = "error" := by
        simp [Progress.completeState, RunResult.isError, he]
      rw [if_neg (by rw [hword]; decide), if_pos hword, husage, herror e he, Progress.norm,
        RunResult.norm, he]
      rfl
  | pending call =>
    have hlookup := Json.lookup_ofWritten (nodup_callParts call)
    have hrecord : (Progress.pending call).toRecord =
        .obj (Entries.ofList (Form.written (callParts call))) := rfl
    rw [hrecord, progress_of_state "pending" (hlookup _), if_neg (by decide),
      if_neg (by decide), if_pos rfl, pendingCall_callParts]
    rfl
  | futures ids =>
    have hnodup : ([("ok", Json.bool true), ("state", .str "resolve_futures"),
        ("pending_call_ids", .arr (ids.map .ofUInt32))].map Prod.fst).Nodup := by
      simp
    have hlookup := Entries.lookup_ofList_of_nodup hnodup
    rw [Progress.toRecord, Json.ofFields,
      progress_of_state "resolve_futures" (hlookup _), if_neg (by decide),
      if_neg (by decide), if_neg (by decide), if_pos rfl, awaitedIds_of_lookup (hlookup _)]
    rfl

/-! ## Global names -/

/-- A global name is read back. -/
lemma global_toEntry (name : String) (g : Global) : global name g.toEntry = .ok g := by
  cases g <;> rfl

/-- **Global names are read back.** -/
theorem globals_toRecord (g : Globals) : globals g.toRecord = .ok g := by
  have hentries : globalEntries (g.entries.map fun entry => (entry.1, entry.2.toEntry)) =
      .ok g.entries :=
    mapM_map_of_back (fun entry => by rw [global_toEntry]; rfl) g.entries
  have hdict : Dict.ofEntries g.entries = g := Dict.ofEntries_entries g
  change (do
    return Dict.ofEntries (← globalEntries (g.entries.map fun entry => (entry.1, entry.2.toEntry)))
    : Reading Globals) = _
  rw [hentries]
  exact congrArg Except.ok hdict

end Record

end ScriptHost
