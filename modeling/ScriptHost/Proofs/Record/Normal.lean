import ScriptHost.Proofs.Record.RoundTrip

/-!
# What records hold

A reader of records answers with results and progress in normal form, whatever record it is given: a
failed result has no value, no value is null, keyword arguments are absent when there are none, and
an error with a traceback has a position. The normal form of `RunResult.norm` and `Progress.norm` is
just that, so a record is a faithful copy of the values in normal form and of no others, and what
was read once is read again from its own record.

## Main definitions

* `ScriptHost.ScriptError.IsPlaced` — an error has a position when it has a traceback.
* `ScriptHost.RunResult.IsNormal`, `ScriptHost.Progress.IsNormal` — results and progress in normal
  form.

## Main results

* `ScriptHost.RunResult.norm_eq_self_iff`, `ScriptHost.Progress.norm_eq_self_iff` — the normal form
  leaves alone just what is in normal form.
* `ScriptHost.Record.records_read_back` — values are read back from their records up to the normal
  form.
* `ScriptHost.Record.reading_isNormal` — what is read is in normal form.
-/

namespace ScriptHost

/-! ## Errors -/

namespace ScriptError

variable {error : ScriptError}

/-- An error with a traceback has a position. -/
def IsPlaced (error : ScriptError) : Prop :=
  error.traceback ≠ [] → error.filename ≠ none ∧ error.line ≠ none ∧ error.column ≠ none

/-- A part that is filled in from a frame is there when there is a frame. -/
lemma or_ne_none {α : Type} {frames : List Frame} (part : Option α) (of : Frame → α)
    (h : frames ≠ []) : part.or (frames.getLast?.map of) ≠ none := by
  rw [List.getLast?_eq_some_getLast h]
  cases part <;> simp

/-- A part that is there, or for which there is no frame, is not filled in. -/
lemma or_eq_self_iff {α : Type} {frames : List Frame} (part : Option α) (of : Frame → α) :
    part.or (frames.getLast?.map of) = part ↔ (frames ≠ [] → part ≠ none) := by
  cases part with
  | some a => simp
  | none => simp [List.getLast?_eq_none_iff]

/-- Filling in the missing positions gives a position to every error with a traceback. -/
lemma isPlaced_norm (error : ScriptError) : error.norm.IsPlaced :=
  fun h => ⟨or_ne_none _ _ h, or_ne_none _ _ h, or_ne_none _ _ h⟩

/-- There is nothing to fill in just when an error has a position or no traceback. -/
lemma norm_eq_self_iff : error.norm = error ↔ error.IsPlaced := by
  obtain ⟨message, excType, filename, line, column, frames⟩ := error
  unfold norm IsPlaced
  simp only [mk.injEq, true_and, and_true, or_eq_self_iff]
  rw [← imp_and, ← imp_and]

end ScriptError

/-! ## Results -/

namespace RunResult

variable {result : RunResult}

/-- A result in normal form. -/
structure IsNormal (result : RunResult) : Prop where
  /-- A failed result has no value. -/
  failed : result.error ≠ none → result.value = none
  /-- The value is not null. -/
  value : result.value ≠ some .null
  /-- The error has a position when it has a traceback. -/
  placed : ∀ error, result.error = some error → error.IsPlaced

/-- A result with a value is in normal form. -/
lemma isNormal_success (value : Json) (usage : Usage) : (success value usage).IsNormal where
  failed h := absurd rfl h
  value := by
    cases value <;> simp [success, Json.isNull]
  placed _ h := by cases h

/-- A result with an error is in normal form when the error is. -/
lemma isNormal_failure {error : ScriptError} (h : error.IsPlaced) (usage : Usage) :
    (failure error usage).IsNormal where
  failed _ := rfl
  value := nofun
  placed _ he := Option.some.inj he ▸ h

/-- A normal form is in normal form. -/
lemma isNormal_norm (result : RunResult) : result.norm.IsNormal := by
  unfold norm
  cases result.error with
  | none => exact isNormal_success _ _
  | some error => exact isNormal_failure error.isPlaced_norm _

/-- The normal form drops a value that is null or stands beside an error, fills in the positions of
the error, and leaves the usage alone. -/
lemma norm_eq (result : RunResult) :
    result.norm =
      { result with
        value := if result.error = none then result.value.filter (· ≠ .null) else none
        error := result.error.map ScriptError.norm } := by
  obtain ⟨value, error, usage⟩ := result
  cases error with
  | some error => rfl
  | none =>
    rcases value with _ | value
    · rfl
    · cases value <;> rfl

/-- The normal form leaves alone just the results in normal form. -/
theorem norm_eq_self_iff : result.norm = result ↔ result.IsNormal := by
  constructor
  · intro h
    rw [← h]
    exact isNormal_norm result
  · rintro ⟨hfailed, hvalue, hplaced⟩
    rw [norm_eq]
    obtain ⟨value, error, usage⟩ := result
    cases error with
    | some error =>
      have hnone : value = none := hfailed nofun
      have hnorm : error.norm = error := ScriptError.norm_eq_self_iff.mpr (hplaced error rfl)
      simp [hnone, hnorm]
    | none =>
      cases value with
      | none => rfl
      | some value => simpa using hvalue

end RunResult

/-! ## Progress -/

/-- Keyword arguments are absent when there are none. -/
def PendingCall.IsNormal (call : PendingCall) : Prop :=
  ∀ kwargs, call.kwargs = some kwargs → kwargs.isEmpty = false

/-- The normal form leaves alone just the calls in normal form. -/
lemma PendingCall.norm_eq_self_iff {call : PendingCall} : call.norm = call ↔ call.IsNormal := by
  obtain ⟨function, arguments, kwargs, callId, isMethod⟩ := call
  cases kwargs with
  | none => simp [norm, IsNormal]
  | some kwargs => simp [norm, IsNormal]

namespace Progress

/-- Progress in normal form. -/
def IsNormal : Progress → Prop
  | complete result => result.IsNormal
  | pending call => call.IsNormal
  | futures _ => True

/-- The normal form leaves alone just the progress in normal form. -/
theorem norm_eq_self_iff {progress : Progress} : progress.norm = progress ↔ progress.IsNormal := by
  cases progress with
  | complete result =>
    rw [IsNormal, ← RunResult.norm_eq_self_iff]
    exact Progress.complete.injEq _ _ ▸ Iff.rfl
  | pending call =>
    rw [IsNormal, ← PendingCall.norm_eq_self_iff]
    exact Progress.pending.injEq _ _ ▸ Iff.rfl
  | futures ids => exact ⟨fun _ => trivial, fun _ => rfl⟩

end Progress

namespace Record

/-! ## Reading what was written -/

/-- **Records lose nothing but the normal form.** Results and progress are read back from their
records in normal form, and global names as they are. The normal form drops a value that is null or
stands beside an error, fills in the positions that an error lacks from its last frame, and drops
keyword arguments when there are none. So a value is read back as it was just when it is in normal
form.

**Proof sketch.** The reading of each record is `runResult_toRecord`, `progress_toRecord` and
`globals_toRecord`. It gives the value back when the normal form leaves it alone. -/
theorem records_read_back (result : RunResult) (p : Progress) (names : Globals) :
    (runResult result.toRecord = .ok result.norm ∧ progress p.toRecord = .ok p.norm ∧
        globals names.toRecord = .ok names) ∧
      (result.norm =
          { result with
            value := if result.error = none then result.value.filter (· ≠ .null) else none
            error := result.error.map fun error =>
              { error with
                filename := error.filename.or (error.traceback.getLast?.map Frame.filename)
                line := error.line.or (error.traceback.getLast?.map Frame.line)
                column := error.column.or (error.traceback.getLast?.map Frame.column) } } ∧
        p.norm = match p with
          | .complete result => .complete result.norm
          | .pending call =>
            .pending { call with kwargs := call.kwargs.filter fun kwargs => !kwargs.isEmpty }
          | .futures ids => .futures ids) ∧
      (runResult result.toRecord = .ok result ↔ result.norm = result) ∧
      (progress p.toRecord = .ok p ↔ p.norm = p) ∧
      (result.norm = result ↔ result.IsNormal) ∧ (p.norm = p ↔ p.IsNormal) := by
  refine ⟨⟨runResult_toRecord result, progress_toRecord p, globals_toRecord names⟩,
    ⟨result.norm_eq, ?_⟩, ?_, ?_, RunResult.norm_eq_self_iff, Progress.norm_eq_self_iff⟩
  · cases p <;> rfl
  · rw [runResult_toRecord, Except.ok.injEq]
  · rw [progress_toRecord, Except.ok.injEq]

/-! ## Reading anything -/

/-- A reading after another one succeeds with what is read after that one has succeeded. -/
lemma bind_eq_ok {α β : Type} {x : Reading α} {f : α → Reading β} {b : β}
    (h : (x >>= f) = .ok b) : ∃ a, x = .ok a ∧ f a = .ok b := by
  cases x with
  | error fault => cases h
  | ok a => exact ⟨a, rfl, h⟩

/-- An error is read with its positions. -/
lemma error_isPlaced {fields : Fields} {e : ScriptError} (h : error fields = .ok e) :
    e.IsPlaced := by
  obtain ⟨frames, -, h⟩ := bind_eq_ok h
  cases h
  exact fun h => ⟨ScriptError.or_ne_none _ _ h, ScriptError.or_ne_none _ _ h,
    ScriptError.or_ne_none _ _ h⟩

/-- A result is read in normal form. -/
lemma resultOf_isNormal {fields : Fields} {result : RunResult}
    (h : resultOf fields = .ok result) : result.IsNormal := by
  obtain ⟨usage, -, h⟩ := bind_eq_ok h
  obtain ⟨ok, -, h⟩ := bind_eq_ok h
  cases ok with
  | true =>
    cases h
    exact RunResult.isNormal_success _ _
  | false =>
    obtain ⟨e, he, h⟩ := bind_eq_ok h
    cases h
    exact RunResult.isNormal_failure (error_isPlaced he) usage

/-- Keyword arguments are read only when there are any. -/
lemma kwargs_isEmpty {fields : Fields} {entries : Dict String Json}
    (h : kwargs fields = .ok (some entries)) : entries.isEmpty = false := by
  unfold kwargs at h
  split at h
  · cases h
  · cases h
  · cases h
  · rename_i entries' hne hlookup
    cases h
    simpa [Dict.isEmpty, Dict.ofEntries] using Entries.ofList_ne_nil hne
  · cases h

/-- A call is read in normal form. -/
lemma pendingCall_isNormal {fields : Fields} {call : PendingCall}
    (h : pendingCall fields = .ok call) : call.IsNormal := by
  obtain ⟨function, -, h⟩ := bind_eq_ok h
  obtain ⟨arguments, -, h⟩ := bind_eq_ok h
  obtain ⟨kwargs, hkwargs, h⟩ := bind_eq_ok h
  obtain ⟨callId, -, h⟩ := bind_eq_ok h
  cases h
  rintro entries rfl
  exact kwargs_isEmpty hkwargs

/-- A result is read in normal form from any record. -/
lemma runResult_isNormal {record : Json} {result : RunResult}
    (h : runResult record = .ok result) : result.IsNormal := by
  obtain ⟨fields, -, h⟩ := bind_eq_ok h
  exact resultOf_isNormal h

/-- Progress is read in normal form from any record.

**Proof sketch.** By cases on the state of the record: a completion is read as a result or as an
error, and a call with its keyword arguments. -/
lemma progress_isNormal {record : Json} {p : Progress} (h : progress record = .ok p) :
    p.IsNormal := by
  obtain ⟨fields, -, h⟩ := bind_eq_ok h
  obtain ⟨word, -, h⟩ := bind_eq_ok h
  split at h
  · obtain ⟨result, hresult, h⟩ := bind_eq_ok h
    cases h
    exact resultOf_isNormal hresult
  split at h
  · obtain ⟨usage, -, h⟩ := bind_eq_ok h
    obtain ⟨e, he, h⟩ := bind_eq_ok h
    cases h
    exact RunResult.isNormal_failure (error_isPlaced he) usage
  split at h
  · obtain ⟨call, hcall, h⟩ := bind_eq_ok h
    cases h
    exact pendingCall_isNormal hcall
  split at h
  · obtain ⟨ids, -, h⟩ := bind_eq_ok h
    cases h
    trivial
  · cases h

/-- **What is read is in normal form.** Whatever record a result or progress was read from, it is in
normal form, and it is read again from its own record.

**Proof sketch.** The readers make no other values, and the record of a value in normal form is read
back as the value. -/
theorem reading_isNormal (record : Json) :
    (∀ result, runResult record = .ok result →
        result.IsNormal ∧ runResult result.toRecord = .ok result) ∧
      ∀ p, progress record = .ok p → p.IsNormal ∧ progress p.toRecord = .ok p := by
  constructor
  · intro result h
    have hnormal : result.IsNormal := runResult_isNormal h
    rw [runResult_toRecord, RunResult.norm_eq_self_iff.mpr hnormal]
    exact ⟨hnormal, rfl⟩
  · intro p h
    have hnormal : p.IsNormal := progress_isNormal h
    rw [progress_toRecord, Progress.norm_eq_self_iff.mpr hnormal]
    exact ⟨hnormal, rfl⟩

/-- A record of an error that keeps its detail apart, without a position of its own and with a line
beyond the numbers for lines. -/
def tracedRecord : Json :=
  .obj [("error", .obj [("message", .str "boom"), ("traceback", .arr [.obj
    [("filename", .str "main.py"), ("start_line", .ofUInt64 5000000000)]])]),
    ("kwargs", .obj []), ("state", .str "error"), ("value", .null)]

/-- The error in that record. -/
def tracedError : ScriptError :=
  { message := "boom", excType := none, filename := some "main.py", line := some 4294967295
    column := some 0, traceback := [⟨"main.py", 4294967295, 0, "<module>", none⟩] }

/-- The record is read as a result and as progress, both with the position of the frame. -/
theorem reading_tracedRecord :
    (runResult tracedRecord = .ok (.failure tracedError .zero) ∧
        (RunResult.failure tracedError .zero).IsNormal ∧
        runResult (RunResult.failure tracedError .zero).toRecord =
          .ok (.failure tracedError .zero)) ∧
      progress tracedRecord = .ok (.complete (.failure tracedError .zero)) ∧
        (Progress.complete (.failure tracedError .zero)).IsNormal ∧
        progress (Progress.complete (.failure tracedError .zero)).toRecord =
          .ok (.complete (.failure tracedError .zero)) := by
  have hresult : runResult tracedRecord = .ok (.failure tracedError .zero) := by rfl
  have hprogress : progress tracedRecord = .ok (.complete (.failure tracedError .zero)) := by rfl
  exact ⟨⟨hresult, (reading_isNormal tracedRecord).1 _ hresult⟩,
    hprogress, (reading_isNormal tracedRecord).2 _ hprogress⟩

end Record

end ScriptHost
