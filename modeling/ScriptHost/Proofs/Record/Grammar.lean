import ScriptHost.Proofs.Record.RoundTrip

/-!
# The grammar of progress records

Which records are read as progress. A field that steers the execution may be missing or null, and
otherwise must have its type; a field that only describes may hold anything. The grammar is said
here without the readers: of an object by what stands under its keys, of an error by the traceback
in its detail.

Every reader of a part decides a condition on the record: it ends with a value when the condition
holds and finds the record malformed when it does not. So only a state that is no state of a record
is reported as unknown.

## Main definitions

* `ScriptHost.Record.AbsentOr` — a field is missing, null, or has a property.
* `ScriptHost.Record.HasDetail` — the detail of the error in a record is well formed.
* `ScriptHost.Record.IsProgress` — a record holds progress.
* `ScriptHost.Record.Decides` — a reading succeeds under a condition and finds a record malformed
  otherwise.

## Main results

* `ScriptHost.Record.progress_accepts_iff` — the records that are read as progress, and those whose
  state is reported as unknown.
* `ScriptHost.Record.negative_line_refused` — a frame whose line is negative is refused.
-/

namespace ScriptHost

/-! ## Kinds of values -/

namespace Json

/-- The value is a text. -/
def IsText (json : Json) : Prop :=
  ∃ text, json = .str text

/-- The value is a truth value. -/
def IsBool (json : Json) : Prop :=
  ∃ value, json = .bool value

/-- The value is an object. -/
def IsObject (json : Json) : Prop :=
  ∃ fields, json = .obj fields

/-- The value is an array. -/
def IsArray (json : Json) : Prop :=
  ∃ items, json = .arr items

/-- The value is an array whose items have a property. -/
def IsArrayOf (P : Json → Prop) (json : Json) : Prop :=
  ∃ items, json = .arr items ∧ ∀ item ∈ items, P item

/-- The value is an integer. -/
def IsInteger (json : Json) : Prop :=
  ∃ n fits, json = .num (.integer n fits)

/-- The value is an unsigned 64-bit integer. -/
def IsUInt64 (json : Json) : Prop :=
  ∃ n, json = .ofUInt64 n

/-- The value is an unsigned 32-bit integer. -/
def IsUInt32 (json : Json) : Prop :=
  ∃ n, json = .ofUInt32 n

end Json

/-- A number that is read as a natural number below a limit is the number of it. -/
lemma Number.eq_of_toNatBelow? {number : Number} {limit n : Nat}
    (h : number.toNatBelow? limit = some n) :
    n < limit ∧ ∀ hn : n < UInt64.size, number = .ofNat n hn := by
  cases number with
  | double value => cases h
  | integer value fits =>
    rw [Number.toNatBelow?, Option.ite_none_right_eq_some, Option.some.injEq] at h
    obtain ⟨⟨hnonneg, hlimit⟩, rfl⟩ := h
    refine ⟨by omega, fun hn => ?_⟩
    simp only [Number.ofNat, Number.integer.injEq]
    omega

/-- The value of an unsigned 64-bit integer is read as it, and no other value is. -/
lemma Json.asUInt64?_eq_some_iff {json : Json} {n : UInt64} :
    json.asUInt64? = some n ↔ json = .ofUInt64 n := by
  constructor
  · intro h
    cases json with
    | num number =>
      obtain ⟨m, hm, rfl⟩ := Option.map_eq_some_iff.mp h
      obtain ⟨hlimit, hnumber⟩ := Number.eq_of_toNatBelow? hm
      have hback : (UInt64.ofNat m).toNat = m := UInt64.toNat_ofNat_of_lt' hlimit
      rw [hnumber hlimit]
      simp only [Json.ofUInt64, Number.ofUInt64, hback]
    | _ => cases h
  · rintro rfl
    exact Json.asUInt64?_ofUInt64 n

/-- The value of an unsigned 32-bit integer is read as it, and no other value is. -/
lemma Json.asUInt32?_eq_some_iff {json : Json} {n : UInt32} :
    json.asUInt32? = some n ↔ json = .ofUInt32 n := by
  constructor
  · intro h
    cases json with
    | num number =>
      obtain ⟨m, hm, rfl⟩ := Option.map_eq_some_iff.mp h
      obtain ⟨hlimit, hnumber⟩ := Number.eq_of_toNatBelow? hm
      have hback : (UInt32.ofNat m).toNat = m := UInt32.toNat_ofNat_of_lt' hlimit
      rw [hnumber (Nat.lt_trans hlimit (by decide))]
      simp only [Json.ofUInt32, Number.ofUInt32, hback]
    | _ => cases h
  · rintro rfl
    exact Json.asUInt32?_ofUInt32 n

namespace Record

/-! ## The grammar -/

/-- What is found under a key is nothing, null, or a value with a property. -/
inductive AbsentOr (P : Json → Prop) : Option Json → Prop
  /-- There is nothing. -/
  | absent : AbsentOr P none
  /-- There is null. -/
  | null : AbsentOr P (some .null)
  /-- There is a value with the property. -/
  | present {value : Json} (has : P value) : AbsentOr P (some value)

/-- Of a value that is not null the property is asked. -/
lemma absentOr_some_iff {P : Json → Prop} {value : Json} (h : value ≠ .null) :
    AbsentOr P (some value) ↔ P value := by
  constructor
  · rintro (_ | _ | has)
    · exact absurd rfl h
    · exact has
  · exact .present

/-- An array is one whose items have a property, and neither missing nor null. -/
lemma absentOr_arr_iff {P : Json → Prop} {items : List Json} :
    AbsentOr (Json.IsArrayOf P) (some (.arr items)) ↔ ∀ item ∈ items, P item := by
  constructor
  · rintro (_ | _ | ⟨items, hitems, h⟩)
    cases hitems
    exact h
  · exact fun h => .present ⟨items, rfl, h⟩

/-- Where the detail of the error in a record stands. -/
inductive DetailOf (fields : Fields) : Fields → Prop
  /-- In the object under `error`. -/
  | nested {detail : Fields} (found : fields.lookup "error" = some (.obj detail)) :
    DetailOf fields detail
  /-- In the record itself when there is no such object. -/
  | flat (none : ∀ detail, fields.lookup "error" ≠ some (.obj detail)) : DetailOf fields fields

section Grammar

-- What the line of a frame may be.
variable (isLine : Json → Prop)

/-- A frame of a traceback: an object with a script name and a line. -/
def IsFrame (value : Json) : Prop :=
  ∃ fields, value = .obj fields ∧
    (∃ filename, fields.lookup "filename" = some filename ∧ filename.IsText) ∧
    ∃ line, fields.lookup "start_line" = some line ∧ isLine line

/-- The detail of the error in a record is well formed: its traceback, if any, consists of
frames. -/
def HasDetail (fields : Fields) : Prop :=
  ∃ detail, DetailOf fields detail ∧
    AbsentOr (Json.IsArrayOf (IsFrame isLine)) (detail.lookup "traceback")

/-- The fields of a completed execution. -/
structure IsCompletion (fields : Fields) : Prop where
  /-- The usage is an object. -/
  usage : AbsentOr Json.IsObject (fields.lookup "usage")
  /-- The mark of success is a truth value. -/
  mark : AbsentOr Json.IsBool (fields.lookup "ok")
  /-- Without the mark there is the detail of an error. -/
  detail : fields.lookup "ok" ≠ some (.bool true) → HasDetail isLine fields

/-- The fields of an execution that ended with an error. -/
structure IsRaised (fields : Fields) : Prop where
  /-- The usage is an object. -/
  usage : AbsentOr Json.IsObject (fields.lookup "usage")
  /-- There is the detail of an error. -/
  detail : HasDetail isLine fields

/-- The fields of an execution that waits for a call. -/
structure IsCall (fields : Fields) : Prop where
  /-- The name of the function is a text. -/
  function : AbsentOr Json.IsText (fields.lookup "function_name")
  /-- The arguments are an array. -/
  arguments : AbsentOr Json.IsArray (fields.lookup "arguments")
  /-- The keyword arguments are an object. -/
  kwargs : AbsentOr Json.IsObject (fields.lookup "kwargs")
  /-- The number of the call has 32 bits. -/
  callId : AbsentOr Json.IsUInt32 (fields.lookup "call_id")

/-- A record that holds progress, by the state of the execution. -/
inductive IsProgress : Json → Prop
  /-- The execution is complete. -/
  | complete {fields : Fields} (state : fields.lookup "state" = some (.str "complete"))
    (parts : IsCompletion isLine fields) : IsProgress (.obj fields)
  /-- The execution ended with an error. The mark of success is not looked at. -/
  | raised {fields : Fields} (state : fields.lookup "state" = some (.str "error"))
    (parts : IsRaised isLine fields) : IsProgress (.obj fields)
  /-- The execution waits for a call. -/
  | pending {fields : Fields} (state : fields.lookup "state" = some (.str "pending"))
    (parts : IsCall fields) : IsProgress (.obj fields)
  /-- The execution waits for calls that were put off; their numbers have 32 bits. -/
  | futures {fields : Fields} (state : fields.lookup "state" = some (.str "resolve_futures"))
    (ids : AbsentOr (Json.IsArrayOf Json.IsUInt32) (fields.lookup "pending_call_ids")) :
    IsProgress (.obj fields)

end Grammar

/-- The states of progress records. -/
def states : List String :=
  ["complete", "error", "pending", "resolve_futures"]

/-! ## Readings that decide a condition -/

/-- A reading decides a condition: it ends with a value when the condition holds, and it finds the
record malformed when it does not. -/
inductive Decides {α : Type} : Reading α → Prop → Prop
  /-- The condition holds. -/
  | ok {P : Prop} (a : α) (holds : P) : Decides (.ok a) P
  /-- The condition fails. -/
  | malformed {P : Prop} (fault : RecordFault) (fails : ¬ P) : Decides (.error (.malformed fault)) P

namespace Decides

variable {α β : Type} {x : Reading α} {P Q : Prop}

/-- A reading that decides a condition succeeds just when it holds. -/
lemma exists_eq_ok_iff (h : Decides x P) : (∃ a, x = .ok a) ↔ P := by
  cases h with
  | ok a holds => exact ⟨fun _ => holds, fun _ => ⟨a, rfl⟩⟩
  | malformed fault fails => exact ⟨nofun, fun holds => absurd holds fails⟩

/-- A reading that decides a condition never meets an unknown state. -/
lemma ne_unknownState (h : Decides x P) (word : String) : x ≠ .error (.unknownState word) := by
  cases h <;> exact nofun

/-- A reading decides every condition that says the same. -/
lemma congr (h : Decides x P) (hpq : P ↔ Q) : Decides x Q :=
  propext hpq ▸ h

/-- One reading after the other decides both conditions. The condition of the second one may depend
on what the first one read. -/
lemma bind {f : α → Reading β} (hx : Decides x P) (hf : ∀ a, x = .ok a → Decides (f a) Q) :
    Decides (x >>= f) (P ∧ Q) := by
  cases hx with
  | ok a holds => exact (hf a rfl).congr ⟨fun q => ⟨holds, q⟩, And.right⟩
  | malformed fault fails => exact .malformed fault fun h => fails h.1

/-- A reading decides the same condition when something is made of its value. -/
lemma map (h : Decides x P) (f : α → β) : Decides (x.map f) P := by
  cases h with
  | ok a holds => exact .ok (f a) holds
  | malformed fault fails => exact .malformed fault fails

/-- Reading all values of a list decides the condition of all of them. -/
lemma mapM {read : Json → Reading α} {P : Json → Prop} (h : ∀ value, Decides (read value) (P value))
    (values : List Json) : Decides (values.mapM read) (∀ value ∈ values, P value) := by
  induction values with
  | nil => exact .ok [] nofun
  | cons value rest ih =>
    have hboth : Decides ((value :: rest).mapM read)
        (P value ∧ (∀ value ∈ rest, P value) ∧ True) := by
      rw [List.mapM_cons]
      exact (h value).bind fun a _ => ih.bind fun as _ => .ok (a :: as) trivial
    exact hboth.congr (by simp only [and_true, List.forall_mem_cons])

end Decides

/-! ## Parts of errors -/

/-- The text under a key is missing just when there is no text. -/
lemma textAt?_isSome_iff {fields : Fields} {key : String} :
    (∃ text, textAt? fields key = some text) ↔
      ∃ value, fields.lookup key = some value ∧ value.IsText := by
  unfold textAt?
  rcases fields.lookup key with _ | value
  · exact ⟨nofun, nofun⟩
  · cases value <;> simp [Json.asString?, Json.IsText]

/-- The position under a key is missing just when there is no unsigned integer. -/
lemma positionAt?_isSome_iff {fields : Fields} {key : String} :
    (∃ position, positionAt? fields key = some position) ↔
      ∃ value, fields.lookup key = some value ∧ value.IsUInt64 := by
  unfold positionAt?
  rcases fields.lookup key with _ | value
  · exact ⟨nofun, nofun⟩
  · simp [Json.asUInt64?_eq_some_iff, Json.IsUInt64]

/-- Reading a frame decides whether the value is one. -/
lemma decides_frame (value : Json) : Decides (frame value) (IsFrame Json.IsUInt64 value) := by
  cases value with
  | obj fields =>
    have hparts : IsFrame Json.IsUInt64 (.obj fields) ↔
        (∃ filename, textAt? fields "filename" = some filename) ∧
          ∃ line, positionAt? fields "start_line" = some line := by
      rw [textAt?_isSome_iff, positionAt?_isSome_iff]
      simp [IsFrame]
    rw [frame]
    refine Decides.congr ?_ hparts.symm
    rcases textAt? fields "filename" with _ | filename
    · exact .malformed _ (by simp)
    · rcases positionAt? fields "start_line" with _ | line
      · exact .malformed _ (by simp)
      · exact .ok _ ⟨⟨filename, rfl⟩, line, rfl⟩
  | _ => exact .malformed _ (by simp [IsFrame])

/-- Reading a traceback decides whether it consists of frames. -/
lemma decides_traceback (detail : Fields) : Decides (traceback detail)
    (AbsentOr (Json.IsArrayOf (IsFrame Json.IsUInt64)) (detail.lookup "traceback")) := by
  unfold traceback
  rcases detail.lookup "traceback" with _ | value
  · exact .ok _ .absent
  · cases value with
    | null => exact .ok _ .null
    | arr values =>
      exact (Decides.mapM decides_frame values).congr absentOr_arr_iff.symm
    | _ => exact .malformed _ fun | .present ⟨_, h, _⟩ => nomatch h

/-- The detail that an error is read from is the one of the record. -/
lemma detailOf_iff {fields detail : Fields} :
    DetailOf fields detail ↔ detail = (errorDetail fields).1 := by
  constructor
  · intro h
    cases h with
    | nested found => rw [errorDetail, found]
    | flat none =>
      unfold errorDetail
      split
      · rename_i inner found
        exact absurd found (none inner)
      · rfl
      · rfl
  · rintro rfl
    unfold errorDetail
    split
    · rename_i inner found
      exact .nested found
    · rename_i message found
      refine .flat fun inner h => ?_
      cases found.symm.trans h
    · rename_i hobj _
      exact .flat hobj

/-- Reading an error decides whether its detail is well formed. -/
lemma decides_error (fields : Fields) :
    Decides (error fields) (HasDetail Json.IsUInt64 fields) := by
  have htraceback := (decides_traceback (errorDetail fields).1).bind (Q := True)
    (f := fun frames => .ok (errorOf (errorDetail fields).1 (errorDetail fields).2 frames))
    fun _ _ => .ok _ trivial
  refine htraceback.congr ?_
  simp only [HasDetail, detailOf_iff, exists_eq_left, and_true]

/-! ## Parts of results and calls -/

/-- Reading the mark of success decides whether it is a truth value. -/
lemma decides_okMark (fields : Fields) :
    Decides (okMark fields) (AbsentOr Json.IsBool (fields.lookup "ok")) := by
  unfold okMark
  rcases fields.lookup "ok" with _ | value
  · exact .ok _ .absent
  · cases value with
    | null => exact .ok _ .null
    | bool ok => exact .ok _ (.present ⟨ok, rfl⟩)
    | _ => exact .malformed _ fun | .present ⟨_, h⟩ => nomatch h

/-- The mark is set just when it is the truth. -/
lemma okMark_eq_true_iff {fields : Fields} {ok : Bool} (h : okMark fields = .ok ok) :
    ok = true ↔ fields.lookup "ok" = some (.bool true) := by
  unfold okMark at h
  split at h
  · rename_i mark hfound
    cases h
    simp [hfound]
  · rename_i hfound
    cases h
    simp [hfound]
  · rename_i hfound
    cases h
    simp [hfound]
  · cases h

/-- Reading the usage decides whether it is an object. -/
lemma decides_usage (fields : Fields) :
    Decides (usage fields) (AbsentOr Json.IsObject (fields.lookup "usage")) := by
  unfold usage
  rcases fields.lookup "usage" with _ | value
  · exact .ok _ .absent
  · cases value with
    | null => exact .ok _ .null
    | obj counters => exact .ok _ (.present ⟨counters, rfl⟩)
    | _ => exact .malformed _ fun | .present ⟨_, h⟩ => nomatch h

/-- Reading the name of a function decides whether it is a text. -/
lemma decides_functionName (fields : Fields) :
    Decides (functionName fields) (AbsentOr Json.IsText (fields.lookup "function_name")) := by
  unfold functionName
  rcases fields.lookup "function_name" with _ | value
  · exact .ok _ .absent
  · cases value with
    | null => exact .ok _ .null
    | str name => exact .ok _ (.present ⟨name, rfl⟩)
    | _ => exact .malformed _ fun | .present ⟨_, h⟩ => nomatch h

/-- Reading the arguments decides whether they are an array. -/
lemma decides_arguments (fields : Fields) : Decides (arguments fields)
    (AbsentOr Json.IsArray (fields.lookup "arguments")) := by
  unfold arguments
  rcases fields.lookup "arguments" with _ | value
  · exact .ok _ .absent
  · cases value with
    | null => exact .ok _ .null
    | arr items => exact .ok _ (.present ⟨items, rfl⟩)
    | _ => exact .malformed _ fun | .present ⟨_, h⟩ => nomatch h

/-- Reading the keyword arguments decides whether they are an object. -/
lemma decides_kwargs (fields : Fields) :
    Decides (kwargs fields) (AbsentOr Json.IsObject (fields.lookup "kwargs")) := by
  unfold kwargs
  rcases fields.lookup "kwargs" with _ | value
  · exact .ok _ .absent
  · cases value with
    | null => exact .ok _ .null
    | obj entries => cases entries <;> exact .ok _ (.present ⟨_, rfl⟩)
    | _ => exact .malformed _ fun | .present ⟨_, h⟩ => nomatch h

/-- The number of a call decides whether the value has 32 bits. -/
lemma decides_asUInt32 (value : Json) (fault : RecordFault) :
    Decides (match value.asUInt32? with
      | some id => .ok id
      | none => malformed fault) value.IsUInt32 := by
  have hread : (∃ id, value.asUInt32? = some id) ↔ value.IsUInt32 :=
    exists_congr fun _ => Json.asUInt32?_eq_some_iff
  refine Decides.congr ?_ hread
  rcases value.asUInt32? with _ | id
  · exact .malformed _ nofun
  · exact .ok id ⟨id, rfl⟩

/-- Reading the number of a call decides whether it has 32 bits. -/
lemma decides_callId (fields : Fields) :
    Decides (callId fields) (AbsentOr Json.IsUInt32 (fields.lookup "call_id")) := by
  unfold callId
  rcases fields.lookup "call_id" with _ | value
  · exact .ok _ .absent
  · by_cases hnull : value = .null
    · rw [hnull]
      exact .ok _ .null
    · refine Decides.congr ?_ (absentOr_some_iff hnull).symm
      simp only
      exact decides_asUInt32 value _

/-- Reading the numbers of calls decides whether all of them have 32 bits. -/
lemma decides_awaitedIds (fields : Fields) : Decides (awaitedIds fields)
    (AbsentOr (Json.IsArrayOf Json.IsUInt32) (fields.lookup "pending_call_ids")) := by
  unfold awaitedIds
  rcases fields.lookup "pending_call_ids" with _ | value
  · exact .ok _ .absent
  · cases value with
    | null => exact .ok _ .null
    | arr values =>
      have hids := Decides.mapM (fun value => decides_asUInt32 value (.callIdInvalid value)) values
      exact hids.congr absentOr_arr_iff.symm
    | _ => exact .malformed _ fun | .present ⟨_, h, _⟩ => nomatch h

/-! ## Records -/

/-- Reading a result decides whether the fields are those of a completed execution. -/
lemma decides_resultOf (fields : Fields) :
    Decides (resultOf fields) (IsCompletion Json.IsUInt64 fields) := by
  have hread : Decides (resultOf fields)
      (AbsentOr Json.IsObject (fields.lookup "usage") ∧
        AbsentOr Json.IsBool (fields.lookup "ok") ∧
        (fields.lookup "ok" ≠ some (.bool true) → HasDetail Json.IsUInt64 fields)) := by
    refine (decides_usage fields).bind fun used _ => (decides_okMark fields).bind fun ok hok => ?_
    cases ok with
    | true => exact .ok _ fun hne => absurd ((okMark_eq_true_iff hok).mp rfl) hne
    | false =>
      have hmark : fields.lookup "ok" ≠ some (.bool true) := fun hfound =>
        Bool.false_ne_true ((okMark_eq_true_iff hok).mpr hfound)
      exact ((decides_error fields).map fun e => RunResult.failure e used).congr
        ⟨fun h _ => h, fun h => h hmark⟩
  exact hread.congr ⟨fun ⟨husage, hmark, hdetail⟩ => ⟨husage, hmark, hdetail⟩,
    fun h => ⟨h.usage, h.mark, h.detail⟩⟩

/-- Reading a failed result decides whether the fields are those of an execution that ended with an
error. -/
lemma decides_raised (fields : Fields) :
    Decides (do
      let usage ← usage fields
      return Progress.complete (.failure (← error fields) usage))
      (IsRaised Json.IsUInt64 fields) := by
  have hread := (decides_usage fields).bind fun used _ =>
    (decides_error fields).map fun e => Progress.complete (.failure e used)
  exact hread.congr ⟨fun ⟨husage, hdetail⟩ => ⟨husage, hdetail⟩, fun h => ⟨h.usage, h.detail⟩⟩

/-- Reading a call decides whether the fields are those of an execution that waits for one. -/
lemma decides_pendingCall (fields : Fields) : Decides (pendingCall fields) (IsCall fields) := by
  have hread : Decides (pendingCall fields)
      (AbsentOr Json.IsText (fields.lookup "function_name") ∧
        AbsentOr Json.IsArray (fields.lookup "arguments") ∧
        AbsentOr Json.IsObject (fields.lookup "kwargs") ∧
        AbsentOr Json.IsUInt32 (fields.lookup "call_id") ∧ True) :=
    (decides_functionName fields).bind fun _ _ => (decides_arguments fields).bind fun _ _ =>
      (decides_kwargs fields).bind fun _ _ => (decides_callId fields).bind fun _ _ =>
        .ok _ trivial
  exact hread.congr ⟨fun ⟨hfunction, harguments, hkwargs, hid, _⟩ =>
    ⟨hfunction, harguments, hkwargs, hid⟩,
    fun h => ⟨h.function, h.arguments, h.kwargs, h.callId, trivial⟩⟩

/-- What the grammar asks of a record depends on its state. -/
lemma isProgress_iff {isLine : Json → Prop} {fields : Fields} {word : String}
    (hstate : fields.lookup "state" = some (.str word)) :
    IsProgress isLine (.obj fields) ↔
      word = "complete" ∧ IsCompletion isLine fields ∨
      word = "error" ∧ IsRaised isLine fields ∨
      word = "pending" ∧ IsCall fields ∨
      word = "resolve_futures" ∧
        AbsentOr (Json.IsArrayOf Json.IsUInt32) (fields.lookup "pending_call_ids") := by
  have hword {expected : String} (hfound : fields.lookup "state" = some (.str expected)) :
      word = expected := by
    rw [hstate, Option.some.injEq, Json.str.injEq] at hfound
    exact hfound
  constructor
  · intro h
    cases h with
    | complete found parts => exact .inl ⟨hword found, parts⟩
    | raised found parts => exact .inr (.inl ⟨hword found, parts⟩)
    | pending found parts => exact .inr (.inr (.inl ⟨hword found, parts⟩))
    | futures found ids => exact .inr (.inr (.inr ⟨hword found, ids⟩))
  · rintro (⟨rfl, parts⟩ | ⟨rfl, parts⟩ | ⟨rfl, parts⟩ | ⟨rfl, ids⟩)
    · exact .complete hstate parts
    · exact .raised hstate parts
    · exact .pending hstate parts
    · exact .futures hstate ids

/-- A record that holds progress is an object with a text as its state. -/
lemma IsProgress.exists_state {isLine : Json → Prop} {record : Json}
    (h : IsProgress isLine record) :
    ∃ fields word, record = .obj fields ∧ fields.lookup "state" = some (.str word) := by
  cases h with
  | complete state => exact ⟨_, _, rfl, state⟩
  | raised state => exact ⟨_, _, rfl, state⟩
  | pending state => exact ⟨_, _, rfl, state⟩
  | futures state => exact ⟨_, _, rfl, state⟩

/-- Reading a record in a known state decides whether it holds progress.

**Proof sketch.** The state selects one reader and one alternative of the grammar; each reader
decides the conditions of its alternative. -/
lemma decides_progress {fields : Fields} {word : String}
    (hstate : fields.lookup "state" = some (.str word)) (hword : word ∈ states) :
    Decides (progress (.obj fields)) (IsProgress Json.IsUInt64 (.obj fields)) := by
  rw [progress_of_state word hstate]
  simp only [states, List.mem_cons, List.not_mem_nil, or_false] at hword
  rcases hword with rfl | rfl | rfl | rfl
  · exact ((decides_resultOf fields).map Progress.complete).congr (by simp [isProgress_iff hstate])
  · exact (decides_raised fields).congr (by simp [isProgress_iff hstate])
  · exact ((decides_pendingCall fields).map Progress.pending).congr
      (by simp [isProgress_iff hstate])
  · exact ((decides_awaitedIds fields).map Progress.futures).congr
      (by simp [isProgress_iff hstate])

/-- A record that is no object with a text as its state is malformed. -/
lemma progress_of_no_state {record : Json}
    (h : ∀ fields word, record = .obj fields → fields.lookup "state" ≠ some (.str word)) :
    ∃ fault, progress record = .error (.malformed fault) := by
  cases record with
  | obj fields =>
    have hstate : ∃ fault, state fields = .error (.malformed fault) := by
      unfold state
      rcases hfound : fields.lookup "state" with _ | value
      · exact ⟨_, rfl⟩
      · cases value with
        | str word => exact absurd hfound (h fields word rfl)
        | _ => exact ⟨_, rfl⟩
    obtain ⟨fault, hstate⟩ := hstate
    refine ⟨fault, ?_⟩
    change (do
      let word ← state fields
      _ : Reading Progress) = _
    rw [hstate]
    rfl
  | _ => exact ⟨_, rfl⟩

/-- A record in an unknown state is reported as such. -/
lemma progress_of_unknown {fields : Fields} {word : String}
    (hstate : fields.lookup "state" = some (.str word)) (hword : word ∉ states) :
    progress (.obj fields) = .error (.unknownState word) := by
  simp only [states, List.mem_cons, List.not_mem_nil, or_false, not_or] at hword
  rw [progress_of_state word hstate, if_neg hword.1, if_neg hword.2.1, if_neg hword.2.2.1,
    if_neg hword.2.2.2]

/-- **The grammar of progress records.** A record is read as progress just when it is in the
grammar, the line of a frame being an unsigned 64-bit integer. Its state is reported as unknown just
when it is an object whose state is a text and none of the four states; whatever else is wrong with
a record is reported otherwise.

**Proof sketch.** A record without a state in words is malformed. In a known state the reading
decides the grammar, so it fails in no other way than as malformed; in an unknown state it reports
the state. -/
theorem progress_accepts_iff (record : Json) :
    ((∃ p, progress record = .ok p) ↔ IsProgress Json.IsUInt64 record) ∧
      ∀ word, progress record = .error (.unknownState word) ↔
        ∃ fields, record = .obj fields ∧ fields.lookup "state" = some (.str word) ∧
          word ∉ ["complete", "error", "pending", "resolve_futures"] := by
  by_cases h : ∃ fields word, record = .obj fields ∧ fields.lookup "state" = some (.str word)
  · obtain ⟨fields, word, rfl, hstate⟩ := h
    have hwhere (other : String) : (∃ fields', Json.obj fields = .obj fields' ∧
        fields'.lookup "state" = some (.str other) ∧ other ∉ states) ↔
        word = other ∧ word ∉ states := by
      simp only [Json.obj.injEq, exists_eq_left', hstate, Option.some.injEq, Json.str.injEq]
      exact and_congr_right fun heq => heq ▸ Iff.rfl
    by_cases hword : word ∈ states
    · have hdecides := decides_progress hstate hword
      refine ⟨hdecides.exists_eq_ok_iff, fun other => ?_⟩
      exact ⟨fun h => absurd h (hdecides.ne_unknownState other),
        fun h => absurd hword ((hwhere other).mp h).2⟩
    · have hunknown := progress_of_unknown hstate hword
      have hungrammatical : ¬ IsProgress Json.IsUInt64 (.obj fields) := by
        simp only [states, List.mem_cons, List.not_mem_nil, or_false, not_or] at hword
        simp [isProgress_iff hstate, hword]
      rw [hunknown]
      refine ⟨⟨nofun, fun h => absurd h hungrammatical⟩, fun other => ?_⟩
      rw [Except.error.injEq, ProtocolFault.unknownState.injEq]
      exact ⟨fun heq => (hwhere other).mpr ⟨heq, hword⟩, fun h => ((hwhere other).mp h).1⟩
  · have hno : ∀ fields word, record = .obj fields → fields.lookup "state" ≠ some (.str word) :=
      fun fields word hrecord hfound => h ⟨fields, word, hrecord, hfound⟩
    obtain ⟨fault, hfault⟩ := progress_of_no_state hno
    rw [hfault]
    refine ⟨⟨nofun, fun hprogress => absurd hprogress.exists_state h⟩, fun word => ⟨nofun, ?_⟩⟩
    rintro ⟨fields, hrecord, hfound, -⟩
    exact absurd hfound (hno fields word hrecord)

/-- A frame in a line below zero. -/
def belowFrame : Json :=
  .obj [("filename", .str "a.py"), ("start_line", .num (.integer (-1) ⟨by decide, by decide⟩))]

/-- The fields of an error that was raised in that frame. -/
def belowFields : Fields :=
  [("state", .str "error"), ("traceback", .arr [belowFrame])]

/-- The line of a frame must be unsigned: a record whose frame has an integer as its line, but a
negative one, is not read as progress, although it is in the grammar for which every integer is a
line. -/
theorem negative_line_refused :
    ¬ ((∃ p, progress (.obj belowFields) = .ok p) ↔
      IsProgress Json.IsInteger (.obj belowFields)) := by
  have hrefused : progress (.obj belowFields) = .error (.malformed .frameWithoutLine) := by rfl
  have hframe : IsFrame Json.IsInteger belowFrame :=
    ⟨_, rfl, ⟨_, rfl, "a.py", rfl⟩, _, rfl, -1, _, rfl⟩
  have hdetail : HasDetail Json.IsInteger belowFields := by
    refine ⟨belowFields, .flat fun _ => nofun, ?_⟩
    exact absentOr_arr_iff.mpr (List.forall_mem_singleton.mpr hframe)
  have hgrammar : IsProgress Json.IsInteger (.obj belowFields) :=
    .raised rfl ⟨.absent, hdetail⟩
  intro h
  obtain ⟨p, hp⟩ := h.mpr hgrammar
  cases hrefused.symm.trans hp

end Record

end ScriptHost
