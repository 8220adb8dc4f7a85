import ScriptHost.Proofs.Dict
import ScriptHost.Proofs.Record.Normal

/-!
# The two places for the detail of an error

The record of a failed execution has its error in one of two shapes: an object under `error` with
the message and the detail, or the message under `error` and the detail beside it. Both are read
alike, whatever the values of the detail are: what an error is read from is its message and what
stands under the five keys of the detail, and each of its positions is chosen on its own, from the
detail first and then from the innermost frame.

## Main definitions

* `ScriptHost.Record.nestedRecord`, `ScriptHost.Record.flatRecord` — the two shapes.
* `ScriptHost.Record.failed` — what both are read as.
* `ScriptHost.Record.ownText`, `ScriptHost.Record.ownPosition` — the part of an error that its
  detail gives itself.
* `ScriptHost.Record.IsPlacedBy` — an error has its positions from its detail or its last frame.

## Main results

* `ScriptHost.Record.nested_eq_flat` — both shapes are read alike, and how an error is placed.
-/

namespace ScriptHost.Record

/-! ## The two shapes -/

/-- The keys of the detail of an error. -/
def detailKeys : List String :=
  ["exc_type", "filename", "line_number", "column_number", "traceback"]

section Shapes

variable (state : Option String) (used : Json) (message : String) (detail : Dict String Json)

/-- The fields that every record of a failed execution has, in a state if it is one of progress. -/
def failedFields (error : Json) : Fields :=
  ("ok", .bool false) :: ("usage", used) :: ("error", error) ::
    (state.map fun word => ("state", Json.str word)).toList

/-- The fields of an object under `error`. -/
def nestedDetail : Fields :=
  ("message", .str message) :: detail.entries

/-- The record with the detail in an object under `error`. -/
def nestedRecord : Json :=
  .ofFields (failedFields state used (.ofFields (nestedDetail message detail)))

/-- The record with the message under `error` and the detail beside it. -/
def flatRecord : Json :=
  .ofFields (failedFields state used (.str message) ++ detail.entries)

/-- What both records are read as: the usage, and the error that the message and the detail make. -/
def failed : Reading RunResult := do
  let used ← usage [("usage", used)]
  let frames ← traceback detail.entries
  return .failure (errorOf detail.entries (some message) frames) used

end Shapes

variable {state : Option String} {used error : Json} {message : String}
  {detail : Dict String Json}

/-! ## What stands under a key -/

/-- Behind fields with other keys the detail is found under its keys. -/
lemma lookup_before_detail (head : Fields) (hhead : (head.map Prod.fst).Nodup)
    (hapart : ∀ key ∈ detail.keys, key ∉ head.map Prod.fst) (key : String) :
    (Entries.ofList (head ++ detail.entries)).lookup key =
      (head.lookup key).or (detail.entries.lookup key) := by
  have hnodup : ((head ++ detail.entries).map Prod.fst).Nodup := by
    rw [List.map_append, List.nodup_append]
    refine ⟨hhead, detail.ordered.nodup_keys, ?_⟩
    rintro key hkey _ hdetail rfl
    exact hapart key hdetail hkey
  rw [Entries.lookup_ofList_of_nodup hnodup, List.lookup_append]

variable (state used error) in
/-- The fields of a failed execution have different keys. -/
lemma nodup_failedFields : ((failedFields state used error).map Prod.fst).Nodup := by
  cases state <;> simp [failedFields]

/-- No key of the detail is one of the other fields of a failed execution. -/
lemma failedFields_apart {key : String} (h : key ∈ detailKeys) :
    key ∉ (failedFields state used error).map Prod.fst := by
  simp only [detailKeys, List.mem_cons, List.not_mem_nil, or_false] at h
  rcases h with rfl | rfl | rfl | rfl | rfl <;> cases state <;> simp [failedFields]

/-- No key of the detail is that of the message. -/
lemma message_apart {key : String} (h : key ∈ detailKeys) :
    key ∉ [("message", Json.str message)].map Prod.fst := by
  simp only [detailKeys, List.mem_cons, List.not_mem_nil, or_false] at h
  rcases h with rfl | rfl | rfl | rfl | rfl <;> simp

/-- Nothing is found under a key that no field has. -/
lemma lookup_of_not_mem {fields : Fields} {key : String} (h : key ∉ fields.map Prod.fst) :
    fields.lookup key = none := by
  rw [List.lookup_eq_none_iff]
  intro field hfield
  rw [bne_iff_ne]
  rintro rfl
  exact h (List.mem_map_of_mem hfield)

/-! ## Reading the detail -/

/-- What an error is read from: its message and what stands under the keys of its detail. -/
lemma error_eq {fields : Fields} (hmessage : (errorDetail fields).2 = some message)
    (hdetail : ∀ key ∈ detailKeys,
      (errorDetail fields).1.lookup key = detail.entries.lookup key) :
    Record.error fields = do
      let frames ← traceback detail.entries
      return errorOf detail.entries (some message) frames := by
  have htraceback : traceback (errorDetail fields).1 = traceback detail.entries := by
    rw [traceback, traceback, hdetail "traceback" (by decide)]
  have herror (frames : List Frame) : errorOf (errorDetail fields).1 (errorDetail fields).2 frames =
      errorOf detail.entries (some message) frames := by
    unfold errorOf textAt? positionAt?
    rw [hmessage, hdetail "exc_type" (by decide), hdetail "filename" (by decide),
      hdetail "line_number" (by decide), hdetail "column_number" (by decide)]
  rw [Record.error]
  simp only [htraceback, herror]

/-- A record without the mark of success is read as the error in it. -/
lemma resultOf_eq_failed {fields : Fields} (hmark : fields.lookup "ok" = some (.bool false))
    (hused : fields.lookup "usage" = some used)
    (hmessage : (errorDetail fields).2 = some message)
    (hdetail : ∀ key ∈ detailKeys,
      (errorDetail fields).1.lookup key = detail.entries.lookup key) :
    resultOf fields = failed used message detail := by
  have hok : okMark fields = .ok false := by
    rw [okMark, hmark]
  have husage : usage fields = usage [("usage", used)] := by
    have halone : List.lookup "usage" [("usage", used)] = some used := rfl
    rw [usage, usage, hused, halone]
  rw [resultOf, husage, hok, error_eq hmessage hdetail, failed]
  cases usage [("usage", used)] with
  | error fault => rfl
  | ok used => cases traceback detail.entries <;> rfl

section Read

variable (hkeys : ∀ key ∈ detail.keys, key ∈ detailKeys)
include hkeys

variable (state used message) in
/-- What is found in the record with the detail beside the message. -/
lemma lookup_flat (key : String) :
    (Entries.ofList (failedFields state used (.str message) ++ detail.entries)).lookup key =
      ((failedFields state used (.str message)).lookup key).or (detail.entries.lookup key) :=
  lookup_before_detail _ (nodup_failedFields _ _ _)
    (fun key hkey => failedFields_apart (hkeys key hkey)) key

variable (state used message) in
/-- The record with the detail beside the message is read from its usage, message and detail. -/
lemma resultOf_flat :
    resultOf (Entries.ofList (failedFields state used (.str message) ++ detail.entries)) =
      failed used message detail := by
  have hlookup := lookup_flat state used message hkeys
  have herror : errorDetail
      (Entries.ofList (failedFields state used (.str message) ++ detail.entries)) =
      (Entries.ofList (failedFields state used (.str message) ++ detail.entries),
        some message) := by
    have hfound := hlookup "error"
    rw [errorDetail, hfound]
    rfl
  refine resultOf_eq_failed (hlookup _) (hlookup _) (congrArg Prod.snd herror) fun key hkey => ?_
  rw [herror, hlookup, lookup_of_not_mem (failedFields_apart hkey), Option.none_or]

variable (state used message) in
/-- The record with the detail under `error` is read from the same. -/
lemma resultOf_nested :
    resultOf (Entries.ofList (failedFields state used (.ofFields (nestedDetail message detail)))) =
      failed used message detail := by
  have hlookup := Entries.lookup_ofList_of_nodup
    (nodup_failedFields state used (.ofFields (nestedDetail message detail)))
  have hinner : ∀ key, (Entries.ofList (nestedDetail message detail)).lookup key =
      (List.lookup key [("message", Json.str message)]).or (detail.entries.lookup key) :=
    lookup_before_detail [("message", .str message)] (by simp)
      fun key hkey => message_apart (hkeys key hkey)
  have hmessage : textAt? (Entries.ofList (nestedDetail message detail)) "message" =
      some message := by
    rw [textAt?, hinner]
    rfl
  have herror : errorDetail
      (Entries.ofList (failedFields state used (.ofFields (nestedDetail message detail)))) =
      (Entries.ofList (nestedDetail message detail), some message) := by
    have hfound := hlookup "error"
    rw [errorDetail, hfound]
    exact congrArg (Prod.mk _) hmessage
  refine resultOf_eq_failed (hlookup _) (hlookup _) (congrArg Prod.snd herror) fun key hkey => ?_
  rw [herror, hinner, lookup_of_not_mem (message_apart hkey), Option.none_or]

end Read

/-! ## The position of an error -/

/-- The text that the detail of an error gives under a key. -/
def ownText (detail : Dict String Json) (key : String) : Option String :=
  match detail.get? key with
  | some (.str text) => some text
  | _ => none

/-- The position that the detail of an error gives under a key: an integer that is not negative, cut
down to the largest number with 32 bits. -/
def ownPosition (detail : Dict String Json) (key : String) : Option Nat :=
  match detail.get? key with
  | some (.num (.integer n _)) => if 0 ≤ n then some (min n.toNat 4294967295) else none
  | _ => none

/-- An error has each part of its position from its detail when that has one of the right type, and
otherwise from the last frame of its traceback, if there is one. -/
structure IsPlacedBy (detail : Dict String Json) (e : ScriptError) : Prop where
  /-- The script. -/
  filename : e.filename =
    (ownText detail "filename").or (e.traceback.getLast?.map Frame.filename)
  /-- The line. -/
  line : e.line.map UInt32.toNat =
    (ownPosition detail "line_number").or (e.traceback.getLast?.map (·.line.toNat))
  /-- The column. -/
  column : e.column.map UInt32.toNat =
    (ownPosition detail "column_number").or (e.traceback.getLast?.map (·.column.toNat))

/-- A text is read from the detail when it gives one. -/
lemma textAt?_eq_ownText (detail : Dict String Json) (key : String) :
    textAt? detail.entries key = ownText detail key := by
  unfold textAt? ownText Dict.get?
  rcases detail.entries.lookup key with _ | value
  · rfl
  · cases value <;> rfl

/-- A number is cut down to the largest one with 32 bits. -/
lemma toNat_saturate (n : UInt64) : (saturate n).toNat = min n.toNat 4294967295 := by
  unfold saturate
  by_cases h : n.toNat < UInt32.size
  · rw [if_pos h, UInt32.toNat_ofNat_of_lt' h]
    unfold UInt32.size at h
    omega
  · rw [if_neg h, UInt32.toNat_ofNat_of_lt' (by decide)]
    unfold UInt32.size at h ⊢
    omega

/-- A position is read from the detail when it gives one. -/
lemma positionAt?_eq_ownPosition (detail : Dict String Json) (key : String) :
    (positionAt? detail.entries key).map UInt32.toNat = ownPosition detail key := by
  unfold positionAt? ownPosition Dict.get?
  rcases detail.entries.lookup key with _ | value
  · rfl
  · cases value with
    | num number =>
      cases number with
      | double value => rfl
      | integer n fits =>
        have hbound : n < 18446744073709551616 := fits.2
        by_cases hn : 0 ≤ n
        · have hlt : n.toNat < UInt64.size := by
            unfold UInt64.size
            omega
          simp [Json.asUInt64?, Number.toUInt64?, Number.toNatBelow?, hn, hbound, toNat_saturate,
            Nat.mod_eq_of_lt hlt]
        · simp [Json.asUInt64?, Number.toUInt64?, Number.toNatBelow?, hn]
    | _ => rfl

/-- An error is placed by the detail that it is read from. -/
lemma isPlacedBy_errorOf (detail : Dict String Json) (message : Option String)
    (frames : List Frame) : IsPlacedBy detail (errorOf detail.entries message frames) where
  filename := by
    rw [← textAt?_eq_ownText]
    rfl
  line := by
    rw [← positionAt?_eq_ownPosition, errorOf, Option.map_or, Option.map_map]
    rfl
  column := by
    rw [← positionAt?_eq_ownPosition, errorOf, Option.map_or, Option.map_map]
    rfl

/-- A failed execution is read with the message of its error, which is placed by its detail. -/
lemma failed_eq_ok {result : RunResult} (h : failed used message detail = .ok result) :
    ∃ e, result.error = some e ∧ e.message = message ∧
      traceback detail.entries = .ok e.traceback ∧ IsPlacedBy detail e := by
  obtain ⟨used, -, h⟩ := bind_eq_ok h
  obtain ⟨frames, hframes, h⟩ := bind_eq_ok h
  cases h
  exact ⟨_, rfl, rfl, hframes, isPlacedBy_errorOf detail (some message) frames⟩

/-- Progress in a state of failure is read as the result is. -/
lemma progress_of_failed {fields : Fields} {word : String} (hword : word ∈ ["error", "complete"])
    (hstate : fields.lookup "state" = some (.str word))
    (hmark : fields.lookup "ok" = some (.bool false)) :
    progress (.obj fields) = (resultOf fields).map .complete := by
  have hok : okMark fields = .ok false := by
    rw [okMark, hmark]
  rw [progress_of_state word hstate]
  simp only [List.mem_cons, List.not_mem_nil, or_false] at hword
  rcases hword with rfl | rfl
  · rw [if_neg (by decide), if_pos rfl, resultOf, hok]
    cases usage fields with
    | error fault => rfl
    | ok used => cases Record.error fields <;> rfl
  · rw [if_pos rfl]

/-- **Both shapes of an error are read alike.** Let the detail of an error have no other keys than
the five, with any values. Then the record with the message and the detail in an object under
`error` and the record with the message under `error` and the detail beside it are read alike, as a
result and in either state as progress, to equal values or to equal faults. A result has the message
and an error that is placed by the detail: each part of the position, on its own, is that of the
detail if it has the right type, with positions cut down to 32 bits, and otherwise that of the last
frame.

**Proof sketch.** No key of the detail is that of another field, so the detail is found under its
keys in either shape. An error depends on its message and on what is found under these keys, so both
readings are `failed`; the mark of success is `false`, so both states read it. -/
theorem nested_eq_flat (used : Json) (message : String) (detail : Dict String Json)
    (hkeys : ∀ key ∈ detail.keys,
      key ∈ ["exc_type", "filename", "line_number", "column_number", "traceback"]) :
    runResult (nestedRecord none used message detail) =
        runResult (flatRecord none used message detail) ∧
      (∀ word ∈ ["error", "complete"],
        progress (nestedRecord (some word) used message detail) =
            progress (flatRecord (some word) used message detail) ∧
          progress (flatRecord (some word) used message detail) =
            (runResult (flatRecord none used message detail)).map .complete) ∧
      ∀ result, runResult (flatRecord none used message detail) = .ok result →
        ∃ e, result.error = some e ∧ e.message = message ∧
          traceback detail.entries = .ok e.traceback ∧ IsPlacedBy detail e := by
  have hnested (state : Option String) := resultOf_nested state used message hkeys
  have hflat (state : Option String) := resultOf_flat state used message hkeys
  refine ⟨(hnested none).trans (hflat none).symm, fun word hword => ?_, fun result h => ?_⟩
  · have hlookup := lookup_flat (some word) used message hkeys
    have hlookup' := Entries.lookup_ofList_of_nodup
      (nodup_failedFields (some word) used (.ofFields (nestedDetail message detail)))
    have hread : progress (flatRecord (some word) used message detail) =
        (failed used message detail).map .complete := by
      rw [← hflat (some word)]
      exact progress_of_failed hword (hlookup _) (hlookup _)
    have hread' : progress (nestedRecord (some word) used message detail) =
        (failed used message detail).map .complete := by
      rw [← hnested (some word)]
      exact progress_of_failed hword (hlookup' _) (hlookup' _)
    exact ⟨hread'.trans hread.symm, hread.trans (congrArg _ (hflat none).symm)⟩
  · exact failed_eq_ok ((hflat none).symm.trans h)

/-- The detail of an error with a script name that is no text, a line beyond the numbers with 32
bits, no column, and two frames. -/
def twoFrameDetail : Dict String Json :=
  .ofEntries [("filename", .null), ("line_number", .ofUInt64 5000000000),
    ("traceback", .arr [.obj [("filename", .str "main.py"), ("start_line", .ofUInt32 1)],
      .obj [("filename", .str "lib.py"), ("start_column", .ofUInt32 3),
        ("start_line", .ofUInt32 7)]])]

/-- The error that is read from it. -/
def twoFrameError : ScriptError :=
  { message := "boom", excType := none, filename := some "lib.py", line := some 4294967295
    column := some 3
    traceback := [⟨"main.py", 1, 0, "<module>", none⟩, ⟨"lib.py", 7, 3, "<module>", none⟩] }

/-- Both shapes of the error with two frames are read alike: with the line of the detail, and with
the script and the column of the last frame. -/
theorem nested_eq_flat_twoFrameDetail :
    (∀ key ∈ twoFrameDetail.keys,
        key ∈ ["exc_type", "filename", "line_number", "column_number", "traceback"]) ∧
      runResult (nestedRecord none .null "boom" twoFrameDetail) =
        .ok (.failure twoFrameError .zero) ∧
      progress (nestedRecord (some "error") .null "boom" twoFrameDetail) =
        .ok (.complete (.failure twoFrameError .zero)) ∧
      IsPlacedBy twoFrameDetail twoFrameError := by
  have hkeys : ∀ key ∈ twoFrameDetail.keys,
      key ∈ ["exc_type", "filename", "line_number", "column_number", "traceback"] := by decide
  have hflat : runResult (flatRecord none .null "boom" twoFrameDetail) =
      .ok (.failure twoFrameError .zero) := by rfl
  obtain ⟨hresult, hprogress, hplaced⟩ := nested_eq_flat .null "boom" twoFrameDetail hkeys
  obtain ⟨e, he, -, -, hplaced⟩ := hplaced _ hflat
  cases he
  obtain ⟨hnested, hmapped⟩ := hprogress "error" (by decide)
  refine ⟨hkeys, hresult.trans hflat, ?_, hplaced⟩
  rw [hnested, hmapped, hflat]
  rfl

end ScriptHost.Record
