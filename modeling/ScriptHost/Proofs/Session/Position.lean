import Mathlib.Data.List.Forall2
import ScriptHost.Proofs.Session.Capture
import ScriptHost.Proofs.Session.Preamble
import ScriptHost.Scripted.Backend

/-!
# The positions of errors

An engine counts the lines of the source that it is given, in which the script stands behind the
assignments of the kept variables. A session moves the lines of an error back, so that the lines of
the script are counted from its first one. The number of lines it moves them by is the number of the
lines in front of the script, which 32 bits hold unless there are more of them than an error can
have lines, and all else in the error is what the engine reported.

The lines of all frames are moved back, also those of frames that belong to another script, which no
assignments stand in front of. Such a frame keeps its line just when the session has put nothing in
front of the script or the line is none behind the assignments.

## Main definitions

* `ScriptHost.Session.linesInFront` — the number of lines in front of a script.
* `ScriptHost.MovedLine`, `ScriptHost.MovedFrame`, `ScriptHost.MovedError` — a line, a frame and an
  error of a source, counted from a later line.
* `ScriptHost.Session.Raises` — calls in which the backend reports an error that a script raised.
* `ScriptHost.Session.PositionLaw` — how a run reports errors.
* `ScriptHost.ForeignKept` — the frames of other scripts keep their lines.

## Main results

* `ScriptHost.ScriptError.shifted_moved` — moving an error back counts its lines from a later one.
* `ScriptHost.Session.toNat_preambleLines` — the lines in front of a script are counted right.
* `ScriptHost.Session.position_law` — every run of every session obeys the law.
* `ScriptHost.Session.foreign_kept_iff` — when the frames of other scripts keep their lines.
* `ScriptHost.Session.foreign_frame_moved` — a frame of another script that is moved.
-/

namespace ScriptHost

/-! ## Moved positions -/

/-- Line `moved` is `line` counted from the line behind the first `count` ones; the first ones keep
their numbers. -/
structure MovedLine (count : Nat) (line moved : UInt32) : Prop where
  /-- A line behind the first ones is counted from there. -/
  behind : ∀ k, 1 ≤ k → line.toNat = count + k → moved.toNat = k
  /-- The first lines keep their numbers. -/
  before : line.toNat ≤ count → moved = line
  /-- No line becomes line zero. -/
  zero_iff : moved = 0 ↔ line = 0
  /-- No line is moved forward. -/
  le : moved ≤ line

/-- A frame with its line moved and all else as it is. -/
structure MovedFrame (count : Nat) (frame moved : Frame) : Prop where
  /-- The line is moved. -/
  line : MovedLine count frame.line moved.line
  /-- All else is as it is. -/
  rest : moved = { frame with line := moved.line }

/-- An error with its lines moved and all else as it is. -/
structure MovedError (count : Nat) (error moved : ScriptError) : Prop where
  /-- The line of the error is moved, if there is one. -/
  line : Option.Rel (MovedLine count) error.line moved.line
  /-- The frames are moved one by one. -/
  traceback : List.Forall₂ (MovedFrame count) error.traceback moved.traceback
  /-- All else is as it is. -/
  rest : moved = { error with line := moved.line, traceback := moved.traceback }

/-- A line that is moved back is behind the first ones, and the difference is a line. -/
lemma toNat_shiftLine (count line : UInt32) : (shiftLine count line).toNat =
    if count.toNat < line.toNat then line.toNat - count.toNat else line.toNat := by
  unfold shiftLine
  by_cases hbehind : count < line
  · rw [if_pos hbehind, if_pos (UInt32.lt_iff_toNat_lt.mp hbehind)]
    exact UInt32.toNat_sub_of_le _ _ (UInt32.le_of_lt hbehind)
  · rw [if_neg hbehind, if_neg fun hlt => hbehind (UInt32.lt_iff_toNat_lt.mpr hlt)]

/-- Moving a line back counts it from a later one. -/
lemma shiftLine_moved (count line : UInt32) :
    MovedLine count.toNat line (shiftLine count line) := by
  have hline := toNat_shiftLine count line
  refine ⟨fun k hk hbehind => ?_, fun hbefore => ?_, ?_, ?_⟩
  · rw [hline, if_pos (by omega)]
    omega
  · rw [← UInt32.toNat_inj, hline, if_neg (Nat.not_lt_of_le hbefore)]
  · rw [← UInt32.toNat_inj, ← UInt32.toNat_inj, hline]
    split
    · simp only [UInt32.toNat_zero]
      omega
    · rfl
  · rw [UInt32.le_iff_toNat_le, hline]
    split <;> omega

/-- A line keeps its number just when nothing stands in front or it is one of the first lines. -/
lemma shiftLine_eq_iff (count line : UInt32) :
    shiftLine count line = line ↔ count = 0 ∨ line ≤ count := by
  rw [← UInt32.toNat_inj, toNat_shiftLine, ← UInt32.toNat_inj, UInt32.toNat_zero,
    UInt32.le_iff_toNat_le]
  split <;> omega

/-- Moving an error back counts its lines from a later one. -/
lemma ScriptError.shifted_moved (count : UInt32) (error : ScriptError) :
    MovedError count.toNat error (error.shifted count) where
  line := by
    cases h : error.line with
    | none => simp [shifted, h]
    | some line => simp [shifted, h, Option.Rel.some (shiftLine_moved count line)]
  traceback := by
    refine List.forall₂_map_right_iff.mpr (List.forall₂_same.mpr fun frame _ => ?_)
    exact ⟨shiftLine_moved count frame.line, rfl⟩
  rest := rfl

/-! ## Frames of other scripts -/

/-- The frames that belong to another script than the one of the name keep their lines. -/
def ForeignKept (name : String) (error moved : ScriptError) : Prop :=
  List.Forall₂ (fun frame other => frame.filename ≠ name → other.line = frame.line)
    error.traceback moved.traceback

/-- Moving an error back keeps the lines of other scripts just when nothing stands in front or they
are none behind the first lines. -/
lemma ScriptError.shifted_foreignKept_iff (count : UInt32) (name : String) (error : ScriptError) :
    ForeignKept name error (error.shifted count) ↔
      count = 0 ∨ ∀ frame ∈ error.traceback, frame.filename ≠ name → frame.line ≤ count := by
  have hkept : ForeignKept name error (error.shifted count) ↔
      ∀ frame ∈ error.traceback, frame.filename ≠ name →
        shiftLine count frame.line = frame.line :=
    List.forall₂_map_right_iff.trans List.forall₂_same
  simp only [hkept, shiftLine_eq_iff]
  by_cases hcount : count = 0
  · simp [hcount]
  · simp [hcount]

namespace Session

open Backend (Exchange)
open Context (SetUp ask exchange valueOf)

variable {ω : Type}

/-! ## The lines in front of a script -/

/-- The number of lines in front of a script. -/
def linesInFront (kept : Dict String Json) : Nat :=
  (sourceLines (preamble kept).toList).length

/-- The lines in front of a script are those of the assignments. -/
lemma sourceLines_preamble_alone (kept : Dict String Json) :
    sourceLines (preamble kept).toList = statements kept := by
  have hlines := sourceLines_preamble kept ""
  rw [String.append_empty] at hlines
  rw [hlines]
  exact List.append_nil _

/-- The lines in front of a script are counted right, when 32 bits hold their number. -/
lemma toNat_preambleLines {kept : Dict String Json} (h : linesInFront kept < UInt32.size) :
    (preambleLines kept).toNat = linesInFront kept := by
  rw [linesInFront, sourceLines_preamble_alone] at h ⊢
  exact (preambleLaw kept).count h

/-- The lines of a script stand behind those in front of it. -/
lemma getElem?_sourceLines (kept : Dict String Json) (code : String) (k : Nat) :
    (sourceLines (preamble kept ++ code).toList)[linesInFront kept + k]? =
      (sourceLines code.toList)[k]? := by
  rw [sourceLines_preamble, linesInFront, sourceLines_preamble_alone,
    List.getElem?_append_right (Nat.le_add_right _ _), Nat.add_sub_cancel_left]

/-! ## Errors that scripts raise -/

/-- In these calls the backend is asked to run a script and answers with a result that has an
error. -/
def Raises (calls : List Exchange) (script : Script (Option String)) (result : RunResult)
    (error : ScriptError) : Prop :=
  ∃ ran, ⟨.run script, .ok ran⟩ ∈ calls ∧ valueOf Record.runResult ran = .ok result ∧
    result.error = some error

/-- Getting a backend ready runs no script. -/
lemma not_raises_of_setUp {backend : Backend ω} {c d : Context ω}
    {outcome : Except Failure Unit} {calls : List Exchange}
    (s : SetUp backend c outcome calls d) (script : Script (Option String)) (result : RunResult)
    (error : ScriptError) : ¬ Raises calls script result error := by
  rintro ⟨ran, hmem, -⟩
  cases s.call_eq hmem

/-- Of the calls that get a backend ready, run a script and report global names, the one that runs
the script reports the error. -/
lemma Raises.ran {backend : Backend ω} {c d : Context ω} {outcome : Except Failure Unit}
    {calls more : List Exchange} (s : SetUp backend c outcome calls d)
    (hmore : ∀ y ∈ more, y.call = .globals) {script sent : Script (Option String)}
    {result : RunResult} {error : ScriptError}
    (h : Raises (calls ++ exchange backend (.run sent) d :: more) script result error) :
    script = sent ∧ result.error = some error ∧
      (ask backend (.run sent) d).1.bind (valueOf Record.runResult) = .ok result := by
  obtain ⟨ran, hmem, hread, herror⟩ := h
  rcases List.mem_append.mp hmem with hmem | hmem
  · cases s.call_eq hmem
  · rcases List.mem_cons.mp hmem with heq | hmem
    · simp only [exchange, Exchange.mk.injEq, Backend.Call.run.injEq] at heq
      obtain ⟨rfl, hanswer⟩ := heq
      rw [← eq_of_heq hanswer]
      exact ⟨rfl, herror, hread⟩
    · cases hmore _ hmem

/-- A script that ended without an error raised none. -/
lemma not_raises_of_ended {backend : Backend ω} {c d : Context ω} {outcome : Except Failure Unit}
    {calls more : List Exchange} (s : SetUp backend c outcome calls d)
    (hmore : ∀ y ∈ more, y.call = .globals) {sent : Script (Option String)} {ended : RunResult}
    (hran : (ask backend (.run sent) d).1.bind (valueOf Record.runResult) = .ok ended)
    (hnone : ended.error = none) (script : Script (Option String)) (result : RunResult)
    (error : ScriptError) :
    ¬ Raises (calls ++ exchange backend (.run sent) d :: more) script result error := by
  intro h
  obtain ⟨-, herror, hread⟩ := h.ran s hmore
  obtain rfl := Except.ok.inj (hran.symm.trans hread)
  cases hnone.symm.trans herror

/-- An error that the backend reports is returned with its positions moved back.

**Proof sketch.** By cases on the course of the run. The backend reports an error only in answer to
the script, and then the run ends with it. -/
lemma RunCourse.outcome_of_raises {backend : Backend ω} {submission : Submission}
    {session next : Session ω} {outcome : Except Failure RunResult} {calls : List Exchange}
    (k : RunCourse backend submission session outcome calls next)
    {script : Script (Option String)} {result : RunResult} {error : ScriptError}
    (h : Raises calls script result error) : script = sentScript session submission ∧
      outcome = .ok { result with error := some (error.shifted (preambleLines session.kept)) } := by
  cases k with
  | refused =>
    obtain ⟨ran, hmem, -⟩ := h
    cases hmem
  | unready s => exact absurd h (not_raises_of_setUp s script result error)
  | withheld s => exact absurd h (not_raises_of_setUp s script result error)
  | failed s hscript he hran =>
    obtain ⟨-, -, hread⟩ := h.ran s (by simp)
    cases hran.symm.trans hread
  | raised s hscript he hran herror =>
    obtain ⟨heq, herror', hread⟩ := h.ran s (by simp)
    obtain rfl := Except.ok.inj (hran.symm.trans hread)
    obtain rfl := Option.some.inj (herror.symm.trans herror')
    exact ⟨heq.trans hscript, rfl⟩
  | unnamed s hscript he hran hnone =>
    exact absurd h (not_raises_of_ended s (by simp) hran hnone script result error)
  | unread s hscript he hran hnone =>
    exact absurd h (not_raises_of_ended s (by simp [exchange]) hran hnone script result error)
  | captured s hscript he hran hnone =>
    exact absurd h (not_raises_of_ended s (by simp [exchange]) hran hnone script result error)

/-- An error that is returned was reported by the backend. -/
lemma RunCourse.raises_of_outcome {backend : Backend ω} {submission : Submission}
    {session next : Session ω} {outcome : Except Failure RunResult} {calls : List Exchange}
    (k : RunCourse backend submission session outcome calls next) {result : RunResult}
    {moved : ScriptError} (houtcome : outcome = .ok result) (hmoved : result.error = some moved) :
    ∃ script reported error, Raises calls script reported error := by
  cases k with
  | @raised reported error calls d e script s hscript he hran herror =>
    obtain ⟨ran, hanswer, hread⟩ := exists_of_bind_eq_ok hran
    refine ⟨script, reported, error, ran, ?_, hread, herror⟩
    rw [exchange, hanswer]
    exact List.mem_append_right _ List.mem_cons_self
  | captured s hscript he hran herror hnames =>
    obtain rfl := Except.ok.inj houtcome
    cases herror.symm.trans hmoved
  | refused => cases houtcome
  | unready => cases houtcome
  | withheld => cases houtcome
  | failed => cases houtcome
  | unnamed => cases houtcome
  | unread => cases houtcome

/-! ## The law -/

/-- How a run in a session that makes some calls and ends with an outcome reports errors, when the
given variables are kept. -/
structure PositionLaw (kept : Dict String Json) (submission : Submission)
    (outcome : Except Failure RunResult) (calls : List Exchange) : Prop where
  /-- The lines in front of a script are counted right, when 32 bits hold their number. -/
  counted : linesInFront kept < UInt32.size → (preambleLines kept).toNat = linesInFront kept
  /-- The backend is given the script behind the assignments. -/
  code : ∀ x ∈ calls, ∀ script, x.call = .run script →
    script.code = preamble kept ++ submission.script.code
  /-- In the source that the backend is given, the lines of the script stand behind the lines in
  front of it. -/
  source : ∀ x ∈ calls, ∀ script, x.call = .run script → ∀ k,
    (sourceLines script.code.toList)[linesInFront kept + k]? =
      (sourceLines submission.script.code.toList)[k]?
  /-- An error that the backend reports is returned, counted from the first line of the script. -/
  reported : ∀ script result error, Raises calls script result error →
    ∃ moved, outcome = .ok { result with error := some moved } ∧
      MovedError (preambleLines kept).toNat error moved
  /-- An error that is returned is one that the backend reported, counted from the first line of the
  script. -/
  returned : ∀ result moved, outcome = .ok result → result.error = some moved →
    ∃ script original error, Raises calls script original error ∧
      result = { original with error := some moved } ∧
      MovedError (preambleLines kept).toNat error moved

/-- Every run obeys the law. -/
lemma RunCourse.positionLaw {backend : Backend ω} {submission : Submission}
    {session next : Session ω} {outcome : Except Failure RunResult} {calls : List Exchange}
    (k : RunCourse backend submission session outcome calls next) :
    PositionLaw session.kept submission outcome calls := by
  have hcode (x : Exchange) (hx : x ∈ calls) (script : Script (Option String))
      (hcall : x.call = .run script) :
      script.code = preamble session.kept ++ submission.script.code := by
    rw [k.script_eq hx hcall]
    rfl
  have hmoved (error : ScriptError) : MovedError (preambleLines session.kept).toNat error
      (error.shifted (preambleLines session.kept)) := error.shifted_moved _
  refine ⟨toNat_preambleLines, hcode, fun x hx script hcall line => ?_,
    fun script result error h => ?_, fun result moved houtcome herror => ?_⟩
  · rw [hcode x hx script hcall, getElem?_sourceLines]
  · exact ⟨_, (k.outcome_of_raises h).2, hmoved error⟩
  · obtain ⟨script, original, error, h⟩ := k.raises_of_outcome houtcome herror
    obtain rfl := Except.ok.inj (houtcome.symm.trans (k.outcome_of_raises h).2)
    obtain rfl := Option.some.inj herror
    exact ⟨script, original, error, h, rfl, hmoved error⟩

/-- **Errors are reported as positions in the script.** Whatever a backend answers, a run in any
session makes some calls of the backend and obeys `PositionLaw`: the backend is given the script
behind the assignments, and the error that is returned is the one that was reported, its lines
counted from the first line of the script and all else as it was. -/
theorem position_law (backend : Backend ω) (session : Session (Recorded Exchange ω))
    (submission : Submission) :
    ∃ calls, (run backend.recorded submission session).2.context.world.events =
        session.context.world.events ++ calls ∧
      PositionLaw session.kept submission (run backend.recorded submission session).1 calls := by
  obtain ⟨calls, k⟩ := run_course backend.recorded submission session
  exact ⟨calls, k.events, k.positionLaw⟩

/-- **When frames of other scripts keep their lines.** Whatever a backend answers, an error that it
reports for a script is returned with the lines of the frames of other scripts just when the session
has put nothing in front of the script, or all these lines are among the first ones, as many as the
session has put in front. -/
theorem foreign_kept_iff (backend : Backend ω) (session : Session (Recorded Exchange ω))
    (submission : Submission) :
    (linesInFront session.kept < UInt32.size →
      (preambleLines session.kept).toNat = linesInFront session.kept) ∧
    ∃ calls, (run backend.recorded submission session).2.context.world.events =
        session.context.world.events ++ calls ∧
      ∀ script result error, Raises calls script result error → ∃ name moved,
        script.name = some name ∧
        (run backend.recorded submission session).1 = .ok { result with error := some moved } ∧
        (ForeignKept name error moved ↔ preambleLines session.kept = 0 ∨
          ∀ frame ∈ error.traceback, frame.filename ≠ name →
            frame.line ≤ preambleLines session.kept) := by
  obtain ⟨calls, k⟩ := run_course backend.recorded submission session
  refine ⟨toNat_preambleLines, calls, k.events, fun script result error h => ?_⟩
  obtain ⟨rfl, houtcome⟩ := k.outcome_of_raises h
  exact ⟨_, _, rfl, houtcome, error.shifted_foreignKept_iff _ _⟩

/-! ## A frame that is moved -/

/-- An error in a function of another script that a script has called. -/
def borrowedError : ScriptError where
  message := "division by zero"
  excType := some "ZeroDivisionError"
  filename := none
  line := none
  column := none
  traceback := [⟨"<input>", 3, 0, "<module>", none⟩, ⟨"util.py", 9, 4, "divide", none⟩]

/-- The replies of a backend: two variables behind a first run, and this error for a second one. -/
def borrowing : Scripted.BackendScript where
  inits := []
  disposals := []
  replies := [.result (.success .null .zero),
    .globals (.ofEntries [("x", .data (.bool true)), ("y", .data (.bool false))]),
    .result (.failure borrowedError .zero)]

/-- What is submitted for a code alone. -/
def codeAlone (code : String) : Submission :=
  ⟨⟨code, none, none⟩, .empty⟩

/-- The backend that follows this script and offers global names. -/
def borrowingBackend : Backend (Recorded Exchange Scripted.BackendScript) :=
  (Scripted.backend "scripted" { Capabilities.none with globals := true }).recorded

/-- The session behind the first run. -/
def borrowingSession : Session (Recorded Exchange Scripted.BackendScript) :=
  after borrowingBackend (fresh (.fresh .standard (Recorded.fresh borrowing)))
    [.run (codeAlone "x = True; y = False")]

/-- Two lines stand in front of a script whose error has a frame of another script. This frame is
returned two lines too far back. -/
theorem foreign_frame_moved :
    let submission := codeAlone "divide(x, y)"
    let script := sentScript borrowingSession submission
    let ended := run borrowingBackend submission borrowingSession
    linesInFront borrowingSession.kept = 2 ∧ script.name = some "<input>" ∧
    Raises ended.2.context.world.events script (.failure borrowedError .zero) borrowedError ∧
    ended.1.toOption = some (.failure (borrowedError.shifted 2) .zero) ∧
    ¬ ForeignKept "<input>" borrowedError (borrowedError.shifted 2) := by
  intro submission script ended
  refine ⟨?_, rfl, ⟨.typed (.failure borrowedError .zero), ?_, rfl, rfl⟩, ?_, ?_⟩
  · decide +kernel
  · -- the calls before this one get the backend ready and make up the first run
    exact List.mem_of_getElem? (i := 3) rfl
  · decide +kernel
  · rw [ScriptError.shifted_foreignKept_iff]
    decide

end Session

end ScriptHost
