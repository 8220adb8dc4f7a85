import ScriptHost.Proofs.Session.Course
import ScriptHost.Proofs.Session.Statement

/-!
# The assignments in front of a script

What the kept variables put in front of a script is one line for every variable that has a name of
the scripting language, in the order of the names. The line is one whole assignment, whatever the
name is and however the data is nested, and nothing of it reaches into another line. So the lines of
the script follow as they are, moved down by the number of the assignments.

## Main definitions

* `ScriptHost.Session.sourceLines` — the lines of a source.
* `ScriptHost.Session.statement`, `ScriptHost.Session.statements` — the assignments as characters.
* `ScriptHost.Session.CutAt` — a text cut in two at the first place of a mark.
* `ScriptHost.Session.PreambleLaw` — what stands in front of a script.

## Main results

* `ScriptHost.Session.statement_isWhole` — every assignment is whole.
* `ScriptHost.Session.sourceLines_preamble` — the assignments are the first lines of a source.
* `ScriptHost.Session.RunCourse.script_eq` — every script that the backend is asked to run.
* `ScriptHost.Session.preamble_law` — all kept variables obey the law.
-/

namespace ScriptHost.Session

open Statement (IsWhole awaitedAfter)

/-! ## Lines of a source -/

/-- The lines of a source. A line ends at a line feed, at a carriage return, or at a carriage return
and a line feed; the last one may have no end. -/
def sourceLines : List Char → List (List Char)
  | [] => []
  | '\r' :: '\n' :: rest => [] :: sourceLines rest
  | '\r' :: rest => [] :: sourceLines rest
  | '\n' :: rest => [] :: sourceLines rest
  | c :: rest =>
    match sourceLines rest with
    | [] => [[c]]
    | line :: lines => (c :: line) :: lines

/-- A text without line breaks in front of a line feed is the first line. -/
lemma sourceLines_line {line : List Char} (h : '\n' ∉ line ∧ '\r' ∉ line) (rest : List Char) :
    sourceLines (line ++ '\n' :: rest) = line :: sourceLines rest := by
  induction line with
  | nil => rw [List.nil_append, sourceLines]
  | cons c cs ih =>
    simp only [List.mem_cons, not_or] at h
    have htail := ih ⟨h.1.2, h.2.2⟩
    rw [List.cons_append, sourceLines, htail]
    · rintro rest rfl
      exact absurd rfl h.2.1
    · rintro rfl
      exact absurd rfl h.2.1
    · rintro rfl
      exact absurd rfl h.1.1

/-- Texts without line breaks, each in front of a line feed, are the first lines. -/
lemma sourceLines_flatMap {lines : List (List Char)}
    (h : ∀ line ∈ lines, '\n' ∉ line ∧ '\r' ∉ line) (rest : List Char) :
    sourceLines (lines.flatMap (· ++ ['\n']) ++ rest) = lines ++ sourceLines rest := by
  induction lines with
  | nil => rfl
  | cons line lines ih =>
    rw [List.flatMap_cons, List.append_assoc, List.append_assoc, List.singleton_append,
      sourceLines_line (h line List.mem_cons_self), ih fun l hl => h l (List.mem_cons_of_mem _ hl),
      List.cons_append]

/-! ## Assignments -/

/-- What stands between the name and the data of an assignment. -/
def equals : List Char :=
  [' ', '=', ' ']

/-- The assignment of a value to a name. -/
def statement (entry : String × Json) : List Char :=
  entry.1.toList ++ equals ++ entry.2.literal.toList

/-- The assignments of the kept variables that have names. -/
def statements (kept : Dict String Json) : List (List Char) :=
  (assignable kept).map statement

lemma toList_assignment (entry : String × Json) :
    (assignment entry).toList = statement entry ++ ['\n'] := by
  simp [assignment, statement, equals]

/-- The variables that have names are those whose names are accepted. -/
lemma mem_assignable_iff {kept : Dict String Json} {entry : String × Json} :
    entry ∈ assignable kept ↔ entry ∈ kept.entries ∧ Text.isIdentifier entry.1 = true :=
  List.mem_filter

/-- Every assignment is whole.

**Proof sketch.** The name and the equals sign are plain, and the literal is read over
(`ScriptHost.Statement.awaitedAfter_literal`). -/
lemma statement_isWhole {entry : String × Json} (h : Text.isIdentifier entry.1 = true) :
    IsWhole (statement entry) := by
  have hequals : Statement.IsPlain equals := by decide
  have hname : Statement.IsPlain (entry.1.toList ++ equals) :=
    (Statement.isPlain_of_isIdentifier h).append hequals
  have hend : ([] : List Char).head? ≠ some '"' := by simp
  have hliteral := Statement.awaitedAfter_literal entry.2 [] hend
  rw [List.append_nil] at hliteral
  rw [IsWhole, statement, Json.literal, String.toList_ofList,
    Statement.awaitedAfter_plain [] hname, hliteral]
  rfl

/-- The text is cut in two at the first place where the mark stands. -/
structure CutAt (mark text front back : List Char) : Prop where
  /-- The mark stands between the two parts. -/
  eq : text = front ++ mark ++ back
  /-- The mark does not stand any earlier. -/
  first : ∀ front' back', text = front' ++ mark ++ back' → front.length ≤ front'.length

/-- An assignment is cut at its first equals sign between blanks into the name and the literal. -/
lemma statement_cutAt {entry : String × Json} (h : Text.isIdentifier entry.1 = true) :
    CutAt equals (statement entry) entry.1.toList entry.2.literal.toList where
  eq := rfl
  first front back heq := by
    have hblank := Statement.blank_notMem_of_isIdentifier h
    rw [statement, List.append_assoc, List.append_assoc, List.append_eq_append_iff] at heq
    obtain ⟨more, rfl, -⟩ | ⟨more, hname, hrest⟩ := heq
    · rw [List.length_append]
      exact Nat.le_add_right _ _
    · cases more with
      | nil => rw [hname, List.append_nil]
      | cons c more =>
        -- a mark inside the name would put its blank there
        have hc : ' ' = c := (List.cons.inj hrest).1
        rw [hname, ← hc] at hblank
        exact absurd (List.mem_append_right _ List.mem_cons_self) hblank

/-! ## The text in front of a script -/

/-- The text in front of a script has one line for every assignment. -/
lemma toList_preamble (kept : Dict String Json) :
    (preamble kept).toList = (statements kept).flatMap (· ++ ['\n']) := by
  rw [preamble, String.toList_join, List.flatMap_map, statements, List.flatMap_map]
  exact congrArg (List.flatMap · (assignable kept)) (funext toList_assignment)

lemma isWhole_of_mem_statements {kept : Dict String Json} {line : List Char}
    (h : line ∈ statements kept) : IsWhole line := by
  obtain ⟨entry, hentry, rfl⟩ := List.mem_map.mp h
  exact statement_isWhole (mem_assignable_iff.mp hentry).2

/-- The assignments are the first lines of a source, and the lines of the script follow. -/
lemma sourceLines_preamble (kept : Dict String Json) (code : String) :
    sourceLines (preamble kept ++ code).toList = statements kept ++ sourceLines code.toList := by
  rw [String.toList_append, toList_preamble]
  exact sourceLines_flatMap
    (fun _ hline => (isWhole_of_mem_statements hline).lineBreak_notMem) code.toList

/-- What stands in front of a script for the kept variables. -/
structure PreambleLaw (kept : Dict String Json) : Prop where
  /-- The text consists of the assignments, each on a line of its own. -/
  lines : (preamble kept).toList = (statements kept).flatMap (· ++ ['\n'])
  /-- The number of lines is counted, when 32 bits hold it. -/
  count : (statements kept).length < UInt32.size →
    (preambleLines kept).toNat = (statements kept).length
  /-- The assignments are for the variables with accepted names. -/
  named : ∀ entry, entry ∈ assignable kept ↔
    entry ∈ kept.entries ∧ Text.isIdentifier entry.1 = true
  /-- The assignments stand in the order of the names. -/
  ordered : Entries.Ordered (assignable kept)
  /-- An assignment has no line break. -/
  lineBreaks : ∀ line ∈ statements kept, '\n' ∉ line ∧ '\r' ∉ line
  /-- An assignment is one whole statement. -/
  whole : ∀ line ∈ statements kept, IsWhole line
  /-- An assignment is cut at its first equals sign into the name and the literal. -/
  cut : ∀ entry ∈ assignable kept,
    CutAt equals (statement entry) entry.1.toList entry.2.literal.toList
  /-- In front of every script the assignments are the first lines, and the lines of the script
  follow. -/
  source : ∀ code : String,
    sourceLines (preamble kept ++ code).toList = statements kept ++ sourceLines code.toList

/-- All kept variables obey the law. -/
lemma preambleLaw (kept : Dict String Json) : PreambleLaw kept where
  lines := toList_preamble kept
  count hcount := by
    rw [statements, List.length_map] at hcount ⊢
    exact UInt32.toNat_ofNat_of_lt' hcount
  named _ := mem_assignable_iff
  ordered := List.Pairwise.filter _ kept.ordered
  lineBreaks _ hline := (isWhole_of_mem_statements hline).lineBreak_notMem
  whole _ hline := isWhole_of_mem_statements hline
  cut _ hentry := statement_cutAt (mem_assignable_iff.mp hentry).2
  source := sourceLines_preamble kept

/-! ## The scripts that are sent -/

/-- Of the calls that get a backend ready, run a script and report global names, only one runs a
script. -/
lemma script_eq_of_mem {ω : Type} {backend : Backend ω} {c d : Context ω}
    {outcome : Except Failure Unit} {calls more : List Backend.Exchange}
    (s : Context.SetUp backend c outcome calls d) (hmore : ∀ y ∈ more, y.call = .globals)
    {script sent : Script (Option String)} {x : Backend.Exchange}
    (hx : x ∈ calls ++ Context.exchange backend (.run sent) d :: more)
    (hcall : x.call = .run script) : script = sent := by
  rcases List.mem_append.mp hx with hx | hx
  · cases (s.call_eq hx).symm.trans hcall
  · rcases List.mem_cons.mp hx with rfl | hx
    · cases hcall
      rfl
    · cases (hmore x hx).symm.trans hcall

/-- Every script that the backend is asked to run in a run of a session is the submitted one behind
the assignments. -/
lemma RunCourse.script_eq {ω : Type} {backend : Backend ω} {submission : Submission}
    {session next : Session ω} {outcome : Except Failure RunResult}
    {calls : List Backend.Exchange}
    (k : RunCourse backend submission session outcome calls next) {x : Backend.Exchange}
    (hx : x ∈ calls) {script : Script (Option String)} (hcall : x.call = .run script) :
    script = sentScript session submission := by
  cases k with
  | refused => cases hx
  | unready s => cases (s.call_eq hx).symm.trans hcall
  | withheld s => cases (s.call_eq hx).symm.trans hcall
  | failed s hscript => exact (script_eq_of_mem s (by simp) hx hcall).trans hscript
  | raised s hscript => exact (script_eq_of_mem s (by simp) hx hcall).trans hscript
  | unnamed s hscript => exact (script_eq_of_mem s (by simp) hx hcall).trans hscript
  | unread s hscript =>
    exact (script_eq_of_mem s (by simp [Context.exchange]) hx hcall).trans hscript
  | captured s hscript =>
    exact (script_eq_of_mem s (by simp [Context.exchange]) hx hcall).trans hscript

/-- **What is kept cannot subvert a script.** Whatever the kept variables are, they obey
`PreambleLaw`. And whatever the backend answers, every script that it is asked to run is the
submitted one behind the assignments, whose lines are moved down by the number of the
assignments. -/
theorem preamble_law {ω : Type} (backend : Backend ω)
    (session : Session (Recorded Backend.Exchange ω)) (submission : Submission) :
    PreambleLaw session.kept ∧
      ∃ calls, (run backend.recorded submission session).2.context.world.events =
          session.context.world.events ++ calls ∧
        ∀ x ∈ calls, ∀ script, x.call = .run script →
          script.code = preamble session.kept ++ submission.script.code ∧
          ∀ k, (sourceLines script.code.toList)[(statements session.kept).length + k]? =
            (sourceLines submission.script.code.toList)[k]? := by
  refine ⟨preambleLaw session.kept, ?_⟩
  obtain ⟨calls, k⟩ := run_course backend.recorded submission session
  refine ⟨calls, k.events, fun x hx script hcall => ?_⟩
  have hcode : script.code = preamble session.kept ++ submission.script.code := by
    rw [k.script_eq hx hcall]
    rfl
  refine ⟨hcode, fun line => ?_⟩
  rw [hcode, sourceLines_preamble, List.getElem?_append_right (Nat.le_add_right _ _),
    Nat.add_sub_cancel_left]

-- Text that is no name is left out, and a line break in a text stays between its quotes.
example : preamble (.ofEntries [("x; import os", .null), ("y", .arr [.str "\n", .bool true])]) =
    "y = [\"\\n\", True]\n" := by
  decide +kernel

end ScriptHost.Session
