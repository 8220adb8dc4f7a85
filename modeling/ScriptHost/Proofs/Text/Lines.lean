import ScriptHost.Proofs.Text.Encoding
import ScriptHost.Text.Lines

/-!
# Lines make up a stream

A stream is cut behind each line feed, and what follows the last line feed is a line as well. The
lines with their line feeds are the stream again, so no byte is lost or stands in two lines.

The lines of a text are texts: the line feed and the carriage return are ASCII, and an ASCII byte
never stands inside the bytes of another character.

## Main definitions

* `ScriptHost.Text.wholeLines` — the lines of a stream, each with its line feed.
* `ScriptHost.Text.IsText` — bytes that are those of some characters.

## Main results

* `ScriptHost.Text.flatten_wholeLines` — the lines make up the stream.
* `ScriptHost.Text.wholeLines_ended` — the lines of ended lines and a last part.
* `ScriptHost.Text.IsText.cut` — an ASCII byte cuts a text into texts.
* `ScriptHost.Text.IsText.of_mem_lines` — the lines of a text are texts.
-/

namespace ScriptHost.Text

variable {stream line rest : List UInt8}

/-! ## Lines with their line feeds -/

/-- The lines of a stream, each with its line feed; the last one may lack it. -/
def wholeLines (stream : List UInt8) : List (List UInt8) :=
  match _h : takeLine stream with
  | none => []
  | some (line, rest) => line :: wholeLines rest
termination_by stream.length
decreasing_by exact length_lt_of_takeLine _h

/-- There is no line at the end of a stream only. -/
lemma takeLine_eq_none_iff : takeLine stream = none ↔ stream = [] := by
  constructor
  · intro h
    unfold takeLine at h
    split at h
    · rename_i hempty
      simpa using hempty
    · dsimp only at h
      split at h <;> cases h
  · rintro rfl
    rfl

/-- A line ends with the first line feed, or it is all that is left and has none. -/
lemma takeLine_cases (h : takeLine stream = some (line, rest)) :
    (∃ bs, lineFeed ∉ bs ∧ line = endLine bs) ∨ (lineFeed ∉ line ∧ line ≠ [] ∧ rest = []) := by
  have hfree : lineFeed ∉ stream.takeWhile (· != lineFeed) := by
    intro hmem
    simpa using List.all_eq_true.mp List.all_takeWhile _ hmem
  unfold takeLine at h
  split at h
  · cases h
  · rename_i hne
    dsimp only at h
    split at h
    · rename_i hdrop
      cases h
      have hall := List.takeWhile_append_dropWhile (p := (· != lineFeed)) (l := stream)
      rw [hdrop, List.append_nil] at hall
      refine .inr ⟨hfree, ?_, rfl⟩
      rw [hall]
      simpa using hne
    · rename_i feed later hdrop
      cases h
      have hfeed : feed = lineFeed := by
        have hhead := List.head?_dropWhile_not (· != lineFeed) stream
        simpa [hdrop] using hhead
      exact .inl ⟨_, hfree, by rw [hfeed, endLine]⟩

/-- What has no line feed is one line. -/
lemma takeLine_last (h : lineFeed ∉ stream) (hne : stream ≠ []) :
    takeLine stream = some (stream, []) := by
  rcases htake : takeLine stream with _ | ⟨line, rest⟩
  · exact absurd (takeLine_eq_none_iff.mp htake) hne
  · have happend := takeLine_append htake
    rcases takeLine_cases htake with ⟨bs, -, rfl⟩ | ⟨-, -, rfl⟩
    · rw [← happend] at h
      simp [endLine] at h
    · rw [List.append_nil] at happend
      rw [happend]

@[simp]
lemma wholeLines_nil : wholeLines [] = [] := by
  rw [wholeLines]
  rfl

/-- The lines of a stream are its first line and the lines of the rest. -/
lemma wholeLines_of_takeLine (h : takeLine stream = some (line, rest)) :
    wholeLines stream = line :: wholeLines rest := by
  rw [wholeLines]
  split
  · rename_i hnone
    rw [h] at hnone
    cases hnone
  · rename_i hsome
    rw [h] at hsome
    cases hsome
    rfl

/-- **The lines make up the stream.** -/
theorem flatten_wholeLines (stream : List UInt8) : (wholeLines stream).flatten = stream := by
  fun_induction wholeLines stream with
  | case1 stream h => rw [takeLine_eq_none_iff.mp h, List.flatten_nil]
  | case2 stream line rest h ih => rw [List.flatten_cons, ih, takeLine_append h]

/-- **The lines of a stream.** Ended lines are lines, and so is what follows them. -/
theorem wholeLines_ended {ended : List (List UInt8)} {last : List UInt8}
    (hended : ∀ bs ∈ ended, lineFeed ∉ bs) (hlast : lineFeed ∉ last) :
    wholeLines (ended.flatMap endLine ++ last) =
      ended.map endLine ++ if last = [] then [] else [last] := by
  induction ended with
  | nil =>
    by_cases hne : last = []
    · simp [hne]
    · rw [List.flatMap_nil, List.nil_append, wholeLines_of_takeLine (takeLine_last hlast hne)]
      simp [hne]
  | cons bs ended ih =>
    have htake := takeLine_endLine (hended bs List.mem_cons_self) (ended.flatMap endLine ++ last)
    rw [List.flatMap_cons, List.append_assoc, wholeLines_of_takeLine htake,
      ih fun cs hcs => hended cs (List.mem_cons_of_mem _ hcs)]
    rfl

/-- The lines of a stream are the lines without their line feeds. -/
lemma lines_eq_map (stream : List UInt8) : lines stream = (wholeLines stream).map chomp := by
  fun_induction wholeLines stream with
  | case1 stream h =>
    rw [takeLine_eq_none_iff.mp h, lines]
    rfl
  | case2 stream line rest h ih =>
    rw [lines]
    split
    · rename_i hnone
      rw [h] at hnone
      cases hnone
    · rename_i hsome
      rw [h] at hsome
      cases hsome
      rw [ih, List.map_cons]

/-! ## Lines of texts -/

/-- The bytes of some characters. -/
def IsText (bs : List UInt8) : Prop :=
  ∃ cs, utf8 cs = bs

lemma isText_bytes (text : String) : IsText (bytes text) :=
  ⟨text.toList, (bytes_eq_utf8 text).symm⟩

/-- The bytes of characters are read as a text. -/
lemma IsText.exists_ofBytes? {bs : List UInt8} (h : IsText bs) :
    ∃ text, ofBytes? bs = some text := by
  obtain ⟨cs, rfl⟩ := h
  exact ⟨String.ofList cs, by rw [← bytes_ofList, ofBytes?_bytes]⟩

/-- **An ASCII byte cuts a text into texts.**

**Proof sketch.** By induction on the characters. The byte stands behind the first character, or it
is that character, since no byte of a character beyond ASCII is below 0x80. -/
lemma IsText.cut {front back : List UInt8} {b : UInt8} (hb : b.toNat < 0x80)
    (h : IsText (front ++ b :: back)) : IsText front ∧ IsText back := by
  obtain ⟨cs, hcs⟩ := h
  induction cs generalizing front with
  | nil => simp at hcs
  | cons c cs ih =>
    have behind {middle : List UInt8} (hfront : front = String.utf8EncodeChar c ++ middle)
        (hmiddle : utf8 cs = middle ++ b :: back) : IsText front ∧ IsText back := by
      obtain ⟨⟨ds, rfl⟩, hback⟩ := ih hmiddle
      exact ⟨⟨c :: ds, by rw [hfront, utf8_cons]⟩, hback⟩
    rw [utf8_cons] at hcs
    rcases List.append_eq_append_iff.mp hcs with ⟨middle, hfront, hmiddle⟩ | ⟨part, hc, hpart⟩
    · exact behind hfront hmiddle
    · cases part with
      | nil =>
        rw [List.append_nil] at hc
        exact behind (hc.symm.trans (List.append_nil _).symm) hpart.symm
      | cons x part =>
        obtain ⟨rfl, rfl⟩ : b = x ∧ back = part ++ utf8 cs := by simpa using hpart
        have hascii : c.toNat < 0x80 := Nat.lt_of_not_le fun hbeyond =>
          absurd (le_of_mem_utf8EncodeChar hbeyond (by simp [hc])) (Nat.not_le_of_lt hb)
        rw [utf8EncodeChar_ascii hascii] at hc
        rcases List.append_eq_singleton_iff.mp hc.symm with ⟨rfl, hpart⟩ | ⟨-, hpart⟩
        · obtain rfl : part = [] := (List.cons.inj hpart).2
          exact ⟨⟨[], rfl⟩, ⟨cs, rfl⟩⟩
        · cases hpart

/-- The first line of a text and the rest are texts. -/
lemma IsText.of_takeLine (h : IsText stream) (htake : takeLine stream = some (line, rest)) :
    IsText line ∧ IsText rest := by
  rw [← takeLine_append htake] at h
  rcases takeLine_cases htake with ⟨bs, -, rfl⟩ | ⟨-, -, rfl⟩
  · rw [endLine, List.append_assoc] at h
    obtain ⟨⟨cs, rfl⟩, hrest⟩ := h.cut (b := lineFeed) (by decide)
    exact ⟨⟨cs ++ ['\n'], by rw [utf8_append]; rfl⟩, hrest⟩
  · rw [List.append_nil] at h
    exact ⟨h, ⟨[], rfl⟩⟩

/-- A text without its last byte is a text when that byte is ASCII. -/
lemma IsText.dropLast {bs : List UInt8} {b : UInt8} (h : IsText bs) (hb : b.toNat < 0x80)
    (hlast : bs.getLast? = some b) : IsText bs.dropLast := by
  obtain ⟨front, rfl⟩ := List.getLast?_eq_some_iff.mp hlast
  rw [List.dropLast_concat]
  exact (h.cut hb).1

/-- A text is a text without the end of its line. -/
lemma IsText.chomp (h : IsText line) : IsText (chomp line) := by
  unfold Text.chomp
  split
  · rename_i hfeed
    have hbody := h.dropLast (by decide) hfeed
    dsimp only
    split
    · rename_i hreturn
      exact hbody.dropLast (by decide) hreturn
    · exact hbody
  · exact h

/-- **The lines of a text are texts.** -/
theorem IsText.of_mem_lines (h : IsText stream) (hline : line ∈ lines stream) : IsText line := by
  have hwhole : ∀ stream, IsText stream → ∀ other ∈ wholeLines stream, IsText other := by
    intro stream
    fun_induction wholeLines stream with
    | case1 stream hnone => simp
    | case2 stream first rest htake ih =>
      intro hstream other hother
      obtain ⟨hfirst, hrest⟩ := hstream.of_takeLine htake
      rcases List.mem_cons.mp hother with rfl | hother
      · exact hfirst
      · exact ih hrest other hother
  rw [lines_eq_map, List.mem_map] at hline
  obtain ⟨other, hother, rfl⟩ := hline
  exact (hwhole stream h other hother).chomp

end ScriptHost.Text
