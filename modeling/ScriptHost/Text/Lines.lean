/-!
# Lines of a byte stream

A line ends with a line feed; the last line of a stream may lack it.

Blank lines are skipped, in one of two senses. A line of an incoming connection is skipped when all
its characters have the Unicode property *White_Space*. A line of a reply stream is skipped when all
its bytes are ASCII blanks: space, tab, line feed, form feed or carriage return, and not the
vertical tab.

## Main definitions

* `ScriptHost.Text.takeLine` — the first line of a stream, with its line feed, and the rest.
* `ScriptHost.Text.lines` — all lines of a stream, each without its line feed and without a carriage
  return before it.
* `ScriptHost.Text.endLine` — bytes followed by a line feed.
* `ScriptHost.Text.isBlank`, `ScriptHost.Text.isAsciiBlank` — blank characters and blank bytes.

## Main results

* `ScriptHost.Text.takeLine_append` — a line and the rest make up the stream.
* `ScriptHost.Text.takeLine_endLine` — a line that was ended is taken back.
-/

namespace ScriptHost.Text

/-- The line feed. -/
def lineFeed : UInt8 := 0xA

/-- Bytes followed by a line feed. -/
def endLine (bs : List UInt8) : List UInt8 :=
  bs ++ [lineFeed]

/-- The first line of a stream, its line feed included, and what follows it; none at the end of the
stream. -/
def takeLine (stream : List UInt8) : Option (List UInt8 × List UInt8) :=
  if stream.isEmpty then none
  else
    let line := stream.takeWhile (· != lineFeed)
    match stream.dropWhile (· != lineFeed) with
    | [] => some (line, [])
    | feed :: rest => some (line ++ [feed], rest)

/-- A line and what follows it make up the stream. -/
theorem takeLine_append {stream line rest : List UInt8} (h : takeLine stream = some (line, rest)) :
    line ++ rest = stream := by
  have split := List.takeWhile_append_dropWhile (p := (· != lineFeed)) (l := stream)
  unfold takeLine at h
  split at h
  · cases h
  · dsimp only at h
    split at h
    · rename_i hd
      cases h
      rw [hd] at split
      exact split
    · rename_i hd
      cases h
      rw [hd] at split
      simpa using split

/-- The line and the rest of a stream that begins with bytes free of line feeds and a line feed. -/
theorem takeLine_endLine {bs : List UInt8} (h : lineFeed ∉ bs) (rest : List UInt8) :
    takeLine (endLine bs ++ rest) = some (endLine bs, rest) := by
  have all : ∀ b ∈ bs, (b != lineFeed) = true := by
    intro b hb
    simp only [bne_iff_ne]
    rintro rfl
    exact h hb
  have ht : (endLine bs ++ rest).takeWhile (· != lineFeed) = bs := by
    simp [endLine, List.takeWhile_append_of_pos all]
  have hd : (endLine bs ++ rest).dropWhile (· != lineFeed) = lineFeed :: rest := by
    simp [endLine, List.dropWhile_append_of_pos all]
  have ne : (endLine bs ++ rest).isEmpty = false := by simp [endLine]
  unfold takeLine
  rw [ne, ht, hd]
  simp [endLine]

/-- A line without its line feed, and without a carriage return before the line feed. -/
def chomp (line : List UInt8) : List UInt8 :=
  if line.getLast? = some lineFeed then
    let body := line.dropLast
    if body.getLast? = some 0xD then body.dropLast else body
  else line

/-- The rest after a line is shorter than the stream. -/
theorem length_lt_of_takeLine {stream line rest : List UInt8}
    (h : takeLine stream = some (line, rest)) : rest.length < stream.length := by
  have happ := takeLine_append h
  have hne : line ≠ [] := by
    rintro rfl
    unfold takeLine at h
    split at h
    · cases h
    · rename_i hs
      dsimp only at h
      split at h
      · rename_i hd
        have split := List.takeWhile_append_dropWhile (p := (· != lineFeed)) (l := stream)
        simp only [Option.some.injEq, Prod.mk.injEq] at h
        rw [hd, h.1] at split
        simp [← split] at hs
      · simp at h
  rw [← happ, List.length_append]
  have := List.length_pos_iff.mpr hne
  omega

/-- The lines of a stream, each chomped. -/
def lines (stream : List UInt8) : List (List UInt8) :=
  match _h : takeLine stream with
  | none => []
  | some (line, rest) => chomp line :: lines rest
termination_by stream.length
decreasing_by exact length_lt_of_takeLine _h

/-! ## Blanks -/

/-- Whether a character has the property *White_Space*. -/
def isBlank (c : Char) : Bool :=
  let n := c.toNat
  (0x9 ≤ n && n ≤ 0xD) || n == 0x20 || n == 0x85 || n == 0xA0 || n == 0x1680 ||
    (0x2000 ≤ n && n ≤ 0x200A) || n == 0x2028 || n == 0x2029 || n == 0x202F || n == 0x205F ||
    n == 0x3000

/-- Whether a byte is an ASCII blank: space, tab, line feed, form feed or carriage return. -/
def isAsciiBlank (b : UInt8) : Bool :=
  b == 0x20 || b == 0x9 || b == 0xA || b == 0xC || b == 0xD

end ScriptHost.Text
