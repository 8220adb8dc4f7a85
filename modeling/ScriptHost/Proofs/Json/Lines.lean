import ScriptHost.Proofs.Json.Spelling
import ScriptHost.Text.Lines

/-!
# Compact texts on lines

No compact text has a control character, so that a message is one line and is left as it was behind
its line feed.

## Main definitions

* `ScriptHost.Text.Visible` — bytes that are no control characters.

## Main results

* `ScriptHost.Json.visible_compact` — the bytes of a compact text are no control characters.
* `ScriptHost.Text.lines_endLine`, `ScriptHost.Text.chomp_endLine` — visible bytes are one line.
-/

namespace ScriptHost

open Text

/-! ## Visible bytes -/

namespace Text

/-- The bytes are no control characters. -/
def Visible (bs : List UInt8) : Prop :=
  ∀ b ∈ bs, 0x20 ≤ b.toNat

instance (bs : List UInt8) : Decidable (Visible bs) :=
  List.decidableBAll (fun b : UInt8 => 0x20 ≤ b.toNat) bs

lemma Visible.append {bs cs : List UInt8} (hb : Visible bs) (hc : Visible cs) :
    Visible (bs ++ cs) :=
  List.forall_mem_append.mpr ⟨hb, hc⟩

/-- Characters from the blank on have visible bytes. -/
lemma visible_utf8 {cs : List Char} (h : ∀ c ∈ cs, 0x20 ≤ c.toNat) : Visible (utf8 cs) := by
  intro b hb
  obtain ⟨c, hc, hbc⟩ := List.mem_flatMap.mp hb
  have hcn := h c hc
  by_cases hascii : c.toNat < 0x80
  · rw [utf8EncodeChar_ascii hascii, List.mem_singleton] at hbc
    rw [hbc, UInt8.toNat_ofNat']
    omega
  · have hbn := le_of_mem_utf8EncodeChar (Nat.le_of_not_lt hascii) hbc
    omega

/-- There is no line feed among visible bytes. -/
lemma Visible.lineFeed_notMem {bs : List UInt8} (h : Visible bs) : lineFeed ∉ bs :=
  fun hmem => absurd (h _ hmem) (by decide)

/-- Visible bytes before a line feed are what is left of the line. -/
lemma chomp_endLine {bs : List UInt8} (h : Visible bs) : chomp (endLine bs) = bs := by
  have hlast : bs.getLast? ≠ some 0xD := fun hlast =>
    absurd (h _ (List.mem_of_getLast? hlast)) (by decide)
  simp [chomp, endLine, hlast]

/-- There are no lines in no bytes. -/
lemma lines_nil : lines [] = [] := by
  rw [lines]
  rfl

/-- Visible bytes before a line feed are the first line. -/
lemma lines_endLine_append {bs : List UInt8} (h : Visible bs) (rest : List UInt8) :
    lines (endLine bs ++ rest) = bs :: lines rest := by
  have htake := takeLine_endLine h.lineFeed_notMem rest
  rw [lines]
  split
  · rename_i hnone
    rw [htake] at hnone
    cases hnone
  · rename_i line later hsome
    rw [htake] at hsome
    cases hsome
    rw [chomp_endLine h]

/-- Visible bytes before a line feed are one line. -/
lemma lines_endLine {bs : List UInt8} (h : Visible bs) : lines (endLine bs) = [bs] := by
  have happend := lines_endLine_append h []
  rwa [List.append_nil, lines_nil] at happend

end Text

namespace Json

/-- The characters that stand for one inside quotes are no control characters. -/
lemma le_of_mem_escape {c d : Char} (h : d ∈ escape c) : 0x20 ≤ d.toNat := by
  by_cases hshort : c ∈ ['"', '\\', '\x08', '\x0C', '\n', '\r', '\t']
  · simp only [List.mem_cons, List.not_mem_nil, or_false] at hshort
    have hall : (escape c).all (fun d => decide (0x20 ≤ d.toNat)) = true := by
      rcases hshort with rfl | rfl | rfl | rfl | rfl | rfl | rfl <;> decide
    exact of_decide_eq_true (List.all_eq_true.mp hall d h)
  · rw [escape_eq hshort] at h
    split at h
    · have hdigit : ∀ n < 16, 0x20 ≤ (Nat.digitChar n).toNat := by
        decide
      simp only [List.mem_cons, List.not_mem_nil, or_false] at h
      rcases h with rfl | rfl | rfl | rfl | rfl | rfl
      · decide
      · decide
      · decide
      · decide
      · exact hdigit _ (by omega)
      · exact hdigit _ (by omega)
    · rename_i hlow
      rw [List.mem_singleton.mp h]
      omega

/-- The bytes of a quoted text are visible. -/
lemma visible_quoted (s : String) : Visible (utf8 (quoted s)) := by
  refine visible_utf8 fun d hd => ?_
  rw [quoted, List.mem_cons, List.mem_append, List.mem_singleton, List.mem_flatMap] at hd
  obtain rfl | ⟨c, -, hd⟩ | rfl := hd
  · decide
  · exact le_of_mem_escape hd
  · decide

/-- The bytes of a number are visible. -/
lemma visible_number (n : Number) : Visible (utf8 n.text) := by
  intro b hb
  have hbyte := Number.isNumeralByte_of_mem hb
  simp only [Scan.isNumeralByte, Numeral.isDigit, Bool.or_eq_true, Bool.and_eq_true,
    decide_eq_true_eq, beq_iff_eq, UInt8.le_iff_toNat_le] at hbyte
  rcases hbyte with ((((h | rfl) | rfl) | rfl) | rfl) | rfl
  · change 0x30 ≤ b.toNat ∧ b.toNat ≤ 0x39 at h
    omega
  all_goals decide

mutual

/-- The bytes of a compact text are no control characters. -/
lemma visible_text : ∀ v : Json, Visible (utf8 v.text)
  | null => by
    rw [text]
    decide
  | bool true => by
    rw [text]
    decide
  | bool false => by
    rw [text]
    decide
  | num n => visible_number n
  | str s => visible_quoted s
  | arr [] => by
    rw [text]
    decide
  | arr (x :: xs) => by
    rw [text, utf8_cons, utf8_append, utf8_append]
    exact .append (by decide) (((visible_text x).append (visible_itemsText xs)).append (by decide))
  | obj [] => by
    rw [text]
    decide
  | obj ((k, x) :: xs) => by
    rw [text, utf8_cons, utf8_append, utf8_append, utf8_append, utf8_cons]
    exact .append (by decide) ((((visible_quoted k).append
      (.append (by decide) (visible_text x))).append (visible_fieldsText xs)).append (by decide))

/-- The bytes of the text of further items are no control characters. -/
lemma visible_itemsText : ∀ xs : List Json, Visible (utf8 (itemsText xs))
  | [] => by
    rw [itemsText]
    decide
  | x :: xs => by
    rw [itemsText, utf8_cons, utf8_append]
    exact .append (by decide) ((visible_text x).append (visible_itemsText xs))

/-- The bytes of the text of further fields are no control characters. -/
lemma visible_fieldsText : ∀ xs : List (String × Json), Visible (utf8 (fieldsText xs))
  | [] => by
    rw [fieldsText]
    decide
  | (k, x) :: xs => by
    rw [fieldsText, utf8_cons, utf8_append, utf8_append, utf8_cons]
    exact .append (by decide) (((visible_quoted k).append
      (.append (by decide) (visible_text x))).append (visible_fieldsText xs))

end

/-- The bytes of a compact text are no control characters. -/
lemma visible_compact (v : Json) : Visible (bytes v.compact) := by
  rw [compact, bytes_ofList]
  exact visible_text v

/-- The text of an object begins with a brace. -/
lemma exists_text_obj (fields : List (String × Json)) :
    ∃ rest, (obj fields).text = '\x7B' :: rest := by
  rcases fields with _ | ⟨⟨k, x⟩, xs⟩
  · exact ⟨_, rfl⟩
  · exact ⟨_, rfl⟩

end Json

end ScriptHost
