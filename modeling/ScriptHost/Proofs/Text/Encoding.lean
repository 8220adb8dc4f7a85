import Mathlib.Tactic.Lemma
import ScriptHost.Text.Utf8

/-!
# The bytes of characters

The bytes of a text are the bytes of its characters one after the other. A character below U+0080 is
one byte, and no byte of another character is below 0x80, so that ASCII characters can be told in
the bytes of any text.

## Main definitions

* `ScriptHost.Text.utf8` — the bytes of characters.

## Main results

* `ScriptHost.Text.bytes_ofList` — the bytes of a text are those of its characters.
* `ScriptHost.Text.utf8EncodeChar_ascii`, `ScriptHost.Text.le_of_mem_utf8EncodeChar` — the bytes of
  ASCII characters and of all others.
-/

namespace ScriptHost.Text

/-- The bytes of characters. -/
def utf8 (cs : List Char) : List UInt8 :=
  cs.flatMap String.utf8EncodeChar

@[simp]
lemma utf8_nil : utf8 [] = [] := rfl

@[simp]
lemma utf8_cons (c : Char) (cs : List Char) : utf8 (c :: cs) = String.utf8EncodeChar c ++ utf8 cs :=
  rfl

@[simp]
lemma utf8_append (cs ds : List Char) : utf8 (cs ++ ds) = utf8 cs ++ utf8 ds :=
  List.flatMap_append

/-- The bytes of a text are those of its characters. -/
lemma bytes_ofList (cs : List Char) : bytes (String.ofList cs) = utf8 cs := by
  simp [bytes, utf8, List.utf8Encode]

/-- The bytes of a text are those of its characters. -/
lemma bytes_eq_utf8 (s : String) : bytes s = utf8 s.toList := by
  rw [← bytes_ofList, String.ofList_toList]

/-- An ASCII character is one byte. -/
lemma utf8EncodeChar_ascii {c : Char} (h : c.toNat < 0x80) :
    String.utf8EncodeChar c = [UInt8.ofNat c.toNat] := by
  have hv : c.val.toNat ≤ 0x7f := Nat.le_of_lt_succ h
  rw [String.utf8EncodeChar, if_pos hv]
  rfl

/-- All bytes of other characters are beyond ASCII. -/
lemma le_of_mem_utf8EncodeChar {c : Char} (h : 0x80 ≤ c.toNat) {b : UInt8}
    (hb : b ∈ String.utf8EncodeChar c) : 0x80 ≤ b.toNat := by
  have hv : ¬ c.val.toNat ≤ 0x7f := Nat.not_le_of_lt h
  simp only [String.utf8EncodeChar, if_neg hv] at hb
  split at hb
  · simp only [List.mem_cons, List.not_mem_nil, or_false] at hb
    rcases hb with rfl | rfl <;> simp only [UInt8.toNat_ofNat'] <;> omega
  · split at hb
    · simp only [List.mem_cons, List.not_mem_nil, or_false] at hb
      rcases hb with rfl | rfl | rfl <;> simp only [UInt8.toNat_ofNat'] <;> omega
    · simp only [List.mem_cons, List.not_mem_nil, or_false] at hb
      rcases hb with rfl | rfl | rfl | rfl <;> simp only [UInt8.toNat_ofNat'] <;> omega

/-- ASCII characters are bytes one by one. -/
lemma utf8_ascii {cs : List Char} (h : ∀ c ∈ cs, c.toNat < 0x80) :
    utf8 cs = cs.map fun c => UInt8.ofNat c.toNat := by
  induction cs with
  | nil => rfl
  | cons c cs ih =>
    rw [utf8_cons, utf8EncodeChar_ascii (h c List.mem_cons_self),
      ih fun d hd => h d (List.mem_cons_of_mem _ hd)]
    rfl

end ScriptHost.Text
