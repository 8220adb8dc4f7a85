import ScriptHost.Json.Printer
import ScriptHost.Json.Reader
import ScriptHost.Proofs.Number.Writing

/-!
# The tokens of a JSON text

The compact text of a value is a row of tokens that can be told from the value: each character of a
quoted text is spelled by its bytes or by one code unit, every number is spelled by its numeral, and
between the tokens there are no blanks. Reading the bytes of the text gives just these tokens.

## Main definitions

* `ScriptHost.Json.isLegible` — values whose numbers are read back, whose objects are in key order
  and whose containers nest at most to a depth.
* `ScriptHost.Json.pieces`, `ScriptHost.Json.tokens` — the pieces of a quoted text and the tokens of
  a value.

## Main results

* `ScriptHost.Json.tokens?_text` — the tokens of the text of a value.
-/

namespace ScriptHost.Json

open Text

/-! ## Legible values -/

mutual

/-- Whether the numbers of a value are read back, its objects are in key order, and its containers
nest at most to a depth. -/
def isLegible (depth : Nat) : Json → Bool
  | null => true
  | bool _ => true
  | num n => n.readsBack
  | str _ => true
  | arr items => depth != 0 && areLegible (depth - 1) items
  | obj fields =>
    depth != 0 && decide (fields.Pairwise fun a b => a.1 < b.1) && fieldsLegible (depth - 1) fields

/-- Whether items are legible. -/
def areLegible (depth : Nat) : List Json → Bool
  | [] => true
  | x :: xs => isLegible depth x && areLegible depth xs

/-- Whether the values of fields are legible. -/
def fieldsLegible (depth : Nat) : List (String × Json) → Bool
  | [] => true
  | (_, x) :: xs => isLegible depth x && fieldsLegible depth xs

end

/-! ## Quoted texts -/

/-- The pieces that stand for a character inside quotes. -/
def charPieces (c : Char) : List Spelled :=
  if c.toNat < 0x20 ∧ c ∉ ['\x08', '\x0C', '\n', '\r', '\t'] then [.unit c.toNat]
  else (String.utf8EncodeChar c).map .byte

/-- The pieces of a quoted text. -/
def pieces (s : String) : List Spelled :=
  s.toList.flatMap charPieces

/-- A character without a short escape is escaped by its code when it is below U+0020, and else not
at all. -/
lemma escape_eq {c : Char} (h : c ∉ ['"', '\\', '\x08', '\x0C', '\n', '\r', '\t']) :
    escape c = if c.toNat < 0x20 then
      ['\\', 'u', '0', '0', Nat.digitChar (c.toNat / 16), Nat.digitChar (c.toNat % 16)]
    else [c] := by
  simp only [List.mem_cons, List.not_mem_nil, or_false, not_or] at h
  obtain ⟨hquote, hslash, hb, hf, hn, hr, ht⟩ := h
  simp only [escape, hquote, hslash, hb, hf, hn, hr, ht, if_false, hexDigit]
  split
  · have h16 : c.toNat / 16 % 16 = c.toNat / 16 := Nat.mod_eq_of_lt (by omega)
    rw [h16]
  · rfl

namespace Scan

/-- Reads bytes one after the other. -/
def run (scan : Scan) (bs : List UInt8) : Option Scan :=
  bs.foldlM step? scan

@[simp]
lemma run_nil (scan : Scan) : scan.run [] = some scan := rfl

lemma run_cons {scan next : Scan} {b : UInt8} (h : scan.step? b = some next) (bs : List UInt8) :
    scan.run (b :: bs) = next.run bs := by
  rw [run, List.foldlM_cons, h]
  rfl

/-- Bytes are read from where the bytes before them led. -/
lemma run_append {scan next : Scan} {bs : List UInt8} (h : scan.run bs = some next)
    (cs : List UInt8) : scan.run (bs ++ cs) = next.run cs := by
  rw [run, List.foldlM_append]
  change scan.run bs >>= _ = _
  rw [h]
  rfl

/-- Bytes that stand for themselves inside quotes. -/
lemma run_plain {bs : List UInt8} (h : ∀ b ∈ bs, b ≠ 0x22 ∧ b ≠ 0x5C ∧ ¬ b < 0x20)
    (done : List Token) (read : List Spelled) :
    run ⟨done, .quoted read⟩ bs = some ⟨done, .quoted ((bs.map Spelled.byte).reverse ++ read)⟩ := by
  induction bs generalizing read with
  | nil => rfl
  | cons b bs ih =>
    obtain ⟨hquote, hslash, hlow⟩ := h b List.mem_cons_self
    have hstep : step? ⟨done, .quoted read⟩ b = some ⟨done, .quoted (.byte b :: read)⟩ := by
      simp [step?, inQuotes?, hquote, hslash, hlow]
    rw [run_cons hstep, ih fun c hc => h c (List.mem_cons_of_mem _ hc)]
    simp

/-- A hexadecimal digit is read back. -/
lemma hexValue?_digitChar {d : Nat} (h : d < 16) :
    ∃ b, String.utf8EncodeChar (Nat.digitChar d) = [b] ∧ hexValue? b = some d := by
  have hall : ∀ d < 16, (String.utf8EncodeChar (Nat.digitChar d)).map hexValue? = [some d] := by
    decide
  have hd := hall d h
  rcases hb : String.utf8EncodeChar (Nat.digitChar d) with _ | ⟨b, _ | ⟨c, cs⟩⟩ <;> rw [hb] at hd
  · simp at hd
  · exact ⟨b, rfl, by simpa using hd⟩
  · simp at hd

/-- A code unit in four hexadecimal digits, the first two of them zero, is read as this unit. -/
lemma run_unit {n : Nat} (h : n < 0x100) (done : List Token) (read : List Spelled) :
    run ⟨done, .quoted read⟩
        (utf8 ['\\', 'u', '0', '0', Nat.digitChar (n / 16), Nat.digitChar (n % 16)]) =
      some ⟨done, .quoted (.unit n :: read)⟩ := by
  obtain ⟨high, hhigh, hhv⟩ := hexValue?_digitChar (d := n / 16) (by omega)
  obtain ⟨low, hlow, hlv⟩ := hexValue?_digitChar (d := n % 16) (by omega)
  have hbytes : utf8 ['\\', 'u', '0', '0', Nat.digitChar (n / 16), Nat.digitChar (n % 16)] =
      [0x5C, 0x75, 0x30, 0x30] ++ [high, low] := by
    simp only [utf8_cons, hhigh, hlow, utf8_nil]
    rfl
  have hopen : run ⟨done, .quoted read⟩ [0x5C, 0x75, 0x30, 0x30] = some ⟨done, .hex read 2 0⟩ := rfl
  have hfirst : step? ⟨done, .hex read 2 0⟩ high = some ⟨done, .hex read 1 (n / 16)⟩ := by
    simp [step?, hhv]
  have hsecond : step? ⟨done, .hex read 1 (n / 16)⟩ low =
      some ⟨done, .quoted (.unit n :: read)⟩ := by
    simp [step?, hlv, Nat.div_add_mod]
  rw [hbytes, run_append hopen, run_cons hfirst, run_cons hsecond, run_nil]

/-- The bytes of a character that needs no escape stand for themselves inside quotes. -/
lemma plain_of_mem {c : Char} (hquote : c ≠ '"') (hslash : c ≠ '\\') (hlow : ¬ c.toNat < 0x20)
    {b : UInt8} (hb : b ∈ String.utf8EncodeChar c) : b ≠ 0x22 ∧ b ≠ 0x5C ∧ ¬ b < 0x20 := by
  by_cases hascii : c.toNat < 0x80
  · rw [utf8EncodeChar_ascii hascii, List.mem_singleton] at hb
    have hn : b.toNat = c.toNat := by
      rw [hb, UInt8.toNat_ofNat']
      omega
    refine ⟨?_, ?_, ?_⟩
    · rintro rfl
      exact hquote (Char.toNat_inj.mp hn.symm)
    · rintro rfl
      exact hslash (Char.toNat_inj.mp hn.symm)
    · rw [UInt8.lt_iff_toNat_lt, hn]
      exact hlow
  · have hn := le_of_mem_utf8EncodeChar (Nat.le_of_not_lt hascii) hb
    refine ⟨?_, ?_, ?_⟩
    · rintro rfl
      exact absurd hn (by decide)
    · rintro rfl
      exact absurd hn (by decide)
    · rw [UInt8.lt_iff_toNat_lt]
      have h20 : (0x20 : UInt8).toNat = 32 := rfl
      omega

/-- The escape of a character is read as its pieces.

**Proof sketch.** A short escape is read as the byte of its character, and a code unit in four
digits as this unit. Every other character stands for itself: it is neither the quote nor the
backslash, and no byte of it is below U+0020. -/
lemma run_escape (c : Char) (done : List Token) (read : List Spelled) :
    run ⟨done, .quoted read⟩ (utf8 (escape c)) =
      some ⟨done, .quoted ((charPieces c).reverse ++ read)⟩ := by
  by_cases hshort : c ∈ ['"', '\\', '\x08', '\x0C', '\n', '\r', '\t']
  · simp only [List.mem_cons, List.not_mem_nil, or_false] at hshort
    rcases hshort with rfl | rfl | rfl | rfl | rfl | rfl | rfl <;> rfl
  · rw [escape_eq hshort]
    simp only [List.mem_cons, List.not_mem_nil, or_false, not_or] at hshort
    obtain ⟨hquote, hslash, hb, hf, hn, hr, ht⟩ := hshort
    split
    · rename_i hlow
      have hpieces : charPieces c = [.unit c.toNat] := by
        simp [charPieces, hlow, hb, hf, hn, hr, ht]
      rw [hpieces, run_unit (by omega)]
      rfl
    · rename_i hlow
      have hpieces : charPieces c = (String.utf8EncodeChar c).map .byte := by
        simp [charPieces, hlow]
      rw [hpieces, utf8_cons, utf8_nil, List.append_nil]
      exact run_plain (fun b hmem => plain_of_mem hquote hslash hlow hmem) done read

/-- The escapes of characters are read as their pieces. -/
lemma run_escapes (cs : List Char) (done : List Token) (read : List Spelled) :
    run ⟨done, .quoted read⟩ (utf8 (cs.flatMap escape)) =
      some ⟨done, .quoted ((cs.flatMap charPieces).reverse ++ read)⟩ := by
  induction cs generalizing read with
  | nil => rfl
  | cons c cs ih =>
    rw [List.flatMap_cons, utf8_append, run_append (run_escape c done read), ih]
    simp

/-- A quoted text is read as one token. -/
lemma run_quoted (s : String) (done : List Token) :
    run ⟨done, .between⟩ (utf8 (quoted s)) = some ⟨.quoted (pieces s) :: done, .between⟩ := by
  have hopen : step? ⟨done, .between⟩ 0x22 = some ⟨done, .quoted []⟩ := rfl
  have hclose : step? ⟨done, .quoted ((s.toList.flatMap charPieces).reverse ++ [])⟩ 0x22 =
      some ⟨.quoted (pieces s) :: done, .between⟩ := by
    simp [step?, inQuotes?, pieces]
  have hbytes : utf8 (quoted s) = 0x22 :: (utf8 (s.toList.flatMap escape) ++ [0x22]) := by
    rw [quoted, utf8_cons, utf8_append]
    rfl
  rw [hbytes, run_cons hopen, run_append (run_escapes _ done []), run_cons hclose,
    run_nil]

/-! ## Values -/

/-- Between values: the tokens are read, and the next punctuation is read as such. -/
def Settled (scan : Scan) (done : List Token) : Prop :=
  scan.finish? = some done ∧
    ∀ b, (punctuation? b).isSome = true → scan.step? b = between? done b

lemma settled_between (done : List Token) : Settled ⟨done, .between⟩ done :=
  ⟨rfl, fun _ _ => rfl⟩

/-- Punctuation ends words and numerals. -/
lemma ends_of_punctuation {b : UInt8} (h : (punctuation? b).isSome = true) :
    isWordByte b = false ∧ isNumeralByte b = false := by
  have hb : b = 0x5B ∨ b = 0x5D ∨ b = 0x7B ∨ b = 0x7D ∨ b = 0x2C ∨ b = 0x3A := by
    by_contra hne
    simp only [not_or] at hne
    simp [punctuation?, hne] at h
  rcases hb with rfl | rfl | rfl | rfl | rfl | rfl <;> decide

/-- An open word that is one stands between values. -/
lemma settled_word {read : List UInt8} {token : Token} (h : word? read.reverse = some token)
    (done : List Token) : Settled ⟨done, .word read⟩ (token :: done) := by
  have hfinish : finish? ⟨done, .word read⟩ = some (token :: done) := by
    simp [finish?, h]
  refine ⟨hfinish, fun b hb => ?_⟩
  simp [step?, (ends_of_punctuation hb).1, hfinish]

/-- An open numeral that is one stands between values. -/
lemma settled_number {read : List UInt8} {m : Numeral}
    (h : Numeral.ofBytes? read.reverse = some m) (done : List Token) :
    Settled ⟨done, .number read⟩ (.number m :: done) := by
  have hfinish : finish? ⟨done, .number read⟩ = some (.number m :: done) := by
    simp [finish?, h]
  refine ⟨hfinish, fun b hb => ?_⟩
  simp [step?, (ends_of_punctuation hb).2, hfinish]

/-- The bytes of a numeral go on with an open numeral. -/
lemma run_numeralBytes {bs : List UInt8} (h : ∀ b ∈ bs, isNumeralByte b = true)
    (done : List Token) (read : List UInt8) :
    run ⟨done, .number read⟩ bs = some ⟨done, .number (bs.reverse ++ read)⟩ := by
  induction bs generalizing read with
  | nil => rfl
  | cons b bs ih =>
    have hstep : step? ⟨done, .number read⟩ b = some ⟨done, .number (b :: read)⟩ := by
      simp [step?, h b List.mem_cons_self]
    rw [run_cons hstep, ih fun c hc => h c (List.mem_cons_of_mem _ hc)]
    simp

/-- A byte that begins a numeral is no blank, no quote and no letter. -/
lemma between?_head {b : UInt8} (h : b = 0x2D ∨ Numeral.isDigit b = true) (done : List Token) :
    between? done b = some ⟨done, .number [b]⟩ := by
  have hrange : 0x2D ≤ b.toNat ∧ b.toNat ≤ 0x39 := by
    rcases h with rfl | h
    · decide
    · simp only [Numeral.isDigit, Bool.and_eq_true, decide_eq_true_eq, UInt8.le_iff_toNat_le] at h
      change 0x30 ≤ b.toNat ∧ b.toNat ≤ 0x39 at h
      omega
  have hnumeral : isNumeralByte b = true := by
    rcases h with rfl | h
    · decide
    · simp [isNumeralByte, h]
  have hne {n : Nat} (hn : n < 0x2D ∨ 0x39 < n ∧ n < 256) : b ≠ UInt8.ofNat n := by
    rintro rfl
    rw [UInt8.toNat_ofNat'] at hrange
    omega
  have hblank : isBlankByte b = false := by
    have h1 : b ≠ 0x20 := hne (n := 0x20) (by decide)
    have h2 : b ≠ 0x9 := hne (n := 0x9) (by decide)
    have h3 : b ≠ 0xA := hne (n := 0xA) (by decide)
    have h4 : b ≠ 0xD := hne (n := 0xD) (by decide)
    simp [isBlankByte, h1, h2, h3, h4]
  have hquote : b ≠ 0x22 := hne (n := 0x22) (by decide)
  have hword : isWordByte b = false := by
    simp only [isWordByte, Bool.and_eq_false_iff, decide_eq_false_iff_not,
      UInt8.le_iff_toNat_le]
    left
    have h61 : (0x61 : UInt8).toNat = 97 := rfl
    omega
  simp [between?, hblank, hquote, hword, hnumeral]

/-- The text of a number stands between values as its numeral. -/
lemma run_number (n : Number) (done : List Token) :
    ∃ scan, run ⟨done, .between⟩ (utf8 n.text) = some scan ∧
      Settled scan (.number n.numeral :: done) := by
  obtain ⟨b, bs, htext, hhead⟩ := n.exists_head
  have hread := n.ofBytes?_text
  have hbytes : ∀ c ∈ b :: bs, isNumeralByte c = true := fun c hc =>
    Number.isNumeralByte_of_mem (htext ▸ hc)
  rw [htext] at hread ⊢
  have hstep : step? ⟨done, .between⟩ b = some ⟨done, .number [b]⟩ := between?_head hhead done
  refine ⟨⟨done, .number (bs.reverse ++ [b])⟩, ?_, settled_number (by simpa using hread) done⟩
  rw [run_cons hstep, run_numeralBytes fun c hc => hbytes c (List.mem_cons_of_mem _ hc)]

end Scan

/-! ## Values -/

mutual

/-- The tokens of the compact text of a value. -/
def tokens : Json → List Token
  | null => [.null]
  | bool b => [.bool b]
  | num n => [.number n.numeral]
  | str s => [.quoted (pieces s)]
  | arr [] => [.openArray, .closeArray]
  | arr (x :: xs) => .openArray :: (tokens x ++ itemsTokens xs ++ [.closeArray])
  | obj [] => [.openObject, .closeObject]
  | obj ((k, x) :: xs) =>
    .openObject :: .quoted (pieces k) :: .colon ::
      (tokens x ++ fieldsTokens xs ++ [.closeObject])

/-- The tokens of the items after the first. -/
def itemsTokens : List Json → List Token
  | [] => []
  | x :: xs => .comma :: (tokens x ++ itemsTokens xs)

/-- The tokens of the fields after the first. -/
def fieldsTokens : List (String × Json) → List Token
  | [] => []
  | (k, x) :: xs => .comma :: .quoted (pieces k) :: .colon :: (tokens x ++ fieldsTokens xs)

end

namespace Scan

/-- Punctuation between values is read as its token. -/
lemma run_punctuation {scan : Scan} {done : List Token} (h : Settled scan done) {c : Char}
    {b : UInt8} {token : Token} (hc : String.utf8EncodeChar c = [b])
    (hb : between? done b = some ⟨token :: done, .between⟩)
    (htoken : (punctuation? b).isSome = true) (bs : List UInt8) :
    run scan (String.utf8EncodeChar c ++ bs) = run ⟨token :: done, .between⟩ bs := by
  rw [hc, List.singleton_append]
  exact run_cons ((h.2 b htoken).trans hb) bs

/-- A key and the colon behind it are read as two tokens. -/
lemma run_key (k : String) (done : List Token) (bs : List UInt8) :
    run ⟨done, .between⟩ (utf8 (quoted k) ++ (String.utf8EncodeChar ':' ++ bs)) =
      run ⟨.colon :: .quoted (pieces k) :: done, .between⟩ bs := by
  rw [run_append (run_quoted k done)]
  exact run_punctuation (settled_between _) rfl rfl rfl bs

mutual

/-- The text of a value is read as its tokens.

**Proof sketch.** By recursion on the value. Numbers and words stay open behind their last byte; the
punctuation that follows them in a container, or the end of the text, ends them, which is what
`Settled` says. -/
lemma run_text : ∀ (v : Json) (done : List Token),
    ∃ scan, run ⟨done, .between⟩ (utf8 v.text) = some scan ∧
      Settled scan (v.tokens.reverse ++ done)
  | null, done => ⟨_, rfl, settled_word rfl done⟩
  | bool true, done => ⟨_, rfl, settled_word rfl done⟩
  | bool false, done => ⟨_, rfl, settled_word rfl done⟩
  | num n, done => run_number n done
  | str s, done => ⟨_, run_quoted s done, settled_between _⟩
  | arr [], done => ⟨_, rfl, settled_between _⟩
  | arr (x :: xs), done => by
    obtain ⟨scan, hx, hsettled⟩ := run_text x (.openArray :: done)
    obtain ⟨next, hxs, hnext⟩ := run_itemsText xs hsettled
    refine ⟨⟨.closeArray :: ((itemsTokens xs).reverse ++ (x.tokens.reverse ++ .openArray :: done)),
      .between⟩, ?_, ?_⟩
    · rw [text, utf8_cons, run_punctuation (settled_between done) rfl rfl rfl, utf8_append,
        utf8_append, List.append_assoc, run_append hx, run_append hxs]
      exact run_punctuation hnext rfl rfl rfl []
    · simpa [tokens] using settled_between _
  | obj [], done => ⟨_, rfl, settled_between _⟩
  | obj ((k, x) :: xs), done => by
    obtain ⟨scan, hx, hsettled⟩ :=
      run_text x (.colon :: .quoted (pieces k) :: .openObject :: done)
    obtain ⟨next, hxs, hnext⟩ := run_fieldsText xs hsettled
    refine ⟨⟨.closeObject :: ((fieldsTokens xs).reverse ++ (x.tokens.reverse ++
      .colon :: .quoted (pieces k) :: .openObject :: done)), .between⟩, ?_, ?_⟩
    · rw [text, utf8_cons, run_punctuation (settled_between done) rfl rfl rfl]
      simp only [utf8_append, utf8_cons, List.append_assoc]
      rw [run_key, run_append hx, run_append hxs]
      exact run_punctuation hnext rfl rfl rfl []
    · simpa [tokens] using settled_between _

/-- The text of further items is read as their tokens. -/
lemma run_itemsText : ∀ (xs : List Json) {scan : Scan} {done : List Token}, Settled scan done →
    ∃ next, run scan (utf8 (itemsText xs)) = some next ∧
      Settled next ((itemsTokens xs).reverse ++ done)
  | [], scan, done, hs => ⟨scan, rfl, hs⟩
  | x :: xs, scan, done, hs => by
    obtain ⟨next, hx, hsettled⟩ := run_text x (.comma :: done)
    obtain ⟨last, hxs, hlast⟩ := run_itemsText xs hsettled
    refine ⟨last, ?_, by simpa [itemsTokens] using hlast⟩
    rw [itemsText, utf8_cons, run_punctuation hs rfl rfl rfl, utf8_append, run_append hx, hxs]

/-- The text of further fields is read as their tokens. -/
lemma run_fieldsText : ∀ (xs : List (String × Json)) {scan : Scan} {done : List Token},
    Settled scan done → ∃ next, run scan (utf8 (fieldsText xs)) = some next ∧
      Settled next ((fieldsTokens xs).reverse ++ done)
  | [], scan, done, hs => ⟨scan, rfl, hs⟩
  | (k, x) :: xs, scan, done, hs => by
    obtain ⟨next, hx, hsettled⟩ := run_text x (.colon :: .quoted (pieces k) :: .comma :: done)
    obtain ⟨last, hxs, hlast⟩ := run_fieldsText xs hsettled
    refine ⟨last, ?_, by simpa [fieldsTokens] using hlast⟩
    rw [fieldsText, utf8_cons, run_punctuation hs rfl rfl rfl]
    simp only [utf8_append, utf8_cons, List.append_assoc]
    rw [run_key, run_append hx, hxs]

end

end Scan

/-- **The tokens of a text.** The compact text of a value is read as its tokens. -/
theorem tokens?_text (v : Json) : tokens? (utf8 v.text) = some v.tokens := by
  obtain ⟨scan, hrun, hfinish, -⟩ := Scan.run_text v []
  change ((Scan.run ⟨[], .between⟩ (utf8 v.text)).bind Scan.finish?).map List.reverse = _
  rw [hrun, Option.bind_some, hfinish, Option.map_some, List.append_nil, List.reverse_reverse]

end ScriptHost.Json
