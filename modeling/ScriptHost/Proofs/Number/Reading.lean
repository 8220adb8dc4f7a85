import Mathlib.Data.List.TakeWhile
import ScriptHost.Json.Token
import ScriptHost.Proofs.Text.Encoding

/-!
# Reading numbers back

An integer is read back from its text. A double is read in two roundings, so that not every double
is read back from its shortest decimal; the numbers that are make up a class of their own.

## Main definitions

* `ScriptHost.Number.readsBack` — whether a number is read back from its text.
* `ScriptHost.Number.numeral` — the numeral that the text of a number is.

## Main results

* `ScriptHost.Number.isNumeralByte_of_mem` — the text of a number consists of the bytes of a
  numeral.
* `ScriptHost.Number.value?_numeral` — a number of the class is read back from its numeral.
-/

namespace ScriptHost

open Text

/-! ## Characters of a numeral -/

/-- Whether a character may stand in the text of a number. -/
def isNumeralChar (c : Char) : Bool :=
  c.isDigit || c == '-' || c == '+' || c == '.' || c == 'e'

lemma isDigit_iff (c : Char) : c.isDigit = true ↔ 48 ≤ c.toNat ∧ c.toNat ≤ 57 := by
  simp [Char.isDigit, UInt32.le_iff_toNat_le]

lemma lt_of_isNumeralChar {c : Char} (h : isNumeralChar c = true) : c.toNat < 0x80 := by
  simp only [isNumeralChar, Bool.or_eq_true, beq_iff_eq, isDigit_iff] at h
  rcases h with (((h | rfl) | rfl) | rfl) | rfl
  · omega
  all_goals decide

/-- The byte of a digit is a digit of the same value. -/
lemma isDigit_byte {c : Char} (h : c.isDigit = true) :
    Numeral.isDigit (UInt8.ofNat c.toNat) = true ∧
      Numeral.digitValue (UInt8.ofNat c.toNat) = c.toNat - '0'.toNat := by
  rw [isDigit_iff] at h
  have hn : (UInt8.ofNat c.toNat).toNat = c.toNat := by
    rw [UInt8.toNat_ofNat']
    omega
  constructor
  · simp only [Numeral.isDigit, Bool.and_eq_true, decide_eq_true_eq, UInt8.le_iff_toNat_le, hn]
    exact h
  · rw [Numeral.digitValue, hn]
    rfl

lemma isNumeralByte_of_char {c : Char} (h : isNumeralChar c = true) :
    Json.Scan.isNumeralByte (UInt8.ofNat c.toNat) = true := by
  simp only [isNumeralChar, Bool.or_eq_true, beq_iff_eq] at h
  rcases h with (((h | rfl) | rfl) | rfl) | rfl
  · simp [Json.Scan.isNumeralByte, (isDigit_byte h).1]
  all_goals decide

/-! ## Digits -/

lemma isDigit_of_mem_digits {n : Nat} {c : Char} (h : c ∈ digits n) : c.isDigit = true :=
  Nat.isDigit_of_mem_toDigits (by decide) (by decide) h

lemma isNumeralChar_of_mem_digits {n : Nat} {c : Char} (h : c ∈ digits n) :
    isNumeralChar c = true := by
  simp [isNumeralChar, isDigit_of_mem_digits h]

lemma digits_ne_nil (n : Nat) : digits n ≠ [] :=
  Nat.toDigits_ne_nil

/-- Digits are read back. -/
lemma natural_digits (n : Nat) :
    Numeral.natural ((digits n).map fun c => c.toNat - '0'.toNat) = n := by
  rw [Numeral.natural, List.foldl_map, digits]
  exact Nat.ofDigitChars_toDigits (by decide) (by decide)

/-- Only the digits of zero begin with zero.

**Proof sketch.** Digits of ten and more begin as those of a tenth do, by induction with a single
zero, so that the tenth is zero. -/
lemma digits_head {n : Nat} {ds : List Char} (h : digits n = '0' :: ds) : ds = [] := by
  induction n using Nat.strongRecOn generalizing ds with
  | ind n ih =>
    by_cases hn : n < 10
    · rw [digits, Nat.toDigits_of_lt_base hn] at h
      exact (List.cons.inj h).2.symm
    · have hsplit : digits n = digits (n / 10) ++ [Nat.digitChar (n % 10)] :=
        Nat.toDigits_of_base_le (by decide) (by omega)
      rw [hsplit] at h
      obtain ⟨c, cs, hc⟩ := List.exists_cons_of_ne_nil (digits_ne_nil (n / 10))
      rw [hc, List.cons_append] at h
      obtain rfl : c = '0' := (List.cons.inj h).1
      have hback := natural_digits (n / 10)
      rw [hc, ih (n / 10) (by omega) hc] at hback
      have hzero : n / 10 = 0 := hback.symm
      omega

/-- Only zero has digits that begin with zero. -/
lemma digits_ne_zero_cons {n : Nat} (h : n ≠ 0) (ds : List Char) : digits n ≠ '0' :: ds := by
  intro hd
  have hback := natural_digits n
  rw [hd, digits_head hd] at hback
  exact h hback.symm

namespace Numeral

/-- There are digits, and nothing else. -/
def AreDigits (ds : List Char) : Prop :=
  ds ≠ [] ∧ ∀ c ∈ ds, c.isDigit = true

/-- Digits of which only a single one is zero at the front. -/
def AreWhole (ds : List Char) : Prop :=
  AreDigits ds ∧ ∀ rest, ds = '0' :: rest → rest = []

/-- No digit stands at the front of some bytes. -/
def EndDigits (rest : List UInt8) : Prop :=
  ∀ b ∈ rest.head?, isDigit b = false

lemma areWhole_digits (n : Nat) : AreWhole (digits n) :=
  ⟨⟨digits_ne_nil n, fun _ => isDigit_of_mem_digits⟩, fun _ => digits_head⟩

/-- Exactly the digits are taken from the front of digits and other bytes. -/
lemma takeDigits_append {ds : List Char} (h : ∀ c ∈ ds, c.isDigit = true) {rest : List UInt8}
    (hrest : EndDigits rest) :
    takeDigits (utf8 ds ++ rest) = (ds.map fun c => c.toNat - '0'.toNat, rest) := by
  have hascii : ∀ c ∈ ds, c.toNat < 0x80 := fun c hc =>
    lt_of_isNumeralChar (by simp [isNumeralChar, h c hc])
  have hall : ∀ b ∈ ds.map (fun c => UInt8.ofNat c.toNat), isDigit b = true := by
    intro b hb
    obtain ⟨c, hc, rfl⟩ := List.mem_map.mp hb
    exact (isDigit_byte (h c hc)).1
  have htake : rest.takeWhile isDigit = [] := by
    cases rest with
    | nil => rfl
    | cons b bs => simp [hrest b rfl]
  have hdrop : rest.dropWhile isDigit = rest := by
    cases rest with
    | nil => rfl
    | cons b bs => simp [hrest b rfl]
  rw [utf8_ascii hascii, takeDigits, List.takeWhile_append_of_pos hall,
    List.dropWhile_append_of_pos hall, htake, hdrop, List.append_nil, List.map_map]
  congr 1
  exact List.map_congr_left fun c hc => (isDigit_byte (h c hc)).2

/-- Whole digits are taken from the front of whole digits and other bytes. -/
lemma takeWhole?_append {ds : List Char} (h : AreWhole ds) {rest : List UInt8}
    (hrest : EndDigits rest) :
    takeWhole? (utf8 ds ++ rest) = some (ds.map fun c => c.toNat - '0'.toNat, rest) := by
  obtain ⟨⟨hne, hdigits⟩, hhead⟩ := h
  unfold takeWhole?
  rw [takeDigits_append hdigits hrest]
  obtain ⟨c, cs, rfl⟩ := List.exists_cons_of_ne_nil hne
  rcases cs with _ | ⟨d, ds⟩
  · simp only [List.map_cons, List.map_nil]
    split <;> simp_all
  · have hdigit := hdigits c List.mem_cons_self
    have hne : c.toNat - '0'.toNat ≠ 0 := by
      intro hz
      rw [isDigit_iff] at hdigit
      have hc0 : c.toNat = '0'.toNat := by
        have h48 : '0'.toNat = 48 := rfl
        omega
      obtain rfl := Char.toNat_inj.mp hc0
      cases hhead (d :: ds) rfl
    simp only [List.map_cons]
    split <;> simp_all

/-- The digits of a natural number are whole digits of a numeral. -/
lemma takeWhole?_digits (n : Nat) :
    takeWhole? (utf8 (digits n)) = some ((digits n).map fun c => c.toNat - '0'.toNat, []) := by
  have hend : EndDigits [] := by
    intro b hb
    cases hb
  simpa using takeWhole?_append (areWhole_digits n) hend

/-- Digits begin with no minus sign. -/
lemma takeMinus_append {ds : List Char} (h : AreDigits ds) (rest : List UInt8) :
    takeMinus (utf8 ds ++ rest) = (false, utf8 ds ++ rest) := by
  obtain ⟨hne, hdigits⟩ := h
  obtain ⟨c, cs, rfl⟩ := List.exists_cons_of_ne_nil hne
  have hc := hdigits c List.mem_cons_self
  have hdigit := (isDigit_byte hc).1
  rw [utf8_cons, utf8EncodeChar_ascii (lt_of_isNumeralChar (by simp [isNumeralChar, hc]))]
  unfold takeMinus
  split
  · rename_i heq
    rw [(List.cons.inj heq).1] at hdigit
    cases hdigit
  · rfl

end Numeral

/-- A numeral begins with a minus sign or a digit. -/
lemma head_of_ofBytes? {b : UInt8} {bs : List UInt8} {m : Numeral}
    (h : Numeral.ofBytes? (b :: bs) = some m) : b = 0x2D ∨ Numeral.isDigit b = true := by
  by_contra hne
  rw [not_or, Bool.not_eq_true] at hne
  have hminus : Numeral.takeMinus (b :: bs) = (false, b :: bs) := by
    unfold Numeral.takeMinus
    split
    · rename_i heq
      exact absurd (List.cons.inj heq).1 hne.1
    · rfl
  have hwhole : Numeral.takeWhole? (b :: bs) = none := by
    simp [Numeral.takeWhole?, Numeral.takeDigits, hne.2]
  unfold Numeral.ofBytes? at h
  simp [hminus, hwhole] at h

/-! ## Integers -/

/-- The numeral that an integer is written as. -/
def integerNumeral (n : Int) : Numeral :=
  { negative := decide (n < 0)
    whole := (digits n.natAbs).map fun c => c.toNat - '0'.toNat
    fraction := none
    exponent := none }

/-- The text of an integer is its numeral. -/
lemma ofBytes?_integerText (n : Int) :
    Numeral.ofBytes? (utf8 (integerText n)) = some (integerNumeral n) := by
  have hminus : Numeral.takeMinus (utf8 (integerText n)) =
      (decide (n < 0), utf8 (digits n.natAbs)) := by
    unfold integerText
    by_cases hn : n < 0
    · rw [if_pos hn, decide_eq_true hn]
      rfl
    · rw [if_neg hn, decide_eq_false hn]
      simpa using Numeral.takeMinus_append (Numeral.areWhole_digits n.natAbs).1 []
  unfold Numeral.ofBytes?
  rw [hminus]
  simp only [Numeral.takeWhole?_digits]
  rfl

/-- The numeral of an integer denotes it. -/
lemma value?_integerNumeral {n : Int} (h : Number.least ≤ n ∧ n < Number.bound) :
    (integerNumeral n).value? = some (.integer n h) := by
  have hvalue : (integerNumeral n).integer = n := by
    simp only [Numeral.integer, integerNumeral, natural_digits]
    by_cases hn : n < 0
    · rw [decide_eq_true hn, if_pos rfl]
      omega
    · rw [decide_eq_false hn, if_neg Bool.false_ne_true]
      omega
  have hzero : ¬ ((integerNumeral n).negative = true ∧ (integerNumeral n).integer = 0) := by
    rw [hvalue]
    simp only [integerNumeral, decide_eq_true_eq]
    omega
  unfold Numeral.value?
  rw [dif_pos ⟨rfl, rfl, hzero, hvalue.symm ▸ h⟩]
  simp only [hvalue]

/-! ## Doubles -/

/-- Zeros and digits may stand in a numeral. -/
lemma isNumeralChar_of_mem_pointed {ds : List Char} (h : ∀ c ∈ ds, isNumeralChar c = true)
    {count : Int} {c : Char} (hc : c ∈ Decimal.pointed ds count) : isNumeralChar c = true := by
  unfold Decimal.pointed at hc
  split at hc
  · simp only [List.mem_cons, List.mem_append, List.mem_replicate] at hc
    rcases hc with rfl | rfl | ⟨-, rfl⟩ | hc
    · rfl
    · rfl
    · rfl
    · exact h c hc
  · dsimp only at hc
    split at hc
    · simp only [List.mem_cons, List.mem_append, List.mem_replicate, List.not_mem_nil,
        or_false] at hc
      rcases hc with (hc | ⟨-, rfl⟩) | rfl | rfl
      · exact h c hc
      · rfl
      · rfl
      · rfl
    · simp only [List.mem_append, List.mem_cons] at hc
      rcases hc with hc | rfl | hc
      · exact h c (List.mem_of_mem_take hc)
      · rfl
      · exact h c (List.mem_of_mem_drop hc)

lemma isNumeralChar_of_mem_scientific {ds : List Char} (h : ∀ c ∈ ds, isNumeralChar c = true)
    {exponent : Int} {c : Char} (hc : c ∈ Decimal.scientific ds exponent) :
    isNumeralChar c = true := by
  unfold Decimal.scientific at hc
  simp only [List.mem_append, List.mem_cons] at hc
  rcases hc with hc | rfl | rfl | hc
  · split at hc
    · exact h c hc
    · simp only [List.mem_append, List.mem_cons] at hc
      rcases hc with hc | rfl | hc
      · exact h c (List.mem_of_mem_take hc)
      · rfl
      · exact h c (List.mem_of_mem_drop hc)
  · rfl
  · split <;> rfl
  · exact isNumeralChar_of_mem_digits hc

lemma isNumeralChar_of_mem_double {d : Double} {c : Char} (hc : c ∈ d.text) :
    isNumeralChar c = true := by
  have habsolute : c ∈ (if d.place = 0 then ['0', '.', '0'] else
      (Decimal.shortest d.place).text) → isNumeralChar c = true := by
    intro hc
    split at hc
    · simp only [List.mem_cons, List.not_mem_nil, or_false] at hc
      rcases hc with rfl | rfl | rfl <;> rfl
    · unfold Decimal.text at hc
      dsimp only at hc
      split at hc
      · exact isNumeralChar_of_mem_pointed (fun _ => isNumeralChar_of_mem_digits) hc
      · exact isNumeralChar_of_mem_scientific (fun _ => isNumeralChar_of_mem_digits) hc
  unfold Double.text at hc
  dsimp only at hc
  split at hc
  · rcases List.mem_cons.mp hc with rfl | hc
    · rfl
    · exact habsolute hc
  · exact habsolute hc

namespace Number

/-- The text of a number consists of the characters of a numeral. -/
lemma isNumeralChar_of_mem {n : Number} {c : Char} (hc : c ∈ n.text) : isNumeralChar c = true := by
  cases n with
  | integer value fits =>
    simp only [text, integerText] at hc
    split at hc
    · rcases List.mem_cons.mp hc with rfl | hc
      · rfl
      · exact isNumeralChar_of_mem_digits hc
    · exact isNumeralChar_of_mem_digits hc
  | double d => exact isNumeralChar_of_mem_double hc

/-- The text of a number consists of the bytes of a numeral. -/
lemma isNumeralByte_of_mem {n : Number} {b : UInt8} (hb : b ∈ utf8 n.text) :
    Json.Scan.isNumeralByte b = true := by
  rw [utf8_ascii fun c hc => lt_of_isNumeralChar (isNumeralChar_of_mem hc)] at hb
  obtain ⟨c, hc, rfl⟩ := List.mem_map.mp hb
  exact isNumeralByte_of_char (isNumeralChar_of_mem hc)

/-- Whether a number is read back from its text; integers always are. -/
def readsBack : Number → Bool
  | integer .. => true
  | double d => decide ((Numeral.ofBytes? (utf8 d.text)).bind Numeral.value? = some (.double d))

/-- The numeral that the text of a number is. -/
def numeral (n : Number) : Numeral :=
  (Numeral.ofBytes? (utf8 n.text)).getD (integerNumeral 0)

/-- The numeral of a number that is read back denotes the number. -/
lemma value?_numeral {n : Number} (h : n.readsBack = true) : n.numeral.value? = some n := by
  cases n with
  | integer value fits =>
    rw [numeral, text, ofBytes?_integerText]
    exact value?_integerNumeral fits
  | double d =>
    simp only [readsBack, decide_eq_true_eq] at h
    obtain ⟨m, hm, hv⟩ := Option.bind_eq_some_iff.mp h
    rw [numeral, text, hm]
    exact hv

-- The double nearest to `3 * 10 ^ 23` is not read back: its text is read as the double below it.
example : (double ⟨false, 4958396687196483698, by decide⟩).text = ['3', 'e', '+', '2', '3'] ∧
    (double ⟨false, 4958396687196483698, by decide⟩).readsBack = false := by
  decide +kernel

end Number

end ScriptHost
