import Mathlib.Data.List.Induction
import ScriptHost.Proofs.Number.Reading
import ScriptHost.Server.Command

/-!
# The numbers of calls

The number of a call stands as a key, which spells it in decimal digits. A plus sign and zeros may
precede the digits, so that a number has many spellings; but a key spells one number at most, and
the keys that are read as a number are just those that spell it.

## Main definitions

* `ScriptHost.Command.Spells` — a key spells the number of a call.

## Main results

* `ScriptHost.Command.callId?_eq_some_iff` — the keys that are read as a number are those that spell
  it.
* `ScriptHost.Command.callId?_decimal` — the number of a call is read back from its digits.
-/

namespace ScriptHost.Command

/-! ## Digits -/

/-- The number that digits denote. -/
def denoted (ds : List Char) : Nat :=
  ds.foldl (fun n c => 10 * n + (c.toNat - '0'.toNat)) 0

lemma denoted_append (ds : List Char) (c : Char) :
    denoted (ds ++ [c]) = 10 * denoted ds + (c.toNat - '0'.toNat) := by
  simp [denoted]

/-- Zeros in front change nothing. -/
lemma denoted_zeros (zeros n : Nat) : denoted (List.replicate zeros '0' ++ digits n) = n := by
  induction zeros with
  | zero => exact Nat.ofDigitChars_toDigits (by decide) (by decide)
  | succ zeros ih => exact ih

/-- A digit is the one for its value. -/
lemma digitChar_value {c : Char} (h : c.isDigit = true) :
    c.toNat - '0'.toNat < 10 ∧ Nat.digitChar (c.toNat - '0'.toNat) = c := by
  have hrange := (isDigit_iff c).mp h
  have hzero : '0'.toNat = 48 := rfl
  refine ⟨by omega, Char.toNat_inj.mp ?_⟩
  rw [Nat.toNat_digitChar_of_lt_ten (by omega)]
  omega

/-- The digits of a number, and one more. -/
lemma digits_append {n : Nat} (hn : n ≠ 0) {c : Char} (hc : c.isDigit = true) :
    digits (10 * n + (c.toNat - '0'.toNat)) = digits n ++ [c] := by
  obtain ⟨hlt, hchar⟩ := digitChar_value hc
  have hdiv : (10 * n + (c.toNat - '0'.toNat)) / 10 = n := by omega
  have hmod : (10 * n + (c.toNat - '0'.toNat)) % 10 = c.toNat - '0'.toNat := by omega
  rw [digits, Nat.toDigits_of_base_le (by decide) (by omega), hdiv, hmod, hchar]
  rfl

/-- Digits are zeros and the digits of the number that they denote.

**Proof sketch.** By induction, one digit more at the end. The digits before it are zeros and a last
zero, or their number is not zero and they go on with the new digit. -/
lemma exists_zeros {ds : List Char} (hne : ds ≠ []) (h : ∀ c ∈ ds, c.isDigit = true) :
    ∃ zeros, ds = List.replicate zeros '0' ++ digits (denoted ds) := by
  induction ds using List.reverseRecOn with
  | nil => exact absurd rfl hne
  | append_singleton front c ih =>
    have hc : c.isDigit = true := h c (by simp)
    obtain ⟨hlt, hchar⟩ := digitChar_value hc
    have hsingle : digits (c.toNat - '0'.toNat) = [c] := by
      rw [digits, Nat.toDigits_of_lt_base hlt, hchar]
    rw [denoted_append]
    by_cases hfront : front = []
    · refine ⟨0, ?_⟩
      rw [hfront, denoted, List.foldl_nil, Nat.mul_zero, Nat.zero_add, hsingle]
      rfl
    · obtain ⟨zeros, hzeros⟩ := ih hfront fun d hd => h d (List.mem_append_left _ hd)
      by_cases hzero : denoted front = 0
      · refine ⟨zeros + 1, ?_⟩
        rw [hzero] at hzeros ⊢
        rw [Nat.mul_zero, Nat.zero_add, hsingle, hzeros, List.replicate_succ']
        rfl
      · exact ⟨zeros, by rw [digits_append hzero hc, ← List.append_assoc, ← hzeros]⟩

/-! ## Keys -/

/-- A key spells the number of a call: its digits, which a plus sign and zeros may precede. -/
def Spells (key : String) (id : UInt32) : Prop :=
  ∃ sign zeros, (sign = [] ∨ sign = ['+']) ∧
    key.toList = sign ++ (List.replicate zeros '0' ++ digits id.toNat)

/-- Digits are read as a number just when they are its digits behind zeros. -/
lemma digitsOnly?_eq_some_iff {ds : List Char} {id : UInt32} :
    digitsOnly? ds = some id ↔ ∃ zeros, ds = List.replicate zeros '0' ++ digits id.toNat := by
  change (if ds.isEmpty || !ds.all Char.isDigit then none
    else if denoted ds < UInt32.size then some (UInt32.ofNat (denoted ds)) else none) =
      some id ↔ _
  constructor
  · intro h
    split at h
    · cases h
    · rename_i hdigits
      simp only [Bool.or_eq_true, List.isEmpty_iff, Bool.not_eq_true', not_or,
        Bool.not_eq_false, List.all_eq_true] at hdigits
      split at h
      · rename_i hlt
        obtain ⟨zeros, hzeros⟩ := exists_zeros hdigits.1 hdigits.2
        obtain rfl := Option.some.inj h
        rw [UInt32.toNat_ofNat_of_lt' hlt]
        exact ⟨zeros, hzeros⟩
      · cases h
  · rintro ⟨zeros, rfl⟩
    have hall : (List.replicate zeros '0' ++ digits id.toNat).all Char.isDigit = true := by
      refine List.all_eq_true.mpr fun c hc => ?_
      rcases List.mem_append.mp hc with hc | hc
      · rw [List.eq_of_mem_replicate hc]
        rfl
      · exact isDigit_of_mem_digits hc
    have hempty : (List.replicate zeros '0' ++ digits id.toNat).isEmpty = false := by
      simp [digits_ne_nil]
    rw [hempty, hall, denoted_zeros, if_neg (by decide), if_pos id.toNat_lt_size]
    simp

/-- **Spellings.** A key is read as the number of a call just when it spells it. -/
theorem callId?_eq_some_iff {key : String} {id : UInt32} :
    callId? key = some id ↔ Spells key id := by
  unfold callId? Spells
  split
  · rename_i ds hkey
    rw [digitsOnly?_eq_some_iff, hkey]
    constructor
    · rintro ⟨zeros, rfl⟩
      exact ⟨['+'], zeros, .inr rfl, rfl⟩
    · rintro ⟨sign, zeros, rfl | rfl, h⟩
      · -- digits do not begin with a plus sign
        have hplus : '+' ∈ List.replicate zeros '0' ++ digits id.toNat := by
          rw [List.nil_append] at h
          exact h ▸ List.mem_cons_self
        rcases List.mem_append.mp hplus with hplus | hplus
        · exact absurd (List.eq_of_mem_replicate hplus) (by decide)
        · exact absurd (isDigit_of_mem_digits hplus) (by decide)
      · exact ⟨zeros, (List.cons.inj h).2⟩
  · rename_i hkey
    rw [digitsOnly?_eq_some_iff]
    constructor
    · rintro ⟨zeros, h⟩
      exact ⟨[], zeros, .inl rfl, h⟩
    · rintro ⟨sign, zeros, rfl | rfl, h⟩
      · exact ⟨zeros, h⟩
      · exact absurd h (hkey _)

example : callId? "+007" = some 7 := by decide +kernel

/-- The number of a call is read back from its digits. -/
theorem callId?_decimal (id : UInt32) : callId? (decimal id.toNat) = some id :=
  callId?_eq_some_iff.mpr ⟨[], 0, .inl rfl, String.toList_ofList⟩

/-- A key spells one number at most. -/
lemma Spells.unique {key : String} {a b : UInt32} (ha : Spells key a) (hb : Spells key b) :
    a = b := by
  rw [← callId?_eq_some_iff] at ha hb
  exact Option.some.inj (ha.symm.trans hb)

end ScriptHost.Command
