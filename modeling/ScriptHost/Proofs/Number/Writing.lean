import ScriptHost.Proofs.Number.Reading

/-!
# The texts of numbers are numerals

Every number is written as a numeral, whether or not the numeral is read as the same number. The
text of an integer is a sign and digits. The text of a double is made up of the digits of its
shortest decimal, which are those of a positive number, with a point, with zeros around it, or with
an exponent behind it.

## Main definitions

* `ScriptHost.Numeral.spelled` — the text of whole digits, a fraction and an exponent.

## Main results

* `ScriptHost.Numeral.isSome_ofBytes?_spelled` — such a text is a numeral.
* `ScriptHost.Decimal.shortest_positive` — the digits of a shortest decimal are those of a positive
  number.
* `ScriptHost.Number.ofBytes?_text` — the text of every number is a numeral.
-/

namespace ScriptHost

open Text

/-! ## Numerals of parts -/

namespace Numeral

/-- The text of whole digits, a fraction behind a point, and an exponent behind its sign. -/
def spelled (whole : List Char) (fraction : Option (List Char))
    (exponent : Option (Char × List Char)) : List Char :=
  whole ++ ((fraction.elim [] fun ds => '.' :: ds) ++
    exponent.elim [] fun e => 'e' :: e.1 :: e.2)

lemma endDigits_nil : EndDigits [] := by
  intro b hb
  cases hb

/-- The text of an exponent, or nothing, is taken as such. -/
lemma takeExponent?_elim {exponent : Option (Char × List Char)}
    (h : ∀ e ∈ exponent, (e.1 = '+' ∨ e.1 = '-') ∧ AreDigits e.2) :
    ∃ taken, takeExponent? (utf8 (exponent.elim [] fun e => 'e' :: e.1 :: e.2)) =
      some (taken, []) := by
  rcases exponent with _ | ⟨sign, ds⟩
  · exact ⟨none, rfl⟩
  · obtain ⟨hsign, hne, hdigits⟩ := h _ rfl
    have htaken : takeDigits (utf8 ds) = (ds.map fun c => c.toNat - '0'.toNat, []) := by
      simpa using takeDigits_append hdigits endDigits_nil
    obtain ⟨c, cs, rfl⟩ := List.exists_cons_of_ne_nil hne
    rw [List.map_cons] at htaken
    have hmark (cs : List Char) : utf8 ('e' :: cs) = 0x65 :: utf8 cs := rfl
    rcases hsign with rfl | rfl
    · have hplus : utf8 ('+' :: c :: cs) = 0x2B :: utf8 (c :: cs) := rfl
      rw [Option.elim, hmark, hplus, takeExponent?]
      simp only [htaken]
      exact ⟨_, rfl⟩
    · have hminus : utf8 ('-' :: c :: cs) = 0x2D :: utf8 (c :: cs) := rfl
      have htakeMinus : takeMinus (0x2D :: utf8 (c :: cs)) = (true, utf8 (c :: cs)) := rfl
      rw [Option.elim, hmark, hminus, takeExponent?]
      · simp only [htakeMinus, htaken]
        exact ⟨_, rfl⟩
      · rintro _ ⟨⟩

/-- Neither a digit nor a point stands at the front of the text of an exponent. -/
lemma endDigits_elim (exponent : Option (Char × List Char)) :
    EndDigits (utf8 (exponent.elim [] fun e => 'e' :: e.1 :: e.2)) ∧
      (utf8 (exponent.elim [] fun e => 'e' :: e.1 :: e.2)).head? ≠ some 0x2E := by
  rcases exponent with _ | ⟨sign, ds⟩
  · exact ⟨endDigits_nil, nofun⟩
  · have hbytes : utf8 ('e' :: sign :: ds) = 0x65 :: utf8 (sign :: ds) := rfl
    simp only [Option.elim, hbytes, List.head?_cons]
    refine ⟨fun b hb => ?_, by decide⟩
    cases hb
    rfl

/-- The text of a fraction, or nothing, is taken as such. -/
lemma takeFraction?_elim {fraction : Option (List Char)} (h : ∀ ds ∈ fraction, AreDigits ds)
    {rest : List UInt8} (hrest : EndDigits rest) (hpoint : rest.head? ≠ some 0x2E) :
    ∃ taken, takeFraction? (utf8 (fraction.elim [] fun ds => '.' :: ds) ++ rest) =
      some (taken, rest) := by
  rcases fraction with _ | ds
  · refine ⟨none, ?_⟩
    unfold takeFraction?
    split
    · rename_i heq
      simp only [Option.elim, utf8_nil, List.nil_append] at heq
      exact absurd (by rw [heq]; rfl) hpoint
    · rfl
  · obtain ⟨hne, hdigits⟩ := h ds rfl
    have htaken := takeDigits_append hdigits hrest
    obtain ⟨c, cs, rfl⟩ := List.exists_cons_of_ne_nil hne
    have hbytes : utf8 ('.' :: c :: cs) = 0x2E :: utf8 (c :: cs) := rfl
    rw [List.map_cons] at htaken
    simp only [Option.elim, hbytes, List.cons_append, takeFraction?, htaken]
    exact ⟨_, rfl⟩

/-- The text of whole digits, a fraction and an exponent is a numeral, which begins with a digit.

**Proof sketch.** Each part is taken from the front of the text, since what follows it does not go
on with it, and nothing is left behind the exponent. -/
theorem isSome_ofBytes?_spelled {whole : List Char} {fraction : Option (List Char)}
    {exponent : Option (Char × List Char)} (hwhole : AreWhole whole)
    (hfraction : ∀ ds ∈ fraction, AreDigits ds)
    (hexponent : ∀ e ∈ exponent, (e.1 = '+' ∨ e.1 = '-') ∧ AreDigits e.2) (negative : Bool) :
    (ofBytes? (utf8 (if negative then '-' :: spelled whole fraction exponent
      else spelled whole fraction exponent))).isSome = true := by
  obtain ⟨hends, hpoint⟩ := endDigits_elim exponent
  obtain ⟨power, hpower⟩ := takeExponent?_elim hexponent
  obtain ⟨part, hpart⟩ := takeFraction?_elim hfraction hends hpoint
  have hrest : EndDigits (utf8 (fraction.elim [] fun ds => '.' :: ds) ++
      utf8 (exponent.elim [] fun e => 'e' :: e.1 :: e.2)) := by
    rcases fraction with _ | ds
    · exact hends
    · intro b hb
      cases hb
      rfl
  have hfront := takeWhole?_append hwhole hrest
  have hminus : takeMinus (utf8 (if negative then '-' :: spelled whole fraction exponent
      else spelled whole fraction exponent)) =
        (negative, utf8 (spelled whole fraction exponent)) := by
    cases negative with
    | true => rfl
    | false =>
      show takeMinus (utf8 (spelled whole fraction exponent)) = _
      rw [spelled, utf8_append]
      exact takeMinus_append hwhole.1 _
  unfold ofBytes?
  rw [hminus]
  simp only [spelled, utf8_append, hfront, hpart, hpower, Option.bind_eq_bind, Option.bind_some,
    List.isEmpty_nil, if_true, Option.isSome_some]

end Numeral

/-! ## Decimals -/

namespace Decimal

open Numeral

/-- Zeros behind digits and before them are digits. -/
lemma areDigits_append {ds es : List Char} (hd : ∀ c ∈ ds, c.isDigit = true)
    (he : ∀ c ∈ es, c.isDigit = true) (hne : ds ≠ [] ∨ es ≠ []) : AreDigits (ds ++ es) := by
  refine ⟨by simpa [imp_iff_not_or] using hne, fun c hc => ?_⟩
  rcases List.mem_append.mp hc with hc | hc
  · exact hd c hc
  · exact he c hc

lemma isDigit_of_mem_replicate {n : Nat} {c : Char} (h : c ∈ List.replicate n '0') :
    c.isDigit = true := by
  rw [List.eq_of_mem_replicate h]
  rfl

/-- A text of whole digits, a fraction and an exponent. -/
def IsSpelled (cs : List Char) : Prop :=
  ∃ whole fraction exponent, cs = spelled whole fraction exponent ∧ AreWhole whole ∧
    (∀ ds ∈ fraction, AreDigits ds) ∧
      ∀ e ∈ exponent, (e.1 = '+' ∨ e.1 = '-') ∧ AreDigits e.2

/-- Whole digits, a point and digits are spelled that way. -/
lemma isSpelled_point {whole fraction : List Char} (hwhole : AreWhole whole)
    (hfraction : AreDigits fraction) : IsSpelled (whole ++ '.' :: fraction) := by
  refine ⟨whole, some fraction, none, by simp [spelled], hwhole, ?_, by simp⟩
  rintro ds ⟨⟩
  exact hfraction

/-- Digits that do not begin with zero are spelled that way with a point anywhere.

**Proof sketch.** Before the first digit, a zero stands in front of the point; behind the last one,
a zero stands behind it; and otherwise there are digits on both sides. -/
lemma isSpelled_pointed {ds : List Char} (hd : AreDigits ds) (hhead : ∀ rest, ds ≠ '0' :: rest)
    (count : Int) : IsSpelled (pointed ds count) := by
  obtain ⟨hne, hdigits⟩ := hd
  have hzero : ∀ c ∈ ['0'], c.isDigit = true := fun c hc => by
    rw [List.mem_singleton.mp hc]
    rfl
  have whole {es : List Char} (hes : AreDigits es) (h : ∀ rest, es ≠ '0' :: rest) : AreWhole es :=
    ⟨hes, fun rest hrest => absurd hrest (h rest)⟩
  unfold pointed
  split
  · exact isSpelled_point ⟨⟨by simp, hzero⟩, fun rest h => (List.cons.inj h).2.symm⟩
      (areDigits_append (fun _ => isDigit_of_mem_replicate) hdigits (.inr hne))
  · rename_i hcount
    dsimp only
    split
    · rw [List.append_assoc, ← List.append_assoc ds]
      refine isSpelled_point (whole (areDigits_append hdigits
        (fun _ => isDigit_of_mem_replicate) (.inl hne)) fun rest h => ?_) ⟨by simp, hzero⟩
      obtain ⟨c, cs, rfl⟩ := List.exists_cons_of_ne_nil hne
      rw [List.cons_append] at h
      exact hhead cs (by rw [(List.cons.inj h).1])
    · rename_i hlength
      refine isSpelled_point (whole ⟨?_, fun c hc => hdigits c (List.mem_of_mem_take hc)⟩
        fun rest h => ?_) ⟨?_, fun c hc => hdigits c (List.mem_of_mem_drop hc)⟩
      · simp [List.take_eq_nil_iff, hne]
        omega
      · obtain ⟨c, cs, rfl⟩ := List.exists_cons_of_ne_nil hne
        obtain ⟨n, hn⟩ : ∃ n, count.toNat = n + 1 := ⟨count.toNat - 1, by omega⟩
        rw [hn, List.take_succ_cons] at h
        exact hhead cs (by rw [(List.cons.inj h).1])
      · simp [List.drop_eq_nil_iff]
        omega

/-- Digits with an exponent are spelled that way. -/
lemma isSpelled_scientific {ds : List Char} (hd : AreDigits ds) (exponent : Int) :
    IsSpelled (scientific ds exponent) := by
  obtain ⟨hne, hdigits⟩ := hd
  obtain ⟨c, cs, rfl⟩ := List.exists_cons_of_ne_nil hne
  have hc : AreWhole [c] := by
    refine ⟨⟨by simp, fun d hd => ?_⟩, fun rest h => (List.cons.inj h).2.symm⟩
    exact hdigits d (List.mem_singleton.mp hd ▸ List.mem_cons_self)
  have hsign : (if exponent < 0 then '-' else '+') = '+' ∨
      (if exponent < 0 then '-' else '+') = '-' := by
    split <;> simp
  have hexponent : ∀ e ∈ some (if exponent < 0 then '-' else '+', digits exponent.natAbs),
      (e.1 = '+' ∨ e.1 = '-') ∧ AreDigits e.2 := by
    rintro e ⟨⟩
    exact ⟨hsign, (areWhole_digits _).1⟩
  rcases cs with _ | ⟨d, cs⟩
  · exact ⟨[c], none, _, by simp [scientific, spelled], hc, by simp, hexponent⟩
  · refine ⟨[c], some (d :: cs), _, by simp [scientific, spelled], hc, ?_, hexponent⟩
    rintro es ⟨⟩
    exact ⟨by simp, fun e he => hdigits e (List.mem_cons_of_mem _ he)⟩

/-- A positive decimal is spelled that way. -/
lemma isSpelled_text {d : Decimal} (h : d.coefficient ≠ 0) : IsSpelled d.text := by
  unfold text
  dsimp only
  split
  · exact isSpelled_pointed (areWhole_digits _).1 (digits_ne_zero_cons h) _
  · exact isSpelled_scientific (areWhole_digits _).1 _

end Decimal

/-! ## Shortest decimals -/

/-- Every place but the first is that of a positive double. -/
lemma Double.unitsAt_pos {place : Nat} (h : place ≠ 0) : 0 < unitsAt place := by
  unfold unitsAt
  dsimp only
  have hfractions : 0 < fractions := by
    decide
  split
  · rename_i hexponent
    rw [Nat.div_eq_zero_iff_lt hfractions] at hexponent
    rw [Nat.mod_eq_of_lt hexponent]
    exact Nat.pos_of_ne_zero h
  · exact Nat.mul_pos (by omega) (Nat.pow_pos (by decide))

namespace Decimal

/-- A grid point that is found rounds to the double. -/
lemma Scaled.contains_of_nearestPoint? {s : Scaled} {point : Nat}
    (h : s.nearestPoint? = some point) : s.contains point = true := by
  unfold nearestPoint? at h
  dsimp only at h
  split at h <;> grind

/-- Zero does not round to a positive double. -/
lemma Scaled.contains_zero {place : Nat} (h : place ≠ 0) (power : Int) :
    (ofPlace place power).contains 0 = false := by
  have hlow : 0 < (ofPlace place power).low :=
    Nat.mul_pos (Nat.add_pos_right _ (Double.unitsAt_pos h)) (Nat.pow_pos (by decide))
  unfold contains
  simp only [Nat.zero_mul]
  split
  · simp
    omega
  · simp

/-- The shortest decimal is positive, or it is the one that stands for none. -/
lemma shortest_positive {place : Nat} (h : place ≠ 0) :
    (shortest place).coefficient ≠ 0 ∨ shortest place = ⟨0, 0⟩ := by
  unfold shortest
  dsimp only
  generalize hfound : List.findSome? _ _ = found
  rcases found with _ | d
  · exact .inr rfl
  · obtain ⟨i, -, hi⟩ := List.exists_of_findSome?_eq_some hfound
    obtain ⟨point, hpoint, rfl⟩ := Option.map_eq_some_iff.mp hi
    refine .inl ?_
    rintro hzero
    have hcontains := Scaled.contains_of_nearestPoint? hpoint
    rw [show point = 0 from hzero, Scaled.contains_zero h] at hcontains
    cases hcontains

end Decimal

/-! ## Numbers -/

/-- The text of a double is a numeral. -/
lemma Double.isSome_ofBytes?_text (d : Double) :
    (Numeral.ofBytes? (utf8 d.text)).isSome = true := by
  have habsolute : Decimal.IsSpelled
      (if d.place = 0 then ['0', '.', '0'] else (Decimal.shortest d.place).text) := by
    have hzero : Decimal.IsSpelled ['0', '.', '0'] :=
      Decimal.isSpelled_point (Numeral.areWhole_digits 0) (Numeral.areWhole_digits 0).1
    split
    · exact hzero
    · rename_i hplace
      rcases Decimal.shortest_positive hplace with hpositive | hnone
      · exact Decimal.isSpelled_text hpositive
      · rw [hnone]
        exact hzero
  obtain ⟨whole, fraction, exponent, htext, hwhole, hfraction, hexponent⟩ := habsolute
  unfold Double.text
  dsimp only
  rw [htext]
  exact Numeral.isSome_ofBytes?_spelled hwhole hfraction hexponent d.negative

/-- **Every number is written as a numeral.** -/
theorem Number.ofBytes?_text (n : Number) :
    Numeral.ofBytes? (utf8 n.text) = some n.numeral := by
  have hsome : (Numeral.ofBytes? (utf8 n.text)).isSome = true := by
    cases n with
    | integer value fits =>
      rw [text, ofBytes?_integerText]
      rfl
    | double d => exact d.isSome_ofBytes?_text
  obtain ⟨m, hm⟩ := Option.isSome_iff_exists.mp hsome
  rw [numeral, hm, Option.getD_some]

/-- The text of a number begins with a minus sign or a digit. -/
lemma Number.exists_head (n : Number) :
    ∃ b bs, utf8 n.text = b :: bs ∧ (b = 0x2D ∨ Numeral.isDigit b = true) := by
  have hread := n.ofBytes?_text
  rcases hb : utf8 n.text with _ | ⟨b, bs⟩
  · rw [hb] at hread
    cases hread
  · rw [hb] at hread
    exact ⟨b, bs, rfl, head_of_ofBytes? hread⟩

end ScriptHost
