import Mathlib.Tactic.Lemma
import ScriptHost.Json.Printer

/-!
# Values that are the same

Values that are the same as data agree in everything but their numbers, and their numbers are the
same one by one. So they are equal when their numbers are, and the only numbers that are the same
and yet differ are the two zeros among the doubles. A text tells the zeros apart: values that are
the same and have the same compact text are equal.

## Main definitions

* `ScriptHost.Json.numbers` — the numbers in a value, at any depth.
* `ScriptHost.Number.minusZero` — the zero with a minus sign.

## Main results

* `ScriptHost.Json.same_comm` — sameness is symmetric.
* `ScriptHost.Json.eq_of_agree` — values that agree under a test which only equal numbers of theirs
  pass are equal.
* `ScriptHost.Json.eq_of_same_of_text` — values that are the same and have one text are equal.
-/

namespace ScriptHost

/-! ## Numbers -/

namespace Double

/-- Sameness of doubles is symmetric. -/
lemma sameNumber_comm (a b : Double) : a.sameNumber b = b.sameNumber a := by
  by_cases hplace : a.place = b.place
  · rw [sameNumber, sameNumber, hplace, BEq.comm (a := a.negative)]
  · have hplace' : b.place ≠ a.place := fun h => hplace h.symm
    rw [sameNumber, sameNumber, beq_false_of_ne hplace, beq_false_of_ne hplace']
    rfl

/-- Doubles that are the same are equal, or they are zeros. -/
lemma eq_or_zero {a b : Double} (h : a.sameNumber b = true) :
    a = b ∨ a.place = 0 ∧ b.place = 0 ∧ a.negative ≠ b.negative := by
  simp only [sameNumber, Bool.and_eq_true, Bool.or_eq_true, beq_iff_eq] at h
  obtain ⟨hplace, hsign⟩ := h
  by_cases hneg : a.negative = b.negative
  · cases a
    cases b
    exact .inl (by simp_all)
  · have hzero : a.place = 0 := hsign.resolve_left hneg
    exact .inr ⟨hzero, hplace ▸ hzero, hneg⟩

end Double

namespace Number

/-- The zero with a minus sign. -/
def minusZero : Number :=
  .double (Double.zero true)

/-- Sameness of numbers is symmetric. -/
lemma sameNumber_comm (m n : Number) : m.sameNumber n = n.sameNumber m := by
  cases m <;> cases n <;> simp [sameNumber, Double.sameNumber_comm, BEq.comm]

/-- Numbers that are the same are equal, or one of them is the zero with a minus sign. -/
lemma eq_of_sameNumber {m n : Number} (h : m.sameNumber n = true) (hm : m ≠ minusZero)
    (hn : n ≠ minusZero) : m = n := by
  cases m with
  | integer a ha =>
    cases n with
    | integer b hb => simpa [sameNumber] using h
    | double b => simp [sameNumber] at h
  | double a =>
    cases n with
    | integer b hb => simp [sameNumber] at h
    | double b =>
      have hzero {d : Double} (hplace : d.place = 0) (hd : Number.double d ≠ minusZero) :
          d.negative = false := by
        refine Bool.eq_false_iff.mpr fun hneg => hd ?_
        cases d
        simp_all [minusZero, Double.zero]
      obtain rfl | ⟨ha, hb, hneg⟩ := Double.eq_or_zero h
      · rfl
      · exact absurd ((hzero ha hm).trans (hzero hb hn).symm) hneg

/-- Numbers that are the same and begin two equal texts are equal. The two zeros differ in their
first character. -/
lemma eq_of_sameNumber_of_text {m n : Number} (h : m.sameNumber n = true) {r s : List Char}
    (htext : m.text ++ r = n.text ++ s) : m = n ∧ r = s := by
  have hcancel (heq : m = n) : m = n ∧ r = s := by
    subst heq
    exact ⟨rfl, List.append_cancel_left htext⟩
  cases m with
  | integer a ha =>
    cases n with
    | integer b hb => exact hcancel (by simpa [sameNumber] using h)
    | double b => simp [sameNumber] at h
  | double a =>
    cases n with
    | integer b hb => simp [sameNumber] at h
    | double b =>
      obtain rfl | ⟨ha, hb, hneg⟩ := Double.eq_or_zero h
      · exact hcancel rfl
      · cases hna : a.negative <;> cases hnb : b.negative <;>
          simp [text, Double.text, ha, hb, hna, hnb] at htext hneg

end Number

namespace Json

/-! ## The numbers in a value -/

mutual

/-- The numbers in a value, at any depth. -/
def numbers : Json → List Number
  | num n => [n]
  | arr items => numbersOfItems items
  | obj fields => numbersOfFields fields
  | null => []
  | bool _ => []
  | str _ => []

/-- The numbers in items. -/
def numbersOfItems : List Json → List Number
  | [] => []
  | x :: xs => numbers x ++ numbersOfItems xs

/-- The numbers in the values of fields. -/
def numbersOfFields : List (String × Json) → List Number
  | [] => []
  | (_, x) :: xs => numbers x ++ numbersOfFields xs

end

/-- The numbers in items are those in each of them. -/
lemma mem_numbersOfItems {n : Number} {xs : List Json} :
    n ∈ numbersOfItems xs ↔ ∃ x ∈ xs, n ∈ x.numbers := by
  induction xs with
  | nil => simp [numbersOfItems]
  | cons x xs ih => simp [numbersOfItems, ih]

/-- The numbers in fields are those in the value of each of them. -/
lemma mem_numbersOfFields {n : Number} {fields : List (String × Json)} :
    n ∈ numbersOfFields fields ↔ ∃ field ∈ fields, n ∈ field.2.numbers := by
  induction fields with
  | nil => simp [numbersOfFields]
  | cons field fields ih => simp [numbersOfFields, ih]

/-! ## Symmetry -/

mutual

/-- Agreement of values as data is symmetric. -/
lemma agree_comm :
    ∀ a b : Json, agree Number.sameNumber a b = agree Number.sameNumber b a
  | null, b => by cases b <;> rfl
  | bool _, b => by cases b <;> simp [agree, BEq.comm]
  | num m, b => by
    cases b with
    | num n => exact Number.sameNumber_comm m n
    | _ => rfl
  | str _, b => by cases b <;> simp [agree, BEq.comm]
  | arr xs, b => by
    cases b with
    | arr ys => exact agreeItems_comm xs ys
    | _ => rfl
  | obj xs, b => by
    cases b with
    | obj ys => exact agreeFields_comm xs ys
    | _ => rfl

/-- Agreement of items as data is symmetric. -/
lemma agreeItems_comm :
    ∀ xs ys : List Json, agreeItems Number.sameNumber xs ys = agreeItems Number.sameNumber ys xs
  | [], ys => by cases ys <;> rfl
  | x :: xs, [] => rfl
  | x :: xs, y :: ys => by
    rw [agreeItems, agreeItems, agree_comm x y, agreeItems_comm xs ys]

/-- Agreement of fields as data is symmetric. -/
lemma agreeFields_comm : ∀ xs ys : List (String × Json),
    agreeFields Number.sameNumber xs ys = agreeFields Number.sameNumber ys xs
  | [], ys => by cases ys <;> rfl
  | (k, x) :: xs, [] => rfl
  | (k, x) :: xs, (l, y) :: ys => by
    rw [agreeFields, agreeFields, agree_comm x y, agreeFields_comm xs ys, BEq.comm]

end

/-- Sameness is symmetric. -/
theorem same_comm (a b : Json) : a.same b = b.same a :=
  agree_comm a b

/-! ## From agreement to equality -/

section

variable {test : Number → Number → Bool}

mutual

/-- Values that agree under a test are equal when the test holds of their numbers only where these
are equal. -/
theorem eq_of_agree : ∀ {a b : Json}, agree test a b = true →
    (∀ m ∈ a.numbers, ∀ n ∈ b.numbers, test m n = true → m = n) → a = b
  | null, b, h, _ => by cases b <;> simp_all [agree]
  | bool _, b, h, _ => by cases b <;> simp_all [agree]
  | num m, b, h, hn => by
    cases b with
    | num n => rw [hn m (by simp [numbers]) n (by simp [numbers]) h]
    | _ => simp [agree] at h
  | str _, b, h, _ => by cases b <;> simp_all [agree]
  | arr xs, b, h, hn => by
    cases b with
    | arr ys => rw [eq_of_agreeItems h hn]
    | _ => simp [agree] at h
  | obj xs, b, h, hn => by
    cases b with
    | obj ys => rw [eq_of_agreeFields h hn]
    | _ => simp [agree] at h

/-- Items that agree under a test are equal when the test holds of their numbers only where these
are equal. -/
theorem eq_of_agreeItems : ∀ {xs ys : List Json}, agreeItems test xs ys = true →
    (∀ m ∈ numbersOfItems xs, ∀ n ∈ numbersOfItems ys, test m n = true → m = n) → xs = ys
  | [], ys, h, _ => by cases ys <;> simp_all [agreeItems]
  | x :: xs, [], h, _ => by simp [agreeItems] at h
  | x :: xs, y :: ys, h, hn => by
    simp only [agreeItems, Bool.and_eq_true] at h
    simp only [numbersOfItems, List.mem_append] at hn
    rw [eq_of_agree h.1 fun m hm n hy => hn m (.inl hm) n (.inl hy),
      eq_of_agreeItems h.2 fun m hm n hy => hn m (.inr hm) n (.inr hy)]

/-- Fields that agree under a test are equal when the test holds of their numbers only where these
are equal. -/
theorem eq_of_agreeFields : ∀ {xs ys : List (String × Json)}, agreeFields test xs ys = true →
    (∀ m ∈ numbersOfFields xs, ∀ n ∈ numbersOfFields ys, test m n = true → m = n) → xs = ys
  | [], ys, h, _ => by cases ys <;> simp_all [agreeFields]
  | (k, x) :: xs, [], h, _ => by simp [agreeFields] at h
  | (k, x) :: xs, (l, y) :: ys, h, hn => by
    simp only [agreeFields, Bool.and_eq_true, beq_iff_eq] at h
    simp only [numbersOfFields, List.mem_append] at hn
    rw [h.1.1, eq_of_agree h.1.2 fun m hm n hy => hn m (.inl hm) n (.inl hy),
      eq_of_agreeFields h.2 fun m hm n hy => hn m (.inr hm) n (.inr hy)]

end

end

/-- Values that are the same are equal when no zero of theirs has a minus sign. -/
theorem eq_of_same {a b : Json} (h : a.same b = true) (ha : Number.minusZero ∉ a.numbers)
    (hb : Number.minusZero ∉ b.numbers) : a = b := by
  refine eq_of_agree h fun m hm n hn hsame => Number.eq_of_sameNumber hsame ?_ ?_
  · rintro rfl
    exact ha hm
  · rintro rfl
    exact hb hn

/-! ## From one text to equality -/

mutual

/-- Values that are the same and begin two equal texts are equal.

**Proof sketch.** Sameness fixes the shape, so the texts have the same marks at the same places and
the same quoted texts between them; taking these away, what is left begins with the text of the next
part on either side. At the numbers the two zeros are told apart by their first character. -/
lemma eq_of_agree_of_text : ∀ {a b : Json} {r s : List Char}, agree Number.sameNumber a b = true →
    text a ++ r = text b ++ s → a = b ∧ r = s
  | null, b, r, s, h, ht => by cases b <;> simp_all [agree]
  | bool _, b, r, s, h, ht => by cases b <;> simp_all [agree]
  | num m, b, r, s, h, ht => by
    cases b with
    | num n =>
      obtain ⟨rfl, hrest⟩ := Number.eq_of_sameNumber_of_text h ht
      exact ⟨rfl, hrest⟩
    | _ => simp [agree] at h
  | str _, b, r, s, h, ht => by cases b <;> simp_all [agree]
  | arr xs, b, r, s, h, ht => by
    cases b with
    | arr ys =>
      match xs, ys, h with
      | [], [], _ => simpa [text] using ht
      | x :: xs, y :: ys, h =>
        simp only [agree, agreeItems, Bool.and_eq_true] at h
        simp only [text, List.cons_append, List.append_assoc, List.cons.injEq, true_and] at ht
        obtain ⟨rfl, hitems⟩ := eq_of_agree_of_text h.1 ht
        obtain ⟨rfl, hrest⟩ := eq_of_agreeItems_of_text h.2 hitems
        simpa using hrest
    | _ => simp [agree] at h
  | obj xs, b, r, s, h, ht => by
    cases b with
    | obj ys =>
      match xs, ys, h with
      | [], [], _ => simpa [text] using ht
      | (k, x) :: xs, (l, y) :: ys, h =>
        simp only [agree, agreeFields, Bool.and_eq_true, beq_iff_eq] at h
        obtain ⟨⟨rfl, hx⟩, hxs⟩ := h
        simp only [text, List.cons_append, List.append_assoc, List.cons.injEq, true_and] at ht
        have hvalue := (List.cons.inj (List.append_cancel_left ht)).2
        obtain ⟨rfl, hfields⟩ := eq_of_agree_of_text hx hvalue
        obtain ⟨rfl, hrest⟩ := eq_of_agreeFields_of_text hxs hfields
        simpa using hrest
    | _ => simp [agree] at h

/-- Items that are the same and begin two equal texts are equal. -/
lemma eq_of_agreeItems_of_text : ∀ {xs ys : List Json} {r s : List Char},
    agreeItems Number.sameNumber xs ys = true → itemsText xs ++ r = itemsText ys ++ s →
    xs = ys ∧ r = s
  | [], ys, r, s, h, ht => by cases ys <;> simp_all [agreeItems]
  | x :: xs, [], r, s, h, ht => by simp [agreeItems] at h
  | x :: xs, y :: ys, r, s, h, ht => by
    simp only [agreeItems, Bool.and_eq_true] at h
    simp only [itemsText, List.cons_append, List.append_assoc, List.cons.injEq, true_and] at ht
    obtain ⟨rfl, hitems⟩ := eq_of_agree_of_text h.1 ht
    obtain ⟨rfl, hrest⟩ := eq_of_agreeItems_of_text h.2 hitems
    exact ⟨rfl, hrest⟩

/-- Fields that are the same and begin two equal texts are equal. -/
lemma eq_of_agreeFields_of_text : ∀ {xs ys : List (String × Json)} {r s : List Char},
    agreeFields Number.sameNumber xs ys = true → fieldsText xs ++ r = fieldsText ys ++ s →
    xs = ys ∧ r = s
  | [], ys, r, s, h, ht => by cases ys <;> simp_all [agreeFields]
  | (k, x) :: xs, [], r, s, h, ht => by simp [agreeFields] at h
  | (k, x) :: xs, (l, y) :: ys, r, s, h, ht => by
    simp only [agreeFields, Bool.and_eq_true, beq_iff_eq] at h
    obtain ⟨⟨rfl, hx⟩, hxs⟩ := h
    simp only [fieldsText, List.cons_append, List.append_assoc, List.cons.injEq, true_and] at ht
    have hvalue := (List.cons.inj (List.append_cancel_left ht)).2
    obtain ⟨rfl, hfields⟩ := eq_of_agree_of_text hx hvalue
    obtain ⟨rfl, hrest⟩ := eq_of_agreeFields_of_text hxs hfields
    exact ⟨rfl, hrest⟩

end

/-- Values that are the same and have one compact text are equal. -/
theorem eq_of_same_of_text {a b : Json} (h : a.same b = true) (ht : a.compact = b.compact) :
    a = b := by
  have htext : a.text = b.text := String.ofList_injective ht
  exact (eq_of_agree_of_text (r := []) (s := []) h (by rw [htext])).1

end Json

end ScriptHost
