import ScriptHost.Execution.Comparison
import ScriptHost.Proofs.Json.Sameness

/-!
# Hashing of results and progress

A hash is fed with JSON data as text, and equality compares it as data. Two values that are the same
are fed alike just when they are equal, and so a hash set takes up, in order, the items that equal
none before them. The items are discerned when those that are the same are equal. Just then all
items that are the same are fed alike, and just then a hash set takes up the first item of each
class of items that are the same, and no other.

Items are not discerned when they hold the two zeros among the doubles, which are the same and have
two texts. They are when no zero has a minus sign, at any depth.

## Main definitions

* `numbers` of `RunResult`, `PendingCall` and `Progress` — the numbers in their JSON data.
* `ScriptHost.IsFirst` — an item of a list for which none before it is taken.
* `ScriptHost.Discerned` — items that are the same are equal.
* `ScriptHost.HashLaw` — what is fed to a hash for items, and which of them a hash set takes up.
* `ScriptHost.Compared` — how the values of a type are compared and fed.

## Main results

* `ScriptHost.mem_firstIndices_iff` — a hash set takes up the items that equal none before them.
* `ScriptHost.firsts_iff` — when these are the first items of the classes.
* `ScriptHost.Compared.hashLaw` — the law of a type follows from how its values are compared.
* `ScriptHost.hash_law` — the law of results, pending calls and progress.
* `ScriptHost.zeros_fed_apart` — the two zeros are the same result, and a hash set takes up both.
-/

namespace ScriptHost

/-! ## Hash sets -/

/-- Item `i` of a list is there, and nothing before it is taken for it. -/
def IsFirst {α : Type} (taken : α → α → Prop) (items : List α) (i : Nat) : Prop :=
  ∃ item, items[i]? = some item ∧ ∀ other ∈ items.take i, ¬ taken other item

/-- Items that are the same are equal. -/
def Discerned {α : Type} (same : α → α → Bool) (items : List α) : Prop :=
  ∀ a ∈ items, ∀ b ∈ items, same a b = true → a = b

section

variable {α : Type} {feed : α → List Fed} {same : α → α → Bool}

/-- Of values that are the same only equal ones are fed alike, so an item is known just when it is
in the set. -/
lemma isKnown_iff (hrefl : ∀ a, same a a = true)
    (hfeed : ∀ a b, same a b = true → feed a = feed b → a = b) (kept : List α) (item : α) :
    isKnown feed same kept item = true ↔ item ∈ kept := by
  simp only [isKnown, List.any_eq_true, Bool.and_eq_true, beq_iff_eq]
  constructor
  · rintro ⟨other, hmem, hfed, hsame⟩
    exact hfeed other item hsame hfed ▸ hmem
  · intro hmem
    exact ⟨item, hmem, rfl, hrefl item⟩

/-- What is not among the first items of a list is neither the first one nor among those behind
it. -/
lemma notMem_take_succ_cons {item first : α} {rest : List α} {j : Nat} :
    item ∉ (first :: rest).take (j + 1) ↔ item ≠ first ∧ item ∉ rest.take j := by
  rw [List.take_succ_cons, List.mem_cons, not_or]

/-- A hash set takes up the items that are neither in it nor among the items before.

**Proof sketch.** By induction on the items, for every set. When the first item is in the set it is
passed over, and to be among the items before means the same with it and without it; when it is
not, it is put into the set, where the later items find it. -/
lemma mem_firstIndicesFrom (hrefl : ∀ a, same a a = true)
    (hfeed : ∀ a b, same a b = true → feed a = feed b → a = b) (items : List α) :
    ∀ (kept : List α) (index i : Nat), i ∈ firstIndicesFrom feed same index kept items ↔
      ∃ j item, i = index + j ∧ items[j]? = some item ∧ item ∉ kept ∧ item ∉ items.take j := by
  induction items with
  | nil => simp [firstIndicesFrom]
  | cons first rest ih =>
    intro kept index i
    rw [firstIndicesFrom]
    by_cases hknown : first ∈ kept
    · rw [if_pos ((isKnown_iff hrefl hfeed kept first).mpr hknown), ih]
      constructor
      · rintro ⟨j, item, rfl, hitem, hkept, hbefore⟩
        have hne : item ≠ first := fun heq => hkept (heq ▸ hknown)
        exact ⟨j + 1, item, by omega, hitem, hkept, notMem_take_succ_cons.mpr ⟨hne, hbefore⟩⟩
      · rintro ⟨j, item, rfl, hitem, hkept, hbefore⟩
        cases j with
        | zero =>
          obtain rfl : first = item := by simpa using hitem
          exact absurd hknown hkept
        | succ j =>
          exact ⟨j, item, by omega, hitem, hkept, (notMem_take_succ_cons.mp hbefore).2⟩
    · have hnew : ¬ isKnown feed same kept first = true := fun h =>
        hknown ((isKnown_iff hrefl hfeed kept first).mp h)
      rw [if_neg hnew, List.mem_cons, ih]
      constructor
      · rintro (rfl | ⟨j, item, rfl, hitem, hkept, hbefore⟩)
        · exact ⟨0, first, rfl, rfl, hknown, by simp⟩
        · rw [List.mem_cons, not_or] at hkept
          exact ⟨j + 1, item, by omega, hitem, hkept.2,
            notMem_take_succ_cons.mpr ⟨hkept.1, hbefore⟩⟩
      · rintro ⟨j, item, rfl, hitem, hkept, hbefore⟩
        cases j with
        | zero => exact .inl rfl
        | succ j =>
          obtain ⟨hne, hbefore⟩ := notMem_take_succ_cons.mp hbefore
          refine .inr ⟨j, item, by omega, hitem, ?_, hbefore⟩
          rw [List.mem_cons, not_or]
          exact ⟨hne, hkept⟩

/-- A hash set takes up the items that equal none before them. -/
theorem mem_firstIndices_iff (hrefl : ∀ a, same a a = true)
    (hfeed : ∀ a b, same a b = true → feed a = feed b → a = b) (items : List α) (i : Nat) :
    i ∈ firstIndices feed same items ↔ IsFirst (· = ·) items i := by
  rw [firstIndices, mem_firstIndicesFrom hrefl hfeed]
  constructor
  · rintro ⟨j, item, rfl, hitem, -, hbefore⟩
    rw [Nat.zero_add]
    exact ⟨item, hitem, fun other hother heq => hbefore (heq ▸ hother)⟩
  · rintro ⟨item, hitem, hbefore⟩
    exact ⟨i, item, by omega, hitem, by simp, fun hmem => hbefore item hmem rfl⟩

/-- The items are taken up in order, from the given index on. -/
lemma firstIndicesFrom_sorted (items : List α) : ∀ (kept : List α) (index : Nat),
    (firstIndicesFrom feed same index kept items).Pairwise (· < ·) ∧
      ∀ i ∈ firstIndicesFrom feed same index kept items, index ≤ i := by
  induction items with
  | nil => simp [firstIndicesFrom]
  | cons first rest ih =>
    intro kept index
    rw [firstIndicesFrom]
    split
    · obtain ⟨hsorted, hle⟩ := ih kept (index + 1)
      exact ⟨hsorted, fun i hi => Nat.le_of_succ_le (hle i hi)⟩
    · obtain ⟨hsorted, hle⟩ := ih (first :: kept) (index + 1)
      refine ⟨List.pairwise_cons.mpr ⟨fun i hi => hle i hi, hsorted⟩, fun i hi => ?_⟩
      rcases List.mem_cons.mp hi with rfl | hi
      · exact Nat.le_refl i
      · exact Nat.le_of_succ_le (hle i hi)

/-- An item stands somewhere for the first time. -/
lemma exists_first {items : List α} {a : α} (h : a ∈ items) :
    ∃ i, items[i]? = some a ∧ IsFirst (· = ·) items i := by
  obtain ⟨before, behind, rfl, hnot⟩ := List.eq_append_cons_of_mem h
  refine ⟨before.length, by simp, a, by simp, fun other hother heq => hnot ?_⟩
  rwa [List.take_left, heq] at hother

/-- An item that is a first one in a list has no item before it that is taken for it. -/
lemma IsFirst.not_taken {taken : α → α → Prop} {items : List α} {i j : Nat} {a b : α}
    (h : IsFirst taken items j) (hb : items[j]? = some b) (ha : items[i]? = some a)
    (hlt : i < j) : ¬ taken a b := by
  obtain ⟨item, hitem, hnone⟩ := h
  obtain rfl : item = b := Option.some.inj (hitem.symm.trans hb)
  refine hnone a (List.mem_of_getElem? (i := i) ?_)
  rw [List.getElem?_take_of_lt hlt, ha]

/-- The first ones of equal items are the first ones of items that are the same just when the items
are discerned.

**Proof sketch.** From left to right, two items that are the same stand somewhere for the first
time. If one of these places is before the other, the other one is no first one of items that are
the same; so they are one place, and the items are equal. -/
lemma firsts_iff (hrefl : ∀ a, same a a = true) (hcomm : ∀ a b, same a b = same b a)
    (items : List α) :
    (∀ i, IsFirst (· = ·) items i ↔ IsFirst (same · · = true) items i) ↔ Discerned same items := by
  constructor
  · intro h a ha b hb hsame
    obtain ⟨i, hi, hfirsti⟩ := exists_first ha
    obtain ⟨j, hj, hfirstj⟩ := exists_first hb
    rcases Nat.lt_trichotomy i j with hlt | rfl | hlt
    · exact absurd hsame (((h j).mp hfirstj).not_taken hj hi hlt)
    · exact Option.some.inj (hi.symm.trans hj)
    · exact absurd ((hcomm b a).trans hsame) (((h i).mp hfirsti).not_taken hi hj hlt)
  · intro h i
    constructor
    · rintro ⟨item, hitem, hnone⟩
      refine ⟨item, hitem, fun other hother hsame => hnone other hother ?_⟩
      exact h other (List.mem_of_mem_take hother) item (List.mem_of_getElem? hitem) hsame
    · rintro ⟨item, hitem, hnone⟩
      exact ⟨item, hitem, fun other hother heq => hnone other hother (heq ▸ hrefl other)⟩

end

/-! ## The law -/

/-- What is fed to a hash for items of a type, and which of them a hash set takes up; `numbers` are
the numbers in the JSON data of a value. -/
structure HashLaw {α : Type} (feed : α → List Fed) (same : α → α → Bool)
    (numbers : α → List Number) (items : List α) : Prop where
  /-- Items that are the same are fed alike just when they are equal. -/
  feed_iff : ∀ a ∈ items, ∀ b ∈ items, same a b = true → (feed a = feed b ↔ a = b)
  /-- A hash set takes up items in order. -/
  sorted : (firstIndices feed same items).Pairwise (· < ·)
  /-- A hash set takes up the items that equal none before them. -/
  mem_iff : ∀ i, i ∈ firstIndices feed same items ↔ IsFirst (· = ·) items i
  /-- All items that are the same are fed alike just when the items are discerned. -/
  alike_iff : (∀ a ∈ items, ∀ b ∈ items, same a b = true → feed a = feed b) ↔ Discerned same items
  /-- A hash set takes up the first item of each class of items that are the same, and no other,
  just when the items are discerned. -/
  first_iff : (∀ i, i ∈ firstIndices feed same items ↔ IsFirst (same · · = true) items i) ↔
    Discerned same items
  /-- The items are discerned when no zero of theirs has a minus sign. -/
  discerned : (∀ item ∈ items, Number.minusZero ∉ numbers item) → Discerned same items

/-- How the values of a type are compared and fed: sameness is reflexive and symmetric, and values
that are the same are equal when they are fed alike, and when no zero of theirs has a minus sign. -/
structure Compared {α : Type} (feed : α → List Fed) (same : α → α → Bool)
    (numbers : α → List Number) : Prop where
  /-- A value is the same as itself. -/
  refl : ∀ a, same a a = true
  /-- Sameness is symmetric. -/
  comm : ∀ a b, same a b = same b a
  /-- Values that are the same and are fed alike are equal. -/
  eq_of_feed : ∀ a b, same a b = true → feed a = feed b → a = b
  /-- Values that are the same are equal when no zero of theirs has a minus sign. -/
  eq_of_numbers : ∀ a b, same a b = true → Number.minusZero ∉ numbers a →
    Number.minusZero ∉ numbers b → a = b

/-- The law holds of all items of a type whose values are so compared. -/
lemma Compared.hashLaw {α : Type} {feed : α → List Fed} {same : α → α → Bool}
    {numbers : α → List Number} (h : Compared feed same numbers) (items : List α) :
    HashLaw feed same numbers items := by
  have hmem := mem_firstIndices_iff h.refl h.eq_of_feed items
  refine ⟨?_, (firstIndicesFrom_sorted items [] 0).1, hmem, ?_, ?_, ?_⟩
  · intro a ha b hb hsame
    exact ⟨h.eq_of_feed a b hsame, fun heq => heq ▸ rfl⟩
  · constructor
    · intro halike a ha b hb hsame
      exact h.eq_of_feed a b hsame (halike a ha b hb hsame)
    · intro hdiscerned a ha b hb hsame
      rw [hdiscerned a ha b hb hsame]
  · simp only [hmem]
    exact firsts_iff h.refl h.comm items
  · intro hitems a ha b hb hsame
    exact h.eq_of_numbers a b hsame (hitems a ha) (hitems b hb)

/-! ## Parts -/

section

variable {α : Type} {same : α → α → Bool}

/-- Comparison of optional values is reflexive when that of values is. -/
lemma sameOption_refl (hrefl : ∀ a, same a a = true) (a : Option α) :
    sameOption same a a = true := by
  cases a with
  | none => rfl
  | some a => exact hrefl a

/-- Comparison of optional values is symmetric when that of values is. -/
lemma sameOption_comm (hcomm : ∀ a b, same a b = same b a) (a b : Option α) :
    sameOption same a b = sameOption same b a := by
  cases a with
  | none => cases b <;> rfl
  | some a =>
    cases b with
    | none => rfl
    | some b => exact hcomm a b

end

/-- The numbers in an optional value. -/
def Json.numbersOfOption (value : Option Json) : List Number :=
  value.elim [] Json.numbers

/-- Optional values that are the same are equal when no zero of theirs has a minus sign. -/
lemma eq_of_sameOption {a b : Option Json} (h : sameOption Json.same a b = true)
    (ha : Number.minusZero ∉ Json.numbersOfOption a)
    (hb : Number.minusZero ∉ Json.numbersOfOption b) : a = b := by
  cases a with
  | none => cases b <;> simp_all [sameOption]
  | some a =>
    cases b with
    | none => simp [sameOption] at h
    | some b => rw [Json.eq_of_same h ha hb]

/-- Optional values that are the same and begin two equal rows are equal. -/
lemma eq_of_sameOption_of_feed {a b : Option Json} (h : sameOption Json.same a b = true)
    {r s : List Fed}
    (hfed : Fed.option Fed.ofJson a ++ r = Fed.option Fed.ofJson b ++ s) : a = b ∧ r = s := by
  cases a with
  | none => cases b <;> simp_all [sameOption, Fed.option]
  | some a =>
    cases b with
    | none => simp [sameOption] at h
    | some b =>
      simp only [Fed.option, Fed.ofJson, List.cons_append, List.nil_append, List.cons.injEq,
        Fed.text.injEq, true_and] at hfed
      rw [Json.eq_of_same_of_text h hfed.1]
      exact ⟨rfl, hfed.2⟩

/-- Items that are the same and begin two equal rows are equal, though their number is not fed. -/
lemma eq_of_agreeItems_of_feed : ∀ {xs ys : List Json} {r s : List Fed},
    Json.agreeItems Number.sameNumber xs ys = true →
    xs.flatMap Fed.ofJson ++ r = ys.flatMap Fed.ofJson ++ s → xs = ys ∧ r = s
  | [], ys, r, s, h, hfed => by cases ys <;> simp_all [Json.agreeItems]
  | x :: xs, [], r, s, h, hfed => by simp [Json.agreeItems] at h
  | x :: xs, y :: ys, r, s, h, hfed => by
    simp only [Json.agreeItems, Bool.and_eq_true] at h
    simp only [List.flatMap_cons, Fed.ofJson, List.cons_append, List.nil_append, List.cons.injEq,
      Fed.text.injEq] at hfed
    obtain ⟨rfl, hrest⟩ := eq_of_agreeItems_of_feed h.2 hfed.2
    rw [Json.eq_of_same_of_text h.1 hfed.1]
    exact ⟨rfl, hrest⟩

/-! ## Results -/

namespace RunResult

/-- The numbers in the value of a result. -/
def numbers (result : RunResult) : List Number :=
  Json.numbersOfOption result.value

/-- Results are the same when their values are and all else is equal. -/
lemma same_iff (a b : RunResult) : a.same b = true ↔
    sameOption Json.same a.value b.value = true ∧ a.error = b.error ∧ a.usage = b.usage := by
  simp [same, and_assoc]

/-- Results are compared by their values. -/
lemma compared : Compared feed same numbers := by
  refine ⟨?_, ?_, ?_, ?_⟩
  · intro a
    exact (same_iff a a).mpr ⟨sameOption_refl Json.same_refl a.value, rfl, rfl⟩
  · intro a b
    rw [same, same, sameOption_comm Json.same_comm, BEq.comm (a := a.error),
      BEq.comm (a := a.usage)]
  · intro a b h hfed
    obtain ⟨hvalue, herror, husage⟩ := (same_iff a b).mp h
    simp only [feed, List.append_assoc] at hfed
    obtain ⟨heq, -⟩ := eq_of_sameOption_of_feed hvalue hfed
    cases a
    cases b
    simp_all
  · intro a b h ha hb
    obtain ⟨hvalue, herror, husage⟩ := (same_iff a b).mp h
    have heq := eq_of_sameOption hvalue ha hb
    cases a
    cases b
    simp_all

end RunResult

/-! ## Pending calls -/

namespace PendingCall

/-- The numbers in the arguments of a call. -/
def numbers (call : PendingCall) : List Number :=
  Json.numbers (.arr call.arguments) ++ Json.numbersOfOption call.kwargsJson

/-- Calls with the same parts are equal: the keyword arguments are known by their value. -/
lemma eq_of_parts {a b : PendingCall} (hfunction : a.function = b.function)
    (harguments : a.arguments = b.arguments) (hkwargs : a.kwargsJson = b.kwargsJson)
    (hid : a.callId = b.callId) (hmethod : a.isMethod = b.isMethod) : a = b := by
  have hdict : Function.Injective Json.ofDict := fun c d h => Dict.ext (Json.obj.inj h)
  have hkw : a.kwargs = b.kwargs := Option.map_injective hdict hkwargs
  cases a
  cases b
  simp_all

/-- Calls are the same when their arguments are and all else is equal. -/
lemma same_iff (a b : PendingCall) : a.same b = true ↔
    a.function = b.function ∧ Json.same (.arr a.arguments) (.arr b.arguments) = true ∧
      sameOption Json.same a.kwargsJson b.kwargsJson = true ∧ a.callId = b.callId ∧
      a.isMethod = b.isMethod := by
  simp [same, and_assoc]

/-- Pending calls are compared by their arguments. -/
lemma compared : Compared feed same numbers := by
  refine ⟨?_, ?_, ?_, ?_⟩
  · intro a
    exact (same_iff a a).mpr
      ⟨rfl, Json.same_refl _, sameOption_refl Json.same_refl a.kwargsJson, rfl, rfl⟩
  · intro a b
    rw [same, same, Json.same_comm (.arr a.arguments), sameOption_comm Json.same_comm,
      BEq.comm (a := a.function), BEq.comm (a := a.callId), BEq.comm (a := a.isMethod)]
  · intro a b h hfed
    obtain ⟨hfunction, harguments, hkwargs, hid, hmethod⟩ := (same_iff a b).mp h
    simp only [feed, List.append_assoc, hfunction, List.append_cancel_left_eq] at hfed
    obtain ⟨hargs, hrest⟩ := eq_of_agreeItems_of_feed harguments hfed
    obtain ⟨hkw, -⟩ := eq_of_sameOption_of_feed hkwargs hrest
    exact eq_of_parts hfunction hargs hkw hid hmethod
  · intro a b h ha hb
    obtain ⟨hfunction, harguments, hkwargs, hid, hmethod⟩ := (same_iff a b).mp h
    simp only [numbers, List.mem_append, not_or] at ha hb
    have hargs := Json.arr.inj (Json.eq_of_same harguments ha.1 hb.1)
    exact eq_of_parts hfunction hargs (eq_of_sameOption hkwargs ha.2 hb.2) hid hmethod

end PendingCall

/-! ## Progress -/

namespace Progress

/-- The numbers in the result or in the call that waits. -/
def numbers : Progress → List Number
  | complete result => result.numbers
  | pending call => call.numbers
  | futures _ => []

/-- Progress is compared by its case, which is fed first, and then as the case is. -/
lemma compared : Compared feed same numbers := by
  have hresult := RunResult.compared
  have hcall := PendingCall.compared
  refine ⟨?_, ?_, ?_, ?_⟩
  · rintro (result | call | ids)
    · exact hresult.refl result
    · exact hcall.refl call
    · simp [same]
  · rintro (result | call | ids) (result' | call' | ids') <;> try rfl
    · exact hresult.comm result result'
    · exact hcall.comm call call'
    · exact BEq.comm
  · rintro (result | call | ids) (result' | call' | ids') h hfed <;> try simp [same] at h
    · rw [hresult.eq_of_feed result result' h (List.cons.inj hfed).2]
    · rw [hcall.eq_of_feed call call' h (List.cons.inj hfed).2]
    · rw [h]
  · rintro (result | call | ids) (result' | call' | ids') h ha hb <;> try simp [same] at h
    · rw [hresult.eq_of_numbers result result' h ha hb]
    · rw [hcall.eq_of_numbers call call' h ha hb]
    · rw [h]

end Progress

/-! ## Results, calls and progress -/

/-- **Hashing of results, pending calls and progress.** Items that are the same are fed alike just
when they are equal. A hash set takes up, in order, the items that equal none before them; these are
the first items of each class of items that are the same just when the items are discerned, and they
are when no zero of theirs has a minus sign. -/
theorem hash_law (results : List RunResult) (calls : List PendingCall) (steps : List Progress) :
    HashLaw RunResult.feed RunResult.same RunResult.numbers results ∧
      HashLaw PendingCall.feed PendingCall.same PendingCall.numbers calls ∧
      HashLaw Progress.feed Progress.same Progress.numbers steps :=
  ⟨RunResult.compared.hashLaw results, PendingCall.compared.hashLaw calls,
    Progress.compared.hashLaw steps⟩

/-- The result of a run that used nothing and ended with a zero. -/
def zeroResult (negative : Bool) : RunResult :=
  .success (.num (.double (Double.zero negative))) Usage.zero

/-- The two zeros are the same result and are fed apart, and a hash set takes up both. -/
theorem zeros_fed_apart : (zeroResult false).same (zeroResult true) = true ∧
    (zeroResult false).feed ≠ (zeroResult true).feed ∧
    firstIndices RunResult.feed RunResult.same [zeroResult false, zeroResult true] = [0, 1] := by
  decide

end ScriptHost
