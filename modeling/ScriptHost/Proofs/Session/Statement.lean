import ScriptHost.Proofs.Json.Spelling
import ScriptHost.Session.Literal
import ScriptHost.Text.Identifier

/-!
# Whole statements

A statement of the scripting language that stands on one line is read from left to right. Brackets
wait for the ones that close them, and between quotes a backslash takes the next character along.
The statement is whole when it is read to its end and nothing is left open there: then no character
of it ends the statement, begins a comment or a longer quotation, or carries the statement over to
the next line.

Names and literals are read over from every place outside of quotes, whatever follows them.

## Main definitions

* `ScriptHost.Statement.Place`, `ScriptHost.Statement.Place.next` — where the reader of a statement
  is, and where it gets by one character.
* `ScriptHost.Statement.awaitedAfter` — the brackets that are left open.
* `ScriptHost.Statement.IsWhole` — statements in which nothing is left open.
* `ScriptHost.Statement.IsPlain` — texts that mean nothing to the reader.

## Main results

* `ScriptHost.Statement.IsWhole.lineBreak_notMem` — whole statements have no line breaks.
* `ScriptHost.Statement.awaitedAfter_literal` — literals are read over.
* `ScriptHost.Statement.isPlain_of_isIdentifier` — names are plain.
-/

namespace ScriptHost.Statement

open Json (escape escape_eq quoted)

/-! ## Reading a statement -/

/-- Where the reader of a statement is, with the brackets that it waits for, the next one first. -/
inductive Place where
  /-- Outside of quotes. -/
  | outside (awaited : List Char)
  /-- Between quotes. -/
  | inside (awaited : List Char)
  /-- Between quotes and right behind a backslash. -/
  | escaped (awaited : List Char)
  /-- Right behind a closing quote. -/
  | behind (awaited : List Char)

namespace Place

/-- The characters that end a statement, begin a comment or another kind of quotation, or carry a
statement over to the next line, when they stand outside of quotes. -/
def breaks : List Char :=
  ['\n', '\r', ';', '#', '\x27', '\\']

/-- The brackets that close others. -/
def closing : List Char :=
  [')', ']', '}']

/-- Where the reader gets from outside of quotes. -/
def nextOutside (awaited : List Char) (c : Char) : Option Place :=
  if c ∈ breaks then none
  else if c = '"' then some (inside awaited)
  else if c = '(' then some (outside (')' :: awaited))
  else if c = '[' then some (outside (']' :: awaited))
  else if c = '{' then some (outside ('}' :: awaited))
  else if c ∈ closing then
    if awaited.head? = some c then some (outside awaited.tail) else none
  else some (outside awaited)

/-- Where the reader gets by one character; nowhere when the statement does not go on with it on
the same line. A quote right behind a closing one begins a longer quotation and is not read. -/
def next : Place → Char → Option Place
  | outside awaited, c => nextOutside awaited c
  | inside awaited, c =>
    if c = '\n' ∨ c = '\r' then none
    else if c = '"' then some (behind awaited)
    else if c = '\\' then some (escaped awaited)
    else some (inside awaited)
  | escaped awaited, c => if c = '\n' ∨ c = '\r' then none else some (inside awaited)
  | behind awaited, c => if c = '"' then none else nextOutside awaited c

/-- The characters that mean something to the reader outside of quotes. -/
def marks : List Char :=
  breaks ++ '"' :: '(' :: '[' :: '{' :: closing

end Place

open Place

/-- The brackets that the reader waits for behind a text. There is no such list when the text is
not read to its end, or ends between quotes. -/
def awaitedAfter : Place → List Char → Option (List Char)
  | outside awaited, [] => some awaited
  | behind awaited, [] => some awaited
  | inside _, [] => none
  | escaped _, [] => none
  | place, c :: cs => (place.next c).bind (awaitedAfter · cs)

/-- A statement on one line that leaves nothing open. -/
def IsWhole (statement : List Char) : Prop :=
  awaitedAfter (outside []) statement = some []

instance (statement : List Char) : Decidable (IsWhole statement) :=
  inferInstanceAs (Decidable (awaitedAfter (outside []) statement = some []))

lemma awaitedAfter_cons (place : Place) (c : Char) (cs : List Char) :
    awaitedAfter place (c :: cs) = (place.next c).bind (awaitedAfter · cs) := by
  cases place <;> rfl

/-- No line break is read at any place. -/
lemma next_lineBreak {c : Char} (hc : c = '\n' ∨ c = '\r') (place : Place) :
    place.next c = none := by
  rcases hc with rfl | rfl <;> cases place <;> rfl

/-- A text that is read to its end has no line breaks. -/
lemma lineBreak_notMem {c : Char} (hc : c = '\n' ∨ c = '\r') {place : Place}
    {text awaited : List Char} (h : awaitedAfter place text = some awaited) : c ∉ text := by
  induction text generalizing place with
  | nil => exact List.not_mem_nil
  | cons d rest ih =>
    rw [awaitedAfter_cons] at h
    obtain ⟨there, hnext, hrest⟩ := Option.bind_eq_some_iff.mp h
    rintro (_ | ⟨_, hmem⟩)
    · rw [next_lineBreak hc] at hnext
      cases hnext
    · exact ih hrest hmem

/-- Whole statements have no line breaks. -/
lemma IsWhole.lineBreak_notMem {statement : List Char} (h : IsWhole statement) :
    '\n' ∉ statement ∧ '\r' ∉ statement :=
  ⟨Statement.lineBreak_notMem (.inl rfl) h, Statement.lineBreak_notMem (.inr rfl) h⟩

/-! ## Texts that are read over -/

/-- Texts whose characters mean nothing to the reader outside of quotes. -/
def IsPlain (text : List Char) : Prop :=
  ∀ c ∈ text, c ∉ marks

instance (text : List Char) : Decidable (IsPlain text) :=
  List.decidableBAll (fun c : Char => c ∉ marks) text

lemma IsPlain.append {text more : List Char} (h : IsPlain text) (h' : IsPlain more) :
    IsPlain (text ++ more) :=
  List.forall_mem_append.mpr ⟨h, h'⟩

section Reading

variable (awaited : List Char)

/-- Plain texts are read over. -/
lemma awaitedAfter_plain {text : List Char} (h : IsPlain text) (rest : List Char) :
    awaitedAfter (outside awaited) (text ++ rest) = awaitedAfter (outside awaited) rest := by
  induction text with
  | nil => rfl
  | cons c cs ih =>
    have hc : c ∉ marks := h c List.mem_cons_self
    have hnext : (outside awaited).next c = some (outside awaited) := by
      simp only [marks, List.mem_append, List.mem_cons, not_or] at hc
      simp [next, nextOutside, hc]
    rw [List.cons_append, awaitedAfter_cons, hnext]
    exact ih fun d hd => h d (List.mem_cons_of_mem _ hd)

/-- Behind a closing quote the reader goes on as outside of quotes, unless there is another
quote. -/
lemma awaitedAfter_behind {rest : List Char} (h : rest.head? ≠ some '"') :
    awaitedAfter (behind awaited) rest = awaitedAfter (outside awaited) rest := by
  cases rest with
  | nil => rfl
  | cons c cs =>
    have hc : c ≠ '"' := by simpa using h
    simp [awaitedAfter_cons, next, hc]

/-- Between quotes the reader stays there by a character that is neither a quote nor a backslash nor
a control character. -/
lemma next_inside {c : Char} (hquote : c ≠ '"') (hslash : c ≠ '\\') (hlow : ¬ c.toNat < 0x20) :
    (inside awaited).next c = some (inside awaited) := by
  have hbreak : ¬ (c = '\n' ∨ c = '\r') := by
    rintro (rfl | rfl) <;> exact hlow (by decide)
  rw [next, if_neg hbreak, if_neg hquote, if_neg hslash]

/-- Between quotes the characters that stand for a character are read over. -/
lemma awaitedAfter_escape (c : Char) (rest : List Char) :
    awaitedAfter (inside awaited) (escape c ++ rest) = awaitedAfter (inside awaited) rest := by
  by_cases hshort : c ∈ ['"', '\\', '\x08', '\x0C', '\n', '\r', '\t']
  · simp only [List.mem_cons, List.not_mem_nil, or_false] at hshort
    rcases hshort with rfl | rfl | rfl | rfl | rfl | rfl | rfl <;> rfl
  · rw [escape_eq hshort]
    split
    · have hdigit : ∀ n < 16, Nat.digitChar n ≠ '"' ∧ Nat.digitChar n ≠ '\\' ∧
          ¬ (Nat.digitChar n).toNat < 0x20 := by
        decide
      obtain ⟨hquote, hslash, hlow⟩ := hdigit (c.toNat / 16) (by omega)
      obtain ⟨hquote', hslash', hlow'⟩ := hdigit (c.toNat % 16) (by omega)
      show ((inside awaited).next _).bind (awaitedAfter · (_ :: rest)) = _
      rw [next_inside awaited hquote hslash hlow, Option.bind_some, awaitedAfter_cons,
        next_inside awaited hquote' hslash' hlow', Option.bind_some]
    · rename_i hlow
      simp only [List.mem_cons, not_or] at hshort
      rw [List.singleton_append, awaitedAfter_cons, next_inside awaited hshort.1 hshort.2.1 hlow]
      rfl

/-- A quoted text is read over, unless another quote follows. -/
lemma awaitedAfter_quoted (s : String) {rest : List Char} (h : rest.head? ≠ some '"') :
    awaitedAfter (outside awaited) (quoted s ++ rest) = awaitedAfter (outside awaited) rest := by
  have hinside : ∀ cs : List Char,
      awaitedAfter (inside awaited) (cs.flatMap escape ++ '"' :: rest) =
        awaitedAfter (behind awaited) rest := by
    intro cs
    induction cs with
    | nil => rfl
    | cons c cs ih => rw [List.flatMap_cons, List.append_assoc, awaitedAfter_escape, ih]
  rw [quoted, List.cons_append, List.append_assoc, List.singleton_append,
    ← awaitedAfter_behind awaited h, ← hinside s.toList]
  rfl

end Reading

/-! ## Literals -/

/-- The text of a number is plain. -/
lemma isPlain_number (n : Number) : IsPlain n.text := by
  intro c hc hmark
  have hnone : marks.all (fun c => !isNumeralChar c) = true := by decide
  have hnumeral := List.all_eq_true.mp hnone c hmark
  rw [Number.isNumeralChar_of_mem hc] at hnumeral
  cases hnumeral

/-- Further items do not begin with a quote. -/
lemma head?_itemsText (xs : List Json) {rest : List Char} (h : rest.head? ≠ some '"') :
    (Literal.itemsText xs ++ rest).head? ≠ some '"' := by
  cases xs with
  | nil => exact h
  | cons x xs => simp [Literal.itemsText]

/-- Further fields do not begin with a quote. -/
lemma head?_fieldsText (xs : List (String × Json)) {rest : List Char} (h : rest.head? ≠ some '"') :
    (Literal.fieldsText xs ++ rest).head? ≠ some '"' := by
  cases xs with
  | nil => exact h
  | cons x xs => simp [Literal.fieldsText]

/-- A key with a colon is read over. -/
lemma awaitedAfter_key (awaited : List Char) (k : String) (rest : List Char) :
    awaitedAfter (outside awaited) (quoted k ++ ':' :: ' ' :: rest) =
      awaitedAfter (outside awaited) rest :=
  awaitedAfter_quoted awaited k (by simp)

mutual

/-- A literal is read over, unless a quote follows. -/
lemma awaitedAfter_literal : ∀ (value : Json) (awaited : List Char) {rest : List Char},
    rest.head? ≠ some '"' →
      awaitedAfter (outside awaited) (Literal.text value ++ rest) =
        awaitedAfter (outside awaited) rest
  | .null, awaited, rest, _ => awaitedAfter_plain awaited (by decide) rest
  | .bool true, awaited, rest, _ => awaitedAfter_plain awaited (by decide) rest
  | .bool false, awaited, rest, _ => awaitedAfter_plain awaited (by decide) rest
  | .num n, awaited, rest, _ => awaitedAfter_plain awaited (isPlain_number n) rest
  | .str s, awaited, _, h => awaitedAfter_quoted awaited s h
  | .arr [], _, _, _ => rfl
  | .arr (x :: xs), awaited, rest, _ => by
    have hclose : (']' :: rest).head? ≠ some '"' := by simp
    calc
      awaitedAfter (outside awaited) (Literal.text (.arr (x :: xs)) ++ rest)
      _ = awaitedAfter (outside (']' :: awaited))
          (Literal.text x ++ (Literal.itemsText xs ++ ']' :: rest)) := by
        simp only [Literal.text, List.cons_append, List.append_assoc, List.nil_append]
        rfl
      _ = awaitedAfter (outside (']' :: awaited)) (']' :: rest) := by
        rw [awaitedAfter_literal x _ (head?_itemsText xs hclose), awaitedAfter_items xs _ hclose]
      _ = awaitedAfter (outside awaited) rest := rfl
  | .obj [], _, _, _ => rfl
  | .obj ((k, x) :: xs), awaited, rest, _ => by
    have hclose : ('}' :: rest).head? ≠ some '"' := by simp
    calc
      awaitedAfter (outside awaited) (Literal.text (.obj ((k, x) :: xs)) ++ rest)
      _ = awaitedAfter (outside ('}' :: awaited)) (quoted k ++ ':' :: ' ' ::
          (Literal.text x ++ (Literal.fieldsText xs ++ '}' :: rest))) := by
        simp only [Literal.text, List.cons_append, List.append_assoc, List.nil_append]
        rfl
      _ = awaitedAfter (outside ('}' :: awaited)) ('}' :: rest) := by
        rw [awaitedAfter_key, awaitedAfter_literal x _ (head?_fieldsText xs hclose),
          awaitedAfter_fields xs _ hclose]
      _ = awaitedAfter (outside awaited) rest := rfl

/-- Further items are read over, unless a quote follows. -/
lemma awaitedAfter_items : ∀ (xs : List Json) (awaited : List Char) {rest : List Char},
    rest.head? ≠ some '"' →
      awaitedAfter (outside awaited) (Literal.itemsText xs ++ rest) =
        awaitedAfter (outside awaited) rest
  | [], _, _, _ => rfl
  | x :: xs, awaited, rest, h => by
    calc
      awaitedAfter (outside awaited) (Literal.itemsText (x :: xs) ++ rest)
      _ = awaitedAfter (outside awaited) (Literal.text x ++ (Literal.itemsText xs ++ rest)) := by
        simp only [Literal.itemsText, List.cons_append, List.append_assoc]
        rfl
      _ = awaitedAfter (outside awaited) rest := by
        rw [awaitedAfter_literal x _ (head?_itemsText xs h), awaitedAfter_items xs _ h]

/-- Further fields are read over, unless a quote follows. -/
lemma awaitedAfter_fields : ∀ (xs : List (String × Json)) (awaited : List Char) {rest : List Char},
    rest.head? ≠ some '"' →
      awaitedAfter (outside awaited) (Literal.fieldsText xs ++ rest) =
        awaitedAfter (outside awaited) rest
  | [], _, _, _ => rfl
  | (k, x) :: xs, awaited, rest, h => by
    calc
      awaitedAfter (outside awaited) (Literal.fieldsText ((k, x) :: xs) ++ rest)
      _ = awaitedAfter (outside awaited) (quoted k ++ ':' :: ' ' ::
          (Literal.text x ++ (Literal.fieldsText xs ++ rest))) := by
        simp only [Literal.fieldsText, List.cons_append, List.append_assoc]
        rfl
      _ = awaitedAfter (outside awaited) rest := by
        rw [awaitedAfter_key, awaitedAfter_literal x _ (head?_fieldsText xs h),
          awaitedAfter_fields xs _ h]

end

/-! ## Names -/

/-- All characters of a name may go on a name. -/
lemma continuesName_of_mem {name : String} (h : Text.isIdentifier name = true) {c : Char}
    (hc : c ∈ name.toList) : Text.continuesName c = true := by
  rw [Text.isIdentifier, Bool.and_eq_true] at h
  cases hname : name.toList with
  | nil =>
    rw [hname] at hc
    cases hc
  | cons first rest =>
    rw [hname, Text.isNameShaped, Bool.and_eq_true, List.all_eq_true] at h
    rw [hname] at hc
    rcases List.mem_cons.mp hc with rfl | hc
    · have hstarts : c = '_' ∨ Text.isAlphabetic c = true := by
        simpa [Text.startsName] using h.1.1
      simp only [Text.continuesName, Text.isAlphanumeric, Bool.or_eq_true, beq_iff_eq]
      exact hstarts.imp_right .inl
    · exact h.1.2 c hc

/-- Neither a blank nor a character that means something to the reader may go on a name. -/
lemma continuesName_of_mem_marks {c : Char} (h : c ∈ ' ' :: marks) :
    Text.continuesName c = false := by
  have hnone : (' ' :: marks).all (fun c => !Text.continuesName c) = true := by
    decide +kernel
  simpa using List.all_eq_true.mp hnone c h

/-- Names have no blanks. -/
lemma blank_notMem_of_isIdentifier {name : String} (h : Text.isIdentifier name = true) :
    ' ' ∉ name.toList := by
  intro hmem
  have hcontinues := continuesName_of_mem h hmem
  rw [continuesName_of_mem_marks List.mem_cons_self] at hcontinues
  cases hcontinues

/-- Names are plain. -/
lemma isPlain_of_isIdentifier {name : String} (h : Text.isIdentifier name = true) :
    IsPlain name.toList := by
  intro c hmem hmark
  have hcontinues := continuesName_of_mem h hmem
  rw [continuesName_of_mem_marks (List.mem_cons_of_mem _ hmark)] at hcontinues
  cases hcontinues

end ScriptHost.Statement
