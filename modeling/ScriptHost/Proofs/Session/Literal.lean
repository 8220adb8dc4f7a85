import ScriptHost.Proofs.Json.Sameness
import ScriptHost.Proofs.Json.Spelling
import ScriptHost.Session.Literal
import ScriptHost.Text.Identifier

/-!
# Literals read back

A reader of the literals of the scripting language: the three words, number tokens, texts in double
quotes with the escapes of the language, lists and dictionaries, with blanks and line breaks between
the parts of a container and a comma behind its last part where one likes. How a number token is
read is left open.

The reader gives back every value from its literal and stops behind it, whatever follows, provided
that nothing follows or a comma, a closing bracket or a line feed. So the literals of two values are
never the same. All that is asked is that the numbers of the values are read from their texts.

## Main definitions

* `ScriptHost.Literal.Inside`, `ScriptHost.Literal.next` — the reading of a quoted text, character
  by character.
* `ScriptHost.Literal.row?` — reads the parts of a container.
* `ScriptHost.Literal.read?` — reads a literal at the beginning of a text.
* `ScriptHost.Literal.Ends` — what may follow a literal.
* `ScriptHost.Literal.Knows` — the numbers of a value are read from their texts.

## Main results

* `ScriptHost.Literal.quoted?_text` — a quoted text is read back.
* `ScriptHost.Literal.row?_intercalate` — the parts of a container are read back when each part is.
* `ScriptHost.Literal.read?_literal` — every value is read back, and from no other literal.
-/

namespace ScriptHost.Literal

/-! ## Quoted texts -/

/-- Where the reading of a quoted text is. The characters so far stand with the latest first. -/
inductive Inside where
  /-- Between two characters. -/
  | plain (done : List Char)
  /-- Behind a backslash. -/
  | escaped (done : List Char)
  /-- In the hexadecimal digits of a code, some of which are missing. -/
  | hex (done : List Char) (missing code : Nat)
  /-- In the octal digits of a code, which some more may follow. -/
  | octal (done : List Char) (left code : Nat)
  /-- Behind the closing quote. -/
  | closed (text : String)

/-- The characters that stand for one character behind a backslash, with this character. -/
def shortEscapes : List (Char × Char) :=
  [('\\', '\\'), ('\x27', '\x27'), ('"', '"'), ('a', '\x07'), ('b', '\x08'), ('f', '\x0C'),
    ('n', '\n'), ('r', '\r'), ('t', '\t'), ('v', '\x0B')]

/-- The characters behind a backslash that a code follows, with its number of digits. -/
def codeEscapes : List (Char × Nat) :=
  [('x', 2), ('u', 4), ('U', 8)]

/-- The value of a digit in a base up to sixteen. -/
def digitValue? (base : Nat) (c : Char) : Option Nat :=
  (['0', '1', '2', '3', '4', '5', '6', '7', '8', '9', 'a', 'b', 'c', 'd', 'e', 'f'].take
    base).idxOf? c.toLower

/-- The character of a code; there is none for a surrogate or past the last code. -/
def char? (code : Nat) : Option Char :=
  if code.isValidChar then some (Char.ofNat code) else none

/-- Reads a character behind another one. A line does not end inside quotes. -/
def nextPlain (done : List Char) (c : Char) : Option Inside :=
  if c = '"' then some (.closed (String.ofList done.reverse))
  else if c = '\\' then some (.escaped done)
  else if c ∈ ['\n', '\r', '\x00'] then none
  else some (.plain (c :: done))

/-- Reads a character behind a backslash. A line feed is left out, characters are not known by name,
and a backslash that escapes nothing stands for itself. -/
def nextEscaped (done : List Char) (c : Char) : Option Inside :=
  match shortEscapes.lookup c, codeEscapes.lookup c, digitValue? 8 c with
  | some short, _, _ => some (.plain (short :: done))
  | none, some digits, _ => some (.hex done digits 0)
  | none, none, some value => some (.octal done 2 value)
  | none, none, none =>
    if c = '\n' then some (.plain done)
    else if c ∈ ['N', '\r', '\x00'] then none
    else some (.plain (c :: '\\' :: done))

/-- Reads a character of a quoted text. -/
def next : Inside → Char → Option Inside
  | .plain done, c => nextPlain done c
  | .escaped done, c => nextEscaped done c
  | .hex done missing code, c =>
    (digitValue? 16 c).bind fun value =>
      if missing = 1 then (char? (16 * code + value)).map fun c => .plain (c :: done)
      else some (.hex done (missing - 1) (16 * code + value))
  | .octal done left code, c =>
    match left, digitValue? 8 c with
    | left + 1, some value => some (.octal done left (8 * code + value))
    | _, _ => nextPlain (Char.ofNat code :: done) c
  | .closed _, _ => none

/-- Reads a quoted text to its end. -/
def inside? : Inside → List Char → Option (String × List Char)
  | .closed s, cs => some (s, cs)
  | _, [] => none
  | inside, c :: cs => (next inside c).bind (inside? · cs)

/-- Reads a quoted text behind its opening quote. Three quotes open another kind of text. -/
def quoted? (cs : List Char) : Option (String × List Char) :=
  if cs.take 2 = ['"', '"'] then none else inside? (.plain []) cs

lemma inside?_closed (s : String) (cs : List Char) : inside? (.closed s) cs = some (s, cs) := by
  cases cs <;> rfl

lemma inside?_cons {inside after : Inside} {c : Char} (h : next inside c = some after)
    (cs : List Char) : inside? inside (c :: cs) = inside? after cs := by
  cases inside with
  | closed s => cases h
  | _ => simp [inside?, h]

/-- Characters are read from where the characters before them led. -/
lemma inside?_append {cs : List Char} {inside after : Inside}
    (h : cs.foldlM next inside = some after) (rest : List Char) :
    inside? inside (cs ++ rest) = inside? after rest := by
  induction cs generalizing inside with
  | nil =>
    cases h
    rfl
  | cons c cs ih =>
    obtain ⟨between, hc, hcs⟩ := Option.bind_eq_some_iff.mp h
    rw [List.cons_append, inside?_cons hc, ih hcs]

lemma digitValue?_digitChar {d : Nat} (h : d < 16) : digitValue? 16 (Nat.digitChar d) = some d := by
  have hall : ∀ d < 16, digitValue? 16 (Nat.digitChar d) = some d := by decide
  exact hall d h

lemma char?_toNat (c : Char) : char? c.toNat = some c := by
  have hvalid : c.toNat.isValidChar := c.valid
  rw [char?, if_pos hvalid, Char.ofNat_toNat]

/-- The escape of a character is read as the character.

**Proof sketch.** The short escapes of data are among those of the language. A code of four digits
begins with two zeros, and the other two are the halves of the code. Every other character stands
for itself. -/
lemma foldlM_escape (c : Char) (done : List Char) :
    (Json.escape c).foldlM next (.plain done) = some (.plain (c :: done)) := by
  by_cases hshort : c ∈ ['"', '\\', '\x08', '\x0C', '\n', '\r', '\t']
  · simp only [List.mem_cons, List.not_mem_nil, or_false] at hshort
    rcases hshort with rfl | rfl | rfl | rfl | rfl | rfl | rfl <;> rfl
  · rw [Json.escape_eq hshort]
    split
    · rename_i hlow
      have hhigh := digitValue?_digitChar (d := c.toNat / 16) (by omega)
      have hlowest := digitValue?_digitChar (d := c.toNat % 16) (by omega)
      have hcode : 16 * (c.toNat / 16) + c.toNat % 16 = c.toNat := Nat.div_add_mod _ _
      have hfirst : next (.hex done 2 0) (Nat.digitChar (c.toNat / 16)) =
          some (.hex done 1 (c.toNat / 16)) := by
        simp [next, hhigh]
      have hsecond : next (.hex done 1 (c.toNat / 16)) (Nat.digitChar (c.toNat % 16)) =
          some (.plain (c :: done)) := by
        simp [next, hlowest, hcode, char?_toNat]
      calc ['\\', 'u', '0', '0', Nat.digitChar (c.toNat / 16),
            Nat.digitChar (c.toNat % 16)].foldlM next (.plain done)
          = [Nat.digitChar (c.toNat / 16), Nat.digitChar (c.toNat % 16)].foldlM next
              (.hex done 2 0) := rfl
        _ = some (.plain (c :: done)) := by simp [hfirst, hsecond]
    · rename_i hlow
      simp only [List.mem_cons, List.not_mem_nil, or_false, not_or] at hshort
      have hplain : c ∉ ['\n', '\r', '\x00'] := by
        simp only [List.mem_cons, List.not_mem_nil, or_false, not_or]
        refine ⟨hshort.2.2.2.2.1, hshort.2.2.2.2.2.1, ?_⟩
        rintro rfl
        exact hlow (by decide)
      simp [next, nextPlain, hshort.1, hshort.2.1, hplain]

/-- The escapes of characters are read as the characters. -/
lemma foldlM_escapes (cs done : List Char) :
    (cs.flatMap Json.escape).foldlM next (.plain done) = some (.plain (cs.reverse ++ done)) := by
  induction cs generalizing done with
  | nil => rfl
  | cons c cs ih =>
    rw [List.flatMap_cons, List.foldlM_append, foldlM_escape]
    simp [ih]

/-- The escape of a character does not begin with a quote. -/
lemma exists_escape_eq_cons (c : Char) : ∃ d ds, Json.escape c = d :: ds ∧ d ≠ '"' := by
  by_cases hshort : c ∈ ['"', '\\', '\x08', '\x0C', '\n', '\r', '\t']
  · simp only [List.mem_cons, List.not_mem_nil, or_false] at hshort
    rcases hshort with rfl | rfl | rfl | rfl | rfl | rfl | rfl <;> exact ⟨'\\', _, rfl, by decide⟩
  · rw [Json.escape_eq hshort]
    split
    · exact ⟨'\\', _, rfl, by decide⟩
    · exact ⟨c, [], rfl, fun h => hshort (h ▸ List.mem_cons_self)⟩

/-- A quoted text is read back. -/
theorem quoted?_text (s : String) {rest : List Char} (h : rest.head? ≠ some '"') :
    quoted? (s.toList.flatMap Json.escape ++ '"' :: rest) = some (s, rest) := by
  have hsingle : (s.toList.flatMap Json.escape ++ '"' :: rest).take 2 ≠ ['"', '"'] := by
    cases s.toList with
    | nil =>
      cases rest with
      | nil => simp
      | cons c rest => simpa using h
    | cons c cs =>
      obtain ⟨d, ds, hd, hquote⟩ := exists_escape_eq_cons c
      simp [hd, hquote]
  have hclose : next (.plain (s.toList.reverse ++ [])) '"' = some (.closed s) := by
    simp [next, nextPlain]
  rw [quoted?, if_neg hsingle, inside?_append (foldlM_escapes s.toList []), inside?_cons hclose,
    inside?_closed]

-- Data is not written with these escapes, but the reader knows them.
example : quoted? ['\\', 'x', '4', '1', '\\', '1', '0', '1', '\\', 'q', '"', ']'] =
    some ("AA\\q", [']']) := by
  decide

/-! ## Words and numbers -/

/-- Whether a character may stand in a word or in a number token. -/
def isTokenChar (c : Char) : Bool :=
  Text.continuesName c || isNumeralChar c

/-- Reads a word or a number token. -/
def scalar? (number : List Char → Option Number) (cs : List Char) : Option (Json × List Char) :=
  let token := cs.takeWhile isTokenChar
  let rest := cs.dropWhile isTokenChar
  if token = noneText then some (.null, rest)
  else if token = boolText true then some (.bool true, rest)
  else if token = boolText false then some (.bool false, rest)
  else (number token).map fun n => (.num n, rest)

/-! ## Containers -/

/-- Whether a character may stand between the parts of a container. -/
def isBlank (c : Char) : Bool :=
  c ∈ [' ', '\t', '\n', '\r', '\x0C']

/-- The text behind blanks. -/
def skipBlanks (cs : List Char) : List Char :=
  cs.dropWhile isBlank

/-- Reads the parts of a container up to its closing bracket, each but the last one in front of a
comma, and at most as many parts as given. -/
def row? {α : Type} (part? : List Char → Option (α × List Char)) (close : Char) :
    Nat → List Char → Option (List α × List Char)
  | 0, _ => none
  | most + 1, cs =>
    if (skipBlanks cs).head? = some close then some ([], (skipBlanks cs).tail)
    else do
      let (a, rest) ← part? (skipBlanks cs)
      match skipBlanks rest with
      | [] => none
      | c :: rest =>
        if c = close then some ([a], rest)
        else if c = ',' then do
          let (as, rest) ← row? part? close most rest
          some (a :: as, rest)
        else none

/-- Reads a key and a value with a colon between them. -/
def field? (value? : List Char → Option (Json × List Char)) :
    List Char → Option ((String × Json) × List Char)
  | '"' :: cs => do
    let (key, rest) ← quoted? cs
    match skipBlanks rest with
    | ':' :: rest => do
      let (value, rest) ← value? (skipBlanks rest)
      some ((key, value), rest)
    | _ => none
  | _ => none

/-- Reads a literal at the beginning of a text; its containers nest less deep than the depth. -/
def value? (number : List Char → Option Number) : Nat → List Char → Option (Json × List Char)
  | 0, _ => none
  | _ + 1, [] => none
  | depth + 1, c :: cs =>
    if c = '"' then (quoted? cs).map fun (s, rest) => (.str s, rest)
    else if c = '[' then
      (row? (value? number depth) ']' (cs.length + 1) cs).map fun (xs, rest) => (.arr xs, rest)
    else if c = '{' then
      (row? (field? (value? number depth)) '}' (cs.length + 1) cs).map fun (xs, rest) =>
        (.obj xs, rest)
    else scalar? number (c :: cs)

/-- Reads a literal at the beginning of a text. -/
def read? (number : List Char → Option Number) (cs : List Char) : Option (Json × List Char) :=
  value? number cs.length cs

/-! ## What follows a literal -/

/-- What may follow a literal: nothing, or a comma, a closing bracket or a line feed. -/
def Ends (rest : List Char) : Prop :=
  ∀ c ∈ rest.head?, c ∈ [',', ']', '}', '\n']

/-- Nothing that may follow a literal goes on with a word or a number token. -/
lemma Ends.isTokenChar_eq {rest : List Char} (h : Ends rest) :
    ∀ c ∈ rest.head?, isTokenChar c = false := by
  have hnone : [',', ']', '}', '\n'].all (fun c => !isTokenChar c) = true := by decide +kernel
  exact fun c hc => by simpa using List.all_eq_true.mp hnone c (h c hc)

/-- A token is read to its end. -/
lemma token_append {token : List Char} (htoken : token.all isTokenChar = true)
    {rest : List Char} (h : Ends rest) : (token ++ rest).takeWhile isTokenChar = token ∧
      (token ++ rest).dropWhile isTokenChar = rest := by
  rw [List.all_eq_true] at htoken
  rw [List.takeWhile_append_of_pos htoken, List.dropWhile_append_of_pos htoken]
  cases rest with
  | nil => simp
  | cons c rest => simp [h.isTokenChar_eq c rfl]

/-- Nothing that may follow a literal is a quote. -/
lemma Ends.head?_ne {rest : List Char} (h : Ends rest) : rest.head? ≠ some '"' := by
  intro hquote
  exact absurd (h '"' hquote) (by decide)

/-! ## Rows -/

/-- A text that begins neither with a blank nor with a closing bracket. -/
def Begins (cs : List Char) : Prop :=
  ∃ c rest, cs = c :: rest ∧ isBlank c = false ∧ c ∉ [']', '}']

lemma skipBlanks_of_begins {cs : List Char} (h : Begins cs) (rest : List Char) :
    skipBlanks (cs ++ rest) = cs ++ rest := by
  obtain ⟨c, cs, rfl, hblank, -⟩ := h
  simp [skipBlanks, hblank]

section

variable {α : Type} {part? : List Char → Option (α × List Char)} {write : α → List Char}
  {close : Char}

/-- A part of a container is read when it begins as one. -/
lemma row?_part (hclose : close ∈ [']', '}']) {a : α} (hbegins : Begins (write a))
    {tail : List Char} {d : Char} (hd : isBlank d = false) {rest : List Char}
    (hpart : part? (write a ++ tail) = some (a, d :: rest)) (most : Nat) :
    row? part? close (most + 1) (write a ++ tail) =
      if d = close then some ([a], rest)
      else if d = ',' then (row? part? close most rest).map fun (as, rest) => (a :: as, rest)
      else none := by
  have hskip := skipBlanks_of_begins hbegins tail
  have hhead : (write a ++ tail).head? ≠ some close := by
    obtain ⟨c, cs, hcs, -, hc⟩ := hbegins
    rw [hcs]
    rintro ⟨⟩
    exact hc hclose
  have hrest : skipBlanks (d :: rest) = d :: rest := by simp [skipBlanks, hd]
  rw [row?, hskip, if_neg hhead, hpart]
  simp only [Option.bind_eq_bind, Option.bind_some, hrest]
  split
  · rfl
  · split
    · cases row? part? close most rest <;> rfl
    · rfl

/-- A blank in front of the parts is passed over. -/
lemma row?_blank (most : Nat) (cs : List Char) :
    row? part? close most (' ' :: cs) = row? part? close most cs := by
  cases most with
  | zero => rfl
  | succ most => rfl

/-- **The parts of a container are read back when each part is.**

**Proof sketch.** By induction on the parts. Behind a part stands the closing bracket, or a comma
and a blank in front of the next part; either may follow a literal, so the part is read and nothing
else. -/
theorem row?_intercalate (hclose : close ∈ [']', '}']) (as : List α) (rest : List Char)
    (hbegins : ∀ a ∈ as, Begins (write a))
    (hpart : ∀ a ∈ as, ∀ rest, Ends rest → part? (write a ++ rest) = some (a, rest)) :
    ∀ most, as.length < most →
      row? part? close most ([',', ' '].intercalate (as.map write) ++ close :: rest) =
        some (as, rest) := by
  have hmarks : isBlank close = false ∧ close ≠ ',' ∧ Ends (close :: rest) := by
    simp only [List.mem_cons, List.not_mem_nil, or_false] at hclose
    rcases hclose with rfl | rfl <;> simp [Ends, isBlank]
  obtain ⟨hblank, hcomma, hends⟩ := hmarks
  induction as with
  | nil =>
    rintro (_ | most) hmost
    · cases hmost
    · have hskip : skipBlanks (close :: rest) = close :: rest := by simp [skipBlanks, hblank]
      simp [row?, hskip]
  | cons a as ih =>
    rintro (_ | most) hmost
    · cases hmost
    have ha := hbegins a List.mem_cons_self
    have hread := hpart a List.mem_cons_self
    cases as with
    | nil =>
      rw [List.map_singleton, List.intercalate_singleton,
        row?_part hclose ha hblank (hread _ hends) most, if_pos rfl]
    | cons b as =>
      have hnext := ih (fun c hc => hbegins c (List.mem_cons_of_mem _ hc))
        (fun c hc => hpart c (List.mem_cons_of_mem _ hc)) most (by simpa using hmost)
      have hsplit : [',', ' '].intercalate ((a :: b :: as).map write) ++ close :: rest =
          write a ++ ',' :: ' ' :: ([',', ' '].intercalate ((b :: as).map write) ++
            close :: rest) := by
        simp
      have hfollows (more : List Char) : Ends (',' :: more) := by simp [Ends]
      rw [hsplit, row?_part hclose ha (by decide) (hread _ (hfollows _)) most,
        if_neg (Ne.symm hcomma), if_pos rfl, row?_blank, hnext]
      rfl

end

/-! ## The literals of containers -/

/-- The literal of a field: the key, a colon and a blank, and the value. -/
def fieldText (field : String × Json) : List Char :=
  Json.quoted field.1 ++ ':' :: ' ' :: text field.2

/-- Parts that each stand behind a comma and a blank, but for the first one, have a comma and a
blank between them. -/
lemma intercalate_map {α : Type} {write : α → List Char} {others : List α → List Char}
    (hnil : others [] = [])
    (hcons : ∀ a as, others (a :: as) = ',' :: ' ' :: (write a ++ others as)) (a : α)
    (as : List α) :
    [',', ' '].intercalate ((a :: as).map write) = write a ++ others as := by
  induction as generalizing a with
  | nil => simp [hnil]
  | cons b as ih =>
    have hothers := ih b
    rw [List.map_cons] at hothers
    rw [List.map_cons, List.map_cons, List.intercalate_cons_cons, hothers, hcons]
    simp

/-- The literal of an array has the literals of the items between brackets. -/
lemma text_arr (xs : List Json) :
    text (.arr xs) = '[' :: ([',', ' '].intercalate (xs.map text) ++ [']']) := by
  cases xs with
  | nil => rfl
  | cons x xs =>
    have hcons (y : Json) (ys : List Json) :
        itemsText (y :: ys) = ',' :: ' ' :: (text y ++ itemsText ys) := by
      rw [itemsText]
    rw [intercalate_map (by rw [itemsText]) hcons, text]

/-- The literal of an object has the literals of the fields between braces. -/
lemma text_obj (fields : List (String × Json)) :
    text (.obj fields) = '{' :: ([',', ' '].intercalate (fields.map fieldText) ++ ['}']) := by
  cases fields with
  | nil => rfl
  | cons field fields =>
    have hcons (other : String × Json) (others : List (String × Json)) :
        fieldsText (other :: others) = ',' :: ' ' :: (fieldText other ++ fieldsText others) := by
      simp [fieldsText, fieldText]
    rw [intercalate_map (by rw [fieldsText]) hcons, text]
    simp [fieldText]

/-- A part is no longer than the parts with separators between them. -/
lemma length_le_intercalate {α : Type} (separator : List α) {part : List α} {parts : List (List α)}
    (h : part ∈ parts) : part.length ≤ (separator.intercalate parts).length := by
  induction parts with
  | nil => cases h
  | cons first parts ih =>
    cases parts with
    | nil =>
      obtain rfl := List.mem_singleton.mp h
      simp
    | cons second parts =>
      rw [List.intercalate_cons_cons, List.length_append, List.length_append]
      rcases List.mem_cons.mp h with rfl | h
      · omega
      · have := ih h
        omega

/-- There are no more parts than characters when no part is empty. -/
lemma length_le_of_ne_nil {α : Type} (separator : List α) {parts : List (List α)}
    (h : ∀ part ∈ parts, part ≠ []) : parts.length ≤ (separator.intercalate parts).length := by
  induction parts with
  | nil => simp
  | cons first parts ih =>
    have hfirst := List.length_pos_iff.mpr (h first List.mem_cons_self)
    have hparts := ih fun part hpart => h part (List.mem_cons_of_mem _ hpart)
    cases parts with
    | nil =>
      rw [List.intercalate_singleton]
      exact hfirst
    | cons second parts =>
      rw [List.intercalate_cons_cons, List.length_append, List.length_append, List.length_cons]
      omega

/-! ## Values -/

/-- The numbers of a value are read from their texts. -/
def Knows (number : List Char → Option Number) (v : Json) : Prop :=
  ∀ n ∈ v.numbers, number n.text = some n

/-- The text of a number begins with a character of a numeral. -/
lemma exists_text_eq_cons (n : Number) : ∃ c cs, n.text = c :: cs ∧ isNumeralChar c = true := by
  obtain ⟨b, bs, hbytes, -⟩ := n.exists_head
  cases htext : n.text with
  | nil =>
    rw [htext] at hbytes
    cases hbytes
  | cons c cs =>
    exact ⟨c, cs, rfl, Number.isNumeralChar_of_mem (htext ▸ List.mem_cons_self)⟩

lemma ne_of_isNumeralChar {c d : Char} (hc : isNumeralChar c = true)
    (hd : isNumeralChar d = false) : c ≠ d := by
  rintro rfl
  rw [hc] at hd
  cases hd

/-- A literal begins as a part of a container does. -/
lemma begins_text (v : Json) : Begins (text v) := by
  cases v with
  | null => exact ⟨'N', _, rfl, by decide, by decide⟩
  | bool b => cases b <;> exact ⟨_, _, rfl, by decide, by decide⟩
  | num n =>
    obtain ⟨c, cs, htext, hc⟩ := exists_text_eq_cons n
    have hne {d : Char} (hd : isNumeralChar d = false) : c ≠ d := ne_of_isNumeralChar hc hd
    refine ⟨c, cs, htext, ?_, ?_⟩
    · simp [isBlank, hne (d := ' ') rfl, hne (d := '\t') rfl, hne (d := '\n') rfl,
        hne (d := '\r') rfl, hne (d := '\x0C') rfl]
    · simp [hne (d := ']') rfl, hne (d := '}') rfl]
  | str s => exact ⟨'"', _, rfl, by decide, by decide⟩
  | arr xs => exact ⟨'[', _, text_arr xs, by decide, by decide⟩
  | obj fields => exact ⟨'{', _, text_obj fields, by decide, by decide⟩

lemma begins_fieldText (field : String × Json) : Begins (fieldText field) :=
  ⟨'"', _, rfl, by decide, by decide⟩

/-- The word of null is read. -/
lemma scalar?_null (number : List Char → Option Number) {rest : List Char} (h : Ends rest) :
    scalar? number (noneText ++ rest) = some (.null, rest) := by
  have hall : noneText.all isTokenChar = true := by decide +kernel
  obtain ⟨htoken, hrest⟩ := token_append hall h
  simp only [scalar?, htoken, hrest]
  rfl

/-- The words of the truth values are read. -/
lemma scalar?_bool (number : List Char → Option Number) (b : Bool) {rest : List Char}
    (h : Ends rest) : scalar? number (boolText b ++ rest) = some (.bool b, rest) := by
  have hall : (boolText b).all isTokenChar = true := by cases b <;> decide +kernel
  obtain ⟨htoken, hrest⟩ := token_append hall h
  simp only [scalar?, htoken, hrest]
  cases b <;> rfl

/-- A number is read. -/
lemma scalar?_num {number : List Char → Option Number} {n : Number}
    (hn : number n.text = some n) {rest : List Char} (h : Ends rest) :
    scalar? number (n.text ++ rest) = some (.num n, rest) := by
  have hall : n.text.all isTokenChar = true := List.all_eq_true.mpr fun c hc => by
    rw [isTokenChar, Number.isNumeralChar_of_mem hc, Bool.or_true]
  obtain ⟨htoken, hrest⟩ := token_append hall h
  obtain ⟨c, cs, htext, hc⟩ := exists_text_eq_cons n
  have hword {d : Char} {ds : List Char} (hd : isNumeralChar d = false) : n.text ≠ d :: ds := by
    rw [htext]
    rintro ⟨⟩
    exact ne_of_isNumeralChar hc hd rfl
  have hnone : n.text ≠ noneText := hword rfl
  have htrue : n.text ≠ boolText true := hword rfl
  have hfalse : n.text ≠ boolText false := hword rfl
  simp [scalar?, htoken, hrest, hnone, htrue, hfalse, hn]

/-- A field is read when its value is. -/
lemma field?_text {read : List Char → Option (Json × List Char)} {field : String × Json}
    {rest : List Char} (h : read (text field.2 ++ rest) = some (field.2, rest)) :
    field? read (fieldText field ++ rest) = some (field, rest) := by
  have hskip : skipBlanks (' ' :: (text field.2 ++ rest)) = text field.2 ++ rest :=
    skipBlanks_of_begins (begins_text field.2) rest
  have hcolon : skipBlanks (':' :: ' ' :: (text field.2 ++ rest)) =
      ':' :: ' ' :: (text field.2 ++ rest) := rfl
  have hsplit : fieldText field ++ rest = '"' :: (field.1.toList.flatMap Json.escape ++
      '"' :: ':' :: ' ' :: (text field.2 ++ rest)) := by
    simp [fieldText, Json.quoted]
  rw [hsplit, field?, quoted?_text field.1 (by simp)]
  simp [hcolon, hskip, h]

/-- The parts of a container are read back when each part that is not too long is, as many parts as
there may be. -/
lemma row?_parts {α : Type} {part? : List Char → Option (α × List Char)} {write : α → List Char}
    {close : Char} (hclose : close ∈ [']', '}']) {as : List α} {depth : Nat}
    (hlength : ([',', ' '].intercalate (as.map write) ++ [close]).length ≤ depth)
    (hbegins : ∀ a ∈ as, Begins (write a))
    (hpart : ∀ a ∈ as, (write a).length ≤ depth → ∀ rest, Ends rest →
      part? (write a ++ rest) = some (a, rest)) (rest : List Char) :
    row? part? close (([',', ' '].intercalate (as.map write) ++ close :: rest).length + 1)
      ([',', ' '].intercalate (as.map write) ++ close :: rest) = some (as, rest) := by
  rw [List.length_append] at hlength
  refine row?_intercalate hclose as rest hbegins (fun a ha => hpart a ha ?_) _ ?_
  · have hshort := length_le_intercalate [',', ' '] (List.mem_map_of_mem (f := write) ha)
    omega
  · have hnonempty : ∀ part ∈ as.map write, part ≠ [] := by
      intro part hmem
      obtain ⟨a, ha, rfl⟩ := List.mem_map.mp hmem
      obtain ⟨c, cs, hcs, -⟩ := hbegins a ha
      rw [hcs]
      exact List.cons_ne_nil c cs
    have hcount := length_le_of_ne_nil [',', ' '] hnonempty
    rw [List.length_map] at hcount
    rw [List.length_append]
    omega

/-- Every value is read back from its literal.

**Proof sketch.** By induction on the depth, which is at least the length of the literal. Words and
numbers are tokens, quoted texts end at their closing quote, and the parts of a container are read
at the next depth. -/
lemma value?_text {number : List Char → Option Number} : ∀ (depth : Nat) (v : Json),
    (text v).length ≤ depth → Knows number v → ∀ rest, Ends rest →
      value? number depth (text v ++ rest) = some (v, rest) := by
  intro depth
  induction depth with
  | zero =>
    intro v hlength
    obtain ⟨c, cs, htext, -⟩ := begins_text v
    rw [htext] at hlength
    cases hlength
  | succ depth ih =>
    intro v hlength hknows rest hrest
    cases v with
    | null => exact scalar?_null number hrest
    | bool b =>
      have hscalar := scalar?_bool number b hrest
      cases b <;> exact hscalar
    | num n =>
      have hscalar := scalar?_num (hknows n (by simp [Json.numbers])) hrest
      obtain ⟨c, cs, htext, hc⟩ := exists_text_eq_cons n
      rw [text]
      rw [htext, List.cons_append] at hscalar ⊢
      rw [value?, if_neg (ne_of_isNumeralChar hc rfl), if_neg (ne_of_isNumeralChar hc rfl),
        if_neg (ne_of_isNumeralChar hc rfl), hscalar]
    | str s =>
      have hread := quoted?_text s hrest.head?_ne
      simp [text, Json.quoted, value?, hread]
    | arr xs =>
      rw [text_arr, List.length_cons] at hlength
      have hitem (x : Json) (hx : x ∈ xs) (hlen : (text x).length ≤ depth) :=
        ih x hlen fun n hn => hknows n (Json.mem_numbersOfItems.mpr ⟨x, hx, hn⟩)
      have hrow := row?_parts (by decide) (Nat.le_of_succ_le_succ hlength)
        (fun x _ => begins_text x) hitem rest
      rw [text_arr, List.cons_append, List.append_assoc, List.singleton_append, value?,
        if_neg (by decide), if_pos rfl, hrow]
      rfl
    | obj fields =>
      rw [text_obj, List.length_cons] at hlength
      have hfield (field : String × Json) (hf : field ∈ fields)
          (hlen : (fieldText field).length ≤ depth) (more : List Char) (hmore : Ends more) :
          field? (value? number depth) (fieldText field ++ more) = some (field, more) := by
        have hshort : (text field.2).length ≤ depth := by
          rw [fieldText, List.length_append, List.length_cons, List.length_cons] at hlen
          omega
        exact field?_text (ih field.2 hshort
          (fun n hn => hknows n (Json.mem_numbersOfFields.mpr ⟨field, hf, hn⟩)) more hmore)
      have hrow := row?_parts (by decide) (Nat.le_of_succ_le_succ hlength)
        (fun field _ => begins_fieldText field) hfield rest
      rw [text_obj, List.cons_append, List.append_assoc, List.singleton_append, value?,
        if_neg (by decide), if_neg (by decide), if_pos rfl, hrow]
      rfl

/-- **Literals read back.** The reader takes the literal of a value from the beginning of a text and
gives back the value, its fields in order, when nothing follows the literal or a comma, a closing
bracket or a line feed. No other value has this literal. All that is asked of the reader of number
tokens is that it reads the numbers of the values from their texts. -/
theorem read?_literal (number : List Char → Option Number) (v : Json) (hv : Knows number v) :
    (∀ rest, Ends rest → read? number (v.literal.toList ++ rest) = some (v, rest)) ∧
      ∀ w, Knows number w → w.literal = v.literal → w = v := by
  have hread (u : Json) (hu : Knows number u) (rest : List Char) (hrest : Ends rest) :
      read? number (u.literal.toList ++ rest) = some (u, rest) := by
    rw [Json.literal, String.toList_ofList]
    exact value?_text _ u (by simp) hu rest hrest
  refine ⟨hread v hv, fun w hw heq => ?_⟩
  have hnothing : Ends [] := by simp [Ends]
  have hboth := hread w hw [] hnothing
  rw [heq, hread v hv [] hnothing] at hboth
  cases hboth
  rfl

/-- The number that a token denotes when it is a number token of data. -/
def numeral? (cs : List Char) : Option Number :=
  (Numeral.ofBytes? (Text.utf8 cs)).bind Numeral.value?

/-- Data whose texts hold a quote and a bracket, a backslash and a line feed. -/
def tangled : Json :=
  .obj [("a\"]", .arr [.null, .num (.integer (-7) (by decide)), .arr [], .str "\\\n\x01"]),
    ("b", .obj [("", .num (.double ⟨false, 4609434218613702656, by decide⟩))])]

/-- The tangled data is read back in front of a comma. -/
theorem read?_tangled : read? numeral? (tangled.literal.toList ++ [',', ' ', '1']) =
    some (tangled, [',', ' ', '1']) := by
  have hknows : Knows numeral? tangled := by
    unfold Knows
    decide +kernel
  exact (read?_literal numeral? tangled hknows).1 [',', ' ', '1'] (by simp [Ends])

end ScriptHost.Literal
