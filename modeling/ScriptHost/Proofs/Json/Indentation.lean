import ScriptHost.Proofs.Json.RoundTrip

/-!
# Indented texts are read back

The indented text of a value has the tokens of the compact text: between values new lines and the
blanks that begin them are skipped, and so is the blank behind the colon of a field. Hence both
texts spell the same tree.

## Main results

* `ScriptHost.Json.tokens?_indented` — the tokens of the indented text of a value.
* `ScriptHost.Json.treeOfBytes?_pretty` — the indented text of a value spells its tree.
-/

namespace ScriptHost.Json

open Text

namespace Scan

/-! ## Blanks -/

/-- A blank ends words and numerals. -/
lemma ends_of_blank {b : UInt8} (h : isBlankByte b = true) :
    isWordByte b = false ∧ isNumeralByte b = false := by
  simp only [isBlankByte, Bool.or_eq_true, beq_iff_eq] at h
  rcases h with ((rfl | rfl) | rfl) | rfl <;> decide

/-- A blank between values is skipped, and closes what is open. -/
lemma Settled.step?_blank {scan : Scan} {done : List Token} (h : Settled scan done) {b : UInt8}
    (hb : isBlankByte b = true) : scan.step? b = some ⟨done, .between⟩ := by
  have hbetween : between? done b = some ⟨done, .between⟩ := by
    rw [between?, if_pos hb]
  obtain ⟨before, state⟩ := scan
  have hfinish := h.1
  cases state with
  | between =>
    cases hfinish
    exact hbetween
  | number read =>
    simp [step?, (ends_of_blank hb).2, hfinish, hbetween]
  | word read =>
    simp [step?, (ends_of_blank hb).1, hfinish, hbetween]
  | _ => cases hfinish

/-- Spaces between values are skipped. -/
lemma run_spaces (count : Nat) (done : List Token) (bs : List UInt8) :
    run ⟨done, .between⟩ (utf8 (List.replicate count ' ') ++ bs) = run ⟨done, .between⟩ bs := by
  induction count with
  | zero => rfl
  | succ count ih =>
    have hstep : step? ⟨done, .between⟩ 0x20 = some ⟨done, .between⟩ := rfl
    have hbytes : utf8 (List.replicate (count + 1) ' ') =
        0x20 :: utf8 (List.replicate count ' ') := rfl
    rw [hbytes, List.cons_append, run_cons hstep, ih]

/-- A new line between values is skipped. -/
lemma run_newLine {scan : Scan} {done : List Token} (h : Settled scan done) (depth : Nat)
    (bs : List UInt8) :
    run scan (utf8 (newLine depth) ++ bs) = run ⟨done, .between⟩ bs := by
  have hbytes : utf8 (newLine depth) = 0xA :: utf8 (List.replicate (2 * depth) ' ') := rfl
  rw [hbytes, List.cons_append, run_cons (h.step?_blank rfl), run_spaces]

/-- A new line behind punctuation is skipped. -/
lemma run_punctuationLine {scan : Scan} {done : List Token} (h : Settled scan done) {c : Char}
    {b : UInt8} {token : Token} (hc : String.utf8EncodeChar c = [b])
    (hb : between? done b = some ⟨token :: done, .between⟩)
    (htoken : (punctuation? b).isSome = true) (depth : Nat) (bs : List UInt8) :
    run scan (String.utf8EncodeChar c ++ (utf8 (newLine depth) ++ bs)) =
      run ⟨token :: done, .between⟩ bs := by
  rw [run_punctuation h hc hb htoken, run_newLine (settled_between _)]

/-- A key, the colon and the blank behind it are read as two tokens. -/
lemma run_keyBlank (k : String) (done : List Token) (bs : List UInt8) :
    run ⟨done, .between⟩
        (utf8 (quoted k) ++ (String.utf8EncodeChar ':' ++ (String.utf8EncodeChar ' ' ++ bs))) =
      run ⟨.colon :: .quoted (pieces k) :: done, .between⟩ bs := by
  rw [run_key]
  exact run_spaces 1 _ bs

/-! ## Values -/

mutual

/-- The indented text of a value is read as its tokens.

**Proof sketch.** By recursion on the value, as for the compact text; what stands between the tokens
in addition is skipped. -/
lemma run_indented : ∀ (v : Json) (depth : Nat) (done : List Token),
    ∃ scan, run ⟨done, .between⟩ (utf8 (v.indented depth)) = some scan ∧
      Settled scan (v.tokens.reverse ++ done)
  | null, _, done => ⟨_, rfl, settled_word rfl done⟩
  | bool true, _, done => ⟨_, rfl, settled_word rfl done⟩
  | bool false, _, done => ⟨_, rfl, settled_word rfl done⟩
  | num n, _, done => run_number n done
  | str s, _, done => ⟨_, run_quoted s done, settled_between _⟩
  | arr [], _, done => ⟨_, rfl, settled_between _⟩
  | arr (x :: xs), depth, done => by
    obtain ⟨scan, hx, hsettled⟩ := run_indented x (depth + 1) (.openArray :: done)
    obtain ⟨next, hxs, hnext⟩ := run_indentedItems xs (depth + 1) hsettled
    refine ⟨⟨.closeArray :: ((itemsTokens xs).reverse ++ (x.tokens.reverse ++ .openArray :: done)),
      .between⟩, ?_, ?_⟩
    · rw [indented, utf8_cons]
      simp only [utf8_append, List.append_assoc]
      rw [run_punctuationLine (settled_between done) rfl rfl rfl, run_append hx, run_append hxs,
        run_newLine hnext]
      exact run_punctuation (settled_between _) rfl rfl rfl []
    · simpa [tokens] using settled_between _
  | obj [], _, done => ⟨_, rfl, settled_between _⟩
  | obj ((k, x) :: xs), depth, done => by
    obtain ⟨scan, hx, hsettled⟩ :=
      run_indented x (depth + 1) (.colon :: .quoted (pieces k) :: .openObject :: done)
    obtain ⟨next, hxs, hnext⟩ := run_indentedFields xs (depth + 1) hsettled
    refine ⟨⟨.closeObject :: ((fieldsTokens xs).reverse ++ (x.tokens.reverse ++
      .colon :: .quoted (pieces k) :: .openObject :: done)), .between⟩, ?_, ?_⟩
    · rw [indented, utf8_cons]
      simp only [utf8_append, utf8_cons, List.append_assoc]
      rw [run_punctuationLine (settled_between done) rfl rfl rfl, run_keyBlank, run_append hx,
        run_append hxs, run_newLine hnext]
      exact run_punctuation (settled_between _) rfl rfl rfl []
    · simpa [tokens] using settled_between _

/-- The indented text of further items is read as their tokens. -/
lemma run_indentedItems : ∀ (xs : List Json) (depth : Nat) {scan : Scan} {done : List Token},
    Settled scan done → ∃ next, run scan (utf8 (indentedItems depth xs)) = some next ∧
      Settled next ((itemsTokens xs).reverse ++ done)
  | [], _, scan, done, hs => ⟨scan, rfl, hs⟩
  | x :: xs, depth, scan, done, hs => by
    obtain ⟨next, hx, hsettled⟩ := run_indented x depth (.comma :: done)
    obtain ⟨last, hxs, hlast⟩ := run_indentedItems xs depth hsettled
    refine ⟨last, ?_, by simpa [itemsTokens] using hlast⟩
    rw [indentedItems, utf8_cons]
    simp only [utf8_append, List.append_assoc]
    rw [run_punctuationLine hs rfl rfl rfl, run_append hx, hxs]

/-- The indented text of further fields is read as their tokens. -/
lemma run_indentedFields : ∀ (xs : List (String × Json)) (depth : Nat) {scan : Scan}
    {done : List Token}, Settled scan done →
      ∃ next, run scan (utf8 (indentedFields depth xs)) = some next ∧
        Settled next ((fieldsTokens xs).reverse ++ done)
  | [], _, scan, done, hs => ⟨scan, rfl, hs⟩
  | (k, x) :: xs, depth, scan, done, hs => by
    obtain ⟨next, hx, hsettled⟩ :=
      run_indented x depth (.colon :: .quoted (pieces k) :: .comma :: done)
    obtain ⟨last, hxs, hlast⟩ := run_indentedFields xs depth hsettled
    refine ⟨last, ?_, by simpa [fieldsTokens] using hlast⟩
    rw [indentedFields, utf8_cons]
    simp only [utf8_append, utf8_cons, List.append_assoc]
    rw [run_punctuationLine hs rfl rfl rfl, run_keyBlank, run_append hx, hxs]

end

end Scan

/-- **The tokens of an indented text.** The indented text of a value is read as its tokens, however
deep it stands. -/
theorem tokens?_indented (v : Json) (depth : Nat) :
    tokens? (utf8 (v.indented depth)) = some v.tokens := by
  obtain ⟨scan, hrun, hfinish, -⟩ := Scan.run_indented v depth []
  change ((Scan.run ⟨[], .between⟩ (utf8 (v.indented depth))).bind Scan.finish?).map
    List.reverse = _
  rw [hrun, Option.bind_some, hfinish, Option.map_some, List.append_nil, List.reverse_reverse]

/-- **Indented texts.** The indented text of a value spells its tree, as the compact text does. -/
theorem treeOfBytes?_pretty (v : Json) : Tree.ofBytes? (bytes v.pretty) = some v.tree := by
  rw [pretty, bytes_ofList, Tree.ofBytes?, tokens?_indented, Option.bind_some, ofTokens?_tokens]

end ScriptHost.Json
