import ScriptHost.Proofs.Json.Spelling

/-!
# Reading JSON texts back

The tokens of the compact text of a value build the tree of the value. Reading the tree of a legible
value gives the value again: its quoted texts are made up of their pieces, its numbers are read
back, its fields are in key order already, and its containers do not nest too deep.

## Main definitions

* `ScriptHost.Json.tree` — the tree of a value.

## Main results

* `ScriptHost.Json.textOf?_pieces` — a text is read back from its pieces.
* `ScriptHost.Json.treeOfBytes?_text` — the text of a value spells its tree.
* `ScriptHost.Json.ofBytes?_text` — a legible value is read back from its text.
* `ScriptHost.Json.ofBytes?_pair` — when an object of two values is read.
-/

namespace ScriptHost.Json

open Text

/-! ## Quoted texts -/

/-- The bytes of a piece are added to those that were read. -/
lemma spelledBytes?_bytes (bs read : List UInt8) (rest : List Spelled) :
    spelledBytes? read none (bs.map .byte ++ rest) =
      spelledBytes? (bs.reverse ++ read) none rest := by
  induction bs generalizing read with
  | nil => rfl
  | cons b bs ih =>
    rw [List.map_cons, List.cons_append, spelledBytes?, if_pos (by rfl), ih]
    simp

/-- The pieces of a character make up its bytes. -/
lemma spelledBytes?_charPieces (c : Char) (read : List UInt8) (rest : List Spelled) :
    spelledBytes? read none (charPieces c ++ rest) =
      spelledBytes? ((String.utf8EncodeChar c).reverse ++ read) none rest := by
  unfold charPieces
  split
  · rename_i h
    have hhigh : isHighSurrogate c.toNat = false := by
      simp [isHighSurrogate]
      omega
    have hlow : isLowSurrogate c.toNat = false := by
      simp [isLowSurrogate]
      omega
    rw [List.singleton_append, spelledBytes?]
    simp [hhigh, hlow]
  · exact spelledBytes?_bytes _ _ _

/-- The pieces of characters make up their bytes. -/
lemma spelledBytes?_pieces (cs : List Char) (read : List UInt8) :
    spelledBytes? read none (cs.flatMap charPieces) = some (read.reverse ++ utf8 cs) := by
  induction cs generalizing read with
  | nil => simp [spelledBytes?]
  | cons c cs ih =>
    rw [List.flatMap_cons, spelledBytes?_charPieces, ih]
    simp

/-- A text is read back from its pieces. -/
lemma textOf?_pieces (s : String) : textOf? (pieces s) = some s := by
  rw [textOf?, pieces, spelledBytes?_pieces, Option.bind_some, List.reverse_nil, List.nil_append,
    ← bytes_eq_utf8]
  exact ofBytes?_bytes s

/-! ## Trees -/

mutual

/-- The tree of a value. -/
def tree : Json → Tree
  | null => .null
  | bool b => .bool b
  | num n => .number n.numeral
  | str s => .quoted (pieces s)
  | arr items => .arr (trees items)
  | obj fields => .obj (fieldTrees fields)

/-- The trees of items. -/
def trees : List Json → List Tree
  | [] => []
  | x :: xs => tree x :: trees xs

/-- The fields of the tree of an object. -/
def fieldTrees : List (String × Json) → List (List Spelled × Tree)
  | [] => []
  | (k, x) :: xs => (pieces k, tree x) :: fieldTrees xs

end

namespace Build

/-- Reads tokens one after the other. -/
def run (build : Build) (tokens : List Token) : Option Build :=
  tokens.foldlM step? build

lemma run_cons {build next : Build} {token : Token} (h : build.step? token = some next)
    (tokens : List Token) : build.run (token :: tokens) = next.run tokens := by
  rw [run, List.foldlM_cons, h]
  rfl

lemma run_append {build next : Build} {tokens : List Token} (h : build.run tokens = some next)
    (rest : List Token) : build.run (tokens ++ rest) = next.run rest := by
  rw [run, List.foldlM_append]
  change build.run tokens >>= _ = _
  rw [h]
  rfl

/-- A value does not begin with the end of an array, so that it may stand first in one. -/
lemma run_firstItem (v : Json) (around : List Frame) (rest : List Token) :
    run (.firstItem around) (v.tokens ++ rest) =
      run (.value (.array [] :: around)) (v.tokens ++ rest) := by
  cases v with
  | null => rfl
  | bool b => rfl
  | num n => rfl
  | str s => rfl
  | arr items => cases items <;> rfl
  | obj fields => cases fields <;> rfl

mutual

/-- The tokens of a value build its tree.

**Proof sketch.** By recursion on the value: behind the first item or field of a container its
further items and fields are added one by one, in reverse order. -/
lemma run_tokens : ∀ (v : Json) (around : List Frame),
    run (.value around) v.tokens = some (complete v.tree around)
  | null, _ => rfl
  | bool _, _ => rfl
  | num _, _ => rfl
  | str _, _ => rfl
  | arr [], _ => rfl
  | arr (x :: xs), around => by
    rw [tokens, run_cons (rfl : step? _ _ = some (.firstItem around)), List.append_assoc,
      run_firstItem, run_append (run_tokens x _)]
    change run (.afterItem [x.tree] around) _ = _
    rw [run_append (run_itemsTokens xs [x.tree] around)]
    refine (run_cons rfl []).trans ?_
    simp [tree, trees, run]
  | obj [], _ => rfl
  | obj ((k, x) :: xs), around => by
    rw [tokens, run_cons (rfl : step? _ _ = some (.firstKey around)),
      run_cons (rfl : step? _ _ = some (.colon [] (pieces k) around)),
      run_cons (rfl : step? _ _ = some (.value (.object [] (pieces k) :: around))),
      List.append_assoc, run_append (run_tokens x _)]
    change run (.afterField [(pieces k, x.tree)] around) _ = _
    rw [run_append (run_fieldsTokens xs [(pieces k, x.tree)] around)]
    refine (run_cons rfl []).trans ?_
    simp [tree, fieldTrees, run]

/-- The tokens of further items build their trees. -/
lemma run_itemsTokens : ∀ (xs : List Json) (items : List Tree) (around : List Frame),
    run (.afterItem items around) (itemsTokens xs) =
      some (.afterItem ((trees xs).reverse ++ items) around)
  | [], _, _ => rfl
  | x :: xs, items, around => by
    rw [itemsTokens, run_cons (rfl : step? _ _ = some (.value (.array items :: around))),
      run_append (run_tokens x _)]
    refine (run_itemsTokens xs (x.tree :: items) around).trans ?_
    simp [trees]

/-- The tokens of further fields build their trees. -/
lemma run_fieldsTokens : ∀ (xs : List (String × Json)) (fields : List (List Spelled × Tree))
    (around : List Frame), run (.afterField fields around) (fieldsTokens xs) =
      some (.afterField ((fieldTrees xs).reverse ++ fields) around)
  | [], _, _ => rfl
  | (k, x) :: xs, fields, around => by
    rw [fieldsTokens, run_cons (rfl : step? _ _ = some (.nextKey fields around)),
      run_cons (rfl : step? _ _ = some (.colon fields (pieces k) around)),
      run_cons (rfl : step? _ _ = some (.value (.object fields (pieces k) :: around))),
      run_append (run_tokens x _)]
    refine (run_fieldsTokens xs ((pieces k, x.tree) :: fields) around).trans ?_
    simp [fieldTrees]

end

end Build

/-- The tokens of a value make up its tree. -/
lemma ofTokens?_tokens (v : Json) : Tree.ofTokens? v.tokens = some v.tree := by
  change (Build.run (.value []) v.tokens).bind Build.result? = _
  rw [Build.run_tokens]
  rfl

/-- The text of a value spells its tree. -/
theorem treeOfBytes?_text (v : Json) : Tree.ofBytes? (bytes v.compact) = some v.tree := by
  rw [compact, bytes_ofList, Tree.ofBytes?, tokens?_text, Option.bind_some, ofTokens?_tokens]

mutual

/-- A value that is legible at some depth is read back from its tree at every depth at which it is
legible, and at no other.

**Proof sketch.** By recursion on the value. The fields of an object are in key order, so that
putting them in order changes nothing. -/
lemma read?_tree_eq : ∀ (v : Json) {deep : Nat}, v.isLegible deep = true → ∀ depth : Nat,
    v.tree.read? depth = if v.isLegible depth then some v else none
  | null, _, _, _ => rfl
  | bool _, _, _, _ => rfl
  | num n, _, h, _ => by
    rw [isLegible] at h
    rw [isLegible, if_pos h, tree, Tree.read?, Number.value?_numeral h]
    rfl
  | str s, _, _, _ => by
    rw [tree, Tree.read?, textOf?_pieces]
    rfl
  | arr items, deep, h, depth => by
    simp only [isLegible, Bool.and_eq_true] at h
    rw [tree, Tree.read?, readItems?_trees items h.2, isLegible]
    rcases depth with _ | depth
    · rfl
    · by_cases hitems : areLegible depth items = true <;> simp [hitems]
  | obj fields, deep, h, depth => by
    simp only [isLegible, Bool.and_eq_true, decide_eq_true_eq] at h
    have hordered : Entries.Ordered fields := h.1.2
    have hsorted : decide (fields.Pairwise fun a b => a.1 < b.1) = true := decide_eq_true h.1.2
    rw [tree, Tree.read?, readFields?_fieldTrees fields h.2, isLegible, hsorted]
    rcases depth with _ | depth
    · rfl
    · by_cases hfields : fieldsLegible depth fields = true <;>
        simp [hfields, ofFields, hordered.ofList_eq]

/-- Items that are legible at some depth are read back at the depths at which they are legible. -/
lemma readItems?_trees : ∀ (xs : List Json) {deep : Nat}, areLegible deep xs = true →
    ∀ (depth : Nat) (done : List Json), Tree.readItems? depth done (trees xs) =
      if areLegible depth xs then some (done.reverse ++ xs) else none
  | [], _, _, _, done => by simp [trees, Tree.readItems?, areLegible]
  | x :: xs, deep, h, depth, done => by
    simp only [areLegible, Bool.and_eq_true] at h
    rw [trees, Tree.readItems?, read?_tree_eq x h.1, areLegible]
    by_cases hx : x.isLegible depth = true <;> simp [hx, readItems?_trees xs h.2]

/-- Fields that are legible at some depth are read back at the depths at which they are legible. -/
lemma readFields?_fieldTrees : ∀ (xs : List (String × Json)) {deep : Nat},
    fieldsLegible deep xs = true → ∀ (depth : Nat) (done : List (String × Json)),
      Tree.readFields? depth done (fieldTrees xs) =
        if fieldsLegible depth xs then some (done.reverse ++ xs) else none
  | [], _, _, _, done => by simp [fieldTrees, Tree.readFields?, fieldsLegible]
  | (k, x) :: xs, deep, h, depth, done => by
    simp only [fieldsLegible, Bool.and_eq_true] at h
    rw [fieldTrees, Tree.readFields?, textOf?_pieces, read?_tree_eq x h.1, fieldsLegible]
    by_cases hx : x.isLegible depth = true <;> simp [hx, readFields?_fieldTrees xs h.2]

end

/-- A legible value is read back from its tree. -/
lemma read?_tree (v : Json) {depth : Nat} (h : v.isLegible depth = true) :
    v.tree.read? depth = some v := by
  rw [read?_tree_eq v h, if_pos h]

/-- **Texts are read back.** A value that is legible at the depth to which containers may nest is
read back from its compact text. -/
theorem ofBytes?_text {v : Json} (h : v.isLegible nestingLimit = true) :
    ofBytes? (bytes v.compact) = some v := by
  rw [ofBytes?, treeOfBytes?_text, Option.bind_some]
  exact read?_tree v h

/-- An object of a legible value and any other is read when the other value is. -/
theorem ofBytes?_pair (key other : String) {a : Json} (ha : a.isLegible (nestingLimit - 1) = true)
    (b : Json) :
    ofBytes? (bytes (obj [(key, a), (other, b)]).compact) =
      (b.tree.read? (nestingLimit - 1)).map fun read => ofFields [(key, a), (other, read)] := by
  have hfields : Tree.readFields? (nestingLimit - 1) [] (fieldTrees [(key, a), (other, b)]) =
      (b.tree.read? (nestingLimit - 1)).map fun read => [(key, a), (other, read)] := by
    simp only [fieldTrees, Tree.readFields?, textOf?_pieces, read?_tree a ha]
    cases b.tree.read? (nestingLimit - 1) <;> rfl
  rw [ofBytes?, treeOfBytes?_text, Option.bind_some, tree, Tree.read?, if_neg (by decide), hfields,
    Option.map_map]
  rfl

end ScriptHost.Json
