import Mathlib.Tactic.Lemma
import ScriptHost.Config.Directory

/-!
# The places of file names

A file name that is given from the directory leads to the place of that name. The temporary file for
it is the file of the same name with another extension: without its last dot and what follows it,
and with the extension of temporary files.

## Main definitions

* `ScriptHost.Path.IsFileName` — a text is the name of a file.
* `ScriptHost.Path.temporaryName` — the name of the temporary file for a file name.

## Main results

* `ScriptHost.Path.place?_ofName` — the place of a file name.
* `ScriptHost.Path.place?_temporaryPath` — the place of the temporary file for a file name.
-/

namespace ScriptHost

namespace Path

/-- A text is the name of a file: it is not empty and no dots that lead somewhere else, holds
neither a slash nor the null character, and is not too long. -/
structure IsFileName (name : List Char) : Prop where
  ne_nil : name ≠ []
  ne_dot : name ≠ ['.']
  ne_upward : name ≠ upward
  no_slash : '/' ∉ name
  no_null : '\x00' ∉ name
  fits : byteCount name ≤ nameLimit

/-! ## Parts -/

/-- Text without slashes is one piece. -/
lemma pieces_of_no_slash {text : List Char} (h : '/' ∉ text) : pieces text = [text] := by
  induction text with
  | nil => rfl
  | cons c rest ih =>
    rw [List.mem_cons, not_or] at h
    rw [pieces, if_neg (Ne.symm h.1), ih h.2]

/-- Text up to a slash is one piece. -/
lemma pieces_append {text : List Char} (h : '/' ∉ text) (rest : List Char) :
    pieces (text ++ '/' :: rest) = text :: pieces rest := by
  induction text with
  | nil => rw [List.nil_append, pieces, if_pos rfl]
  | cons c text ih =>
    rw [List.mem_cons, not_or] at h
    rw [List.cons_append, pieces, if_neg (Ne.symm h.1), ih h.2]

/-- A text that ends with the name of a file loses nothing. -/
lemma dropEnd_of_name {name : List Char} (h : IsFileName name) (rest : List Char) :
    dropEnd (name.reverse ++ '/' :: rest) = name.reverse ++ '/' :: rest := by
  have hslash : '/' ∉ name.reverse := fun hmem => h.no_slash (List.mem_reverse.mp hmem)
  have hdot : name.reverse ≠ ['.'] := fun heq =>
    h.ne_dot (by rw [← List.reverse_reverse name, heq]; rfl)
  have hnil : name.reverse ≠ [] := List.reverse_ne_nil_iff.mpr h.ne_nil
  generalize name.reverse = text at hslash hdot hnil
  unfold dropEnd
  split
  · rename_i r heq
    rcases text with _ | ⟨c, text⟩
    · exact absurd rfl hnil
    · obtain rfl := (List.cons.inj heq).1
      exact absurd List.mem_cons_self hslash
  · rename_i r heq
    rcases text with _ | ⟨c, _ | ⟨d, text⟩⟩
    · exact absurd rfl hnil
    · obtain rfl := (List.cons.inj heq).1
      exact absurd rfl hdot
    · obtain rfl := (List.cons.inj (List.cons.inj heq).2).1
      exact absurd (List.mem_cons_of_mem _ List.mem_cons_self) hslash
  · rfl

/-- The bytes of two texts together. -/
lemma byteCount_append (front back : List Char) :
    byteCount (front ++ back) = byteCount front + byteCount back := by
  rw [byteCount, String.ofList_append, String.utf8ByteSize_append]
  rfl

section Names

variable {name : List Char}

/-- The text of the path for a file name. -/
def named (name : List Char) : Path :=
  ⟨start ++ '/' :: name⟩

/-- A path that ends with the name of a file is trimmed. -/
lemma trimmed_named (h : IsFileName name) : (named name).trimmed = named name := by
  have hreverse : (start ++ '/' :: name).reverse = name.reverse ++ '/' :: start.reverse := by
    simp
  rw [trimmed, named, hreverse, dropEnd_of_name h, ← hreverse, List.reverse_reverse]

/-- The parts of the path for a file name are the directory and the name. -/
lemma parts_named (h : IsFileName name) : (named name).parts = [start, name] := by
  have hempty : name.isEmpty = false := by
    simpa using h.ne_nil
  rw [parts, named, pieces_append (by decide), pieces_of_no_slash h.no_slash]
  simp [h.ne_nil, h.ne_dot, start]

/-- The path that ends with the name of a file leads to the place of this name. -/
lemma place?_named (h : IsFileName name) : (named name).place? = some (String.ofList name) := by
  have husable : (named name).isUsable = true := by
    have hnull : (named name).text.contains '\x00' = false := by
      simpa [named, start] using h.no_null
    have hbytes : byteCount (named name).text ≤ pathLimit := by
      have hfits := h.fits
      have hfront : byteCount (start ++ ['/']) = 6 := by decide +kernel
      have htext : (named name).text = (start ++ ['/']) ++ name := by
        simp [named]
      rw [htext, byteCount_append, hfront]
      exact Nat.le_trans (Nat.add_le_add_left hfits 6) (by decide)
    rw [isUsable, hnull, decide_eq_true hbytes]
    rfl
  have hends : (named name).endsOpen = false := by
    rw [endsOpen, trimmed_named h, bne_self_eq_false]
  have hhead : ((named name).text.head? != some '/') = true := rfl
  have hsteps : (named name).steps = [name] := by
    rw [steps, parts_named h]
    exact if_pos rfl
  have hfile : namesFile name = true := by
    simp [namesFile, h.ne_upward, h.fits]
  rw [place?, husable, hends, hhead, hsteps]
  simp [placeOf?, hfile]

/-! ## Temporary files -/

/-- The name of the temporary file for a file name. -/
def temporaryName (name : List Char) : List Char :=
  stem name ++ ['.', 't', 'm', 'p']

/-- What stands behind the last slash of the path for a file name is the name. -/
lemma splitLast_named (h : IsFileName name) :
    splitLast (named name).text = (start ++ ['/'], name) := by
  have hname : ∀ c ∈ name.reverse, (c != '/') = true := fun c hc =>
    bne_iff_ne.mpr fun heq => h.no_slash (List.mem_reverse.mp (heq ▸ hc))
  have hreverse : (named name).text.reverse = name.reverse ++ '/' :: start.reverse := by
    simp [named]
  simp only [splitLast, hreverse, List.dropWhile_append_of_pos hname,
    List.takeWhile_append_of_pos hname]
  simp

/-- Settings for a file name are written first under the name of the temporary file for it. -/
lemma temporaryPath_named (h : IsFileName name) (hstem : stem name ≠ ['.']) :
    Config.temporaryPath (named name) = named (temporaryName name) := by
  rw [Config.temporaryPath, withExtension, trimmed_named h, splitLast_named h]
  simp [h.ne_nil, h.ne_upward, hstem, named, temporaryName]

/-- What stands in a name without its extension stands in the name. -/
lemma mem_of_mem_stem {c : Char} (h : c ∈ stem name) : c ∈ name := by
  unfold stem at h
  split at h
  · exact h
  · exact h
  · rename_i d before hdrop
    have hmem : c ∈ name.reverse.dropWhile (· != '.') :=
      hdrop ▸ List.mem_cons_of_mem _ (List.mem_reverse.mp h)
    exact List.mem_reverse.mp ((List.dropWhile_sublist _).subset hmem)

/-- The name of the temporary file is the name of a file, when it is not too long. -/
lemma isFileName_temporaryName (h : IsFileName name)
    (hfits : byteCount (temporaryName name) ≤ nameLimit) : IsFileName (temporaryName name) where
  ne_nil := List.append_ne_nil_of_right_ne_nil _ (by decide)
  ne_dot heq := by
    have hlength := congrArg List.length heq
    simp [temporaryName] at hlength
  ne_upward heq := by
    have hlength := congrArg List.length heq
    simp [temporaryName, upward] at hlength
  no_slash hmem := by
    rcases List.mem_append.mp hmem with hmem | hmem
    · exact h.no_slash (mem_of_mem_stem hmem)
    · exact absurd hmem (by decide)
  no_null hmem := by
    rcases List.mem_append.mp hmem with hmem | hmem
    · exact h.no_null (mem_of_mem_stem hmem)
    · exact absurd hmem (by decide)
  fits := hfits

end Names

/-! ## File names -/

section FileNames

variable {name : String}

/-- The path for a file name is given from the directory. -/
lemma ofName_eq (h : IsFileName name.toList) : ofName name = named name.toList := by
  unfold ofName
  split
  · rename_i rest hslash
    exact absurd (hslash ▸ List.mem_cons_self) h.no_slash
  · rfl

/-- **Places of file names.** The path for a file name leads to the place of this name. -/
theorem place?_ofName (h : IsFileName name.toList) : (ofName name).place? = some name := by
  rw [ofName_eq h, place?_named h, String.ofList_toList]

/-- **Temporary files.** The temporary file for a file name stands at the place of its own name,
when that is not too long and there is something else than a dot before the last dot of the file
name. -/
theorem place?_temporaryPath (h : IsFileName name.toList) (hstem : stem name.toList ≠ ['.'])
    (hfits : byteCount (temporaryName name.toList) ≤ nameLimit) :
    (Config.temporaryPath (ofName name)).place? =
      some (String.ofList (temporaryName name.toList)) := by
  rw [ofName_eq h, temporaryPath_named h hstem, place?_named (isFileName_temporaryName h hfits)]

end FileNames

end Path

end ScriptHost
