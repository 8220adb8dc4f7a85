import ScriptHost.Json.Form
import ScriptHost.Proofs.Dict
import ScriptHost.Proofs.Json.RoundTrip

/-!
# The fields of records

A record is written from its parts, of which the absent ones are left out, and its fields are put in
key order. Neither changes what stands under a key, and neither changes which parts of a form are
given. A record is legible when its values are.

## Main results

* `ScriptHost.Json.get?_ofWritten` — what stands under a key of a record.
* `ScriptHost.Form.ofFields_perm` — the slots of a form do not depend on the order of its fields.
* `ScriptHost.Json.isLegible_ofFields` — a record is legible when its values are.
-/

namespace ScriptHost

/-- The values of a list are read back one by one. -/
lemma mapM_map_of_back {α β : Type} {m : Type → Type} [Monad m] [LawfulMonad m] {write : α → β}
    {read : β → m α} (back : ∀ a, read (write a) = pure a) (as : List α) :
    (as.map write).mapM read = pure as := by
  have hcomp : read ∘ write = fun a => pure (id a) := funext back
  rw [List.mapM_map, hcomp, List.mapM_pure, List.map_id]

namespace Form

variable {α : Type}

/-- The parts of a record are written one after the other. -/
lemma written_append (parts rest : List (String × Option Json)) :
    written (parts ++ rest) = written parts ++ written rest :=
  List.filterMap_append

/-- The keys of a record are among those of its parts. -/
lemma keys_written (parts : List (String × Option Json)) :
    ((written parts).map Prod.fst).Sublist (parts.map Prod.fst) := by
  induction parts with
  | nil => exact .slnil
  | cons part rest ih =>
    obtain ⟨key, _ | value⟩ := part
    · exact .cons key ih
    · exact .cons_cons key ih

/-- Under the key of a part its value is found, when it is not absent. -/
lemma lookup_written {parts : List (String × Option Json)} (h : (parts.map Prod.fst).Nodup)
    (key : String) : (written parts).lookup key = (parts.lookup key).join := by
  induction parts with
  | nil => rfl
  | cons part rest ih =>
    obtain ⟨k, _ | value⟩ := part
    · simp only [List.map_cons, List.nodup_cons] at h
      have hwritten : written ((k, none) :: rest) = written rest := rfl
      rw [hwritten, ih h.2, Entries.lookup_cons]
      split
      · rename_i hk
        have hnone : rest.lookup key = none := by
          rw [List.lookup_eq_none_iff]
          intro p hp
          rw [bne_iff_ne, hk]
          rintro heq
          exact h.1 (heq ▸ List.mem_map_of_mem hp)
        rw [hnone]
        rfl
      · rfl
    · simp only [List.map_cons, List.nodup_cons] at h
      have hwritten : written ((k, some value) :: rest) = (k, value) :: written rest := rfl
      rw [hwritten, Entries.lookup_cons, Entries.lookup_cons, ih h.2]
      split <;> rfl

/-- Which slots fields fill does not depend on their order. -/
lemma ofFields_perm {as bs : List (String × α)} (h : as.Perm bs) (parts : List (List String)) :
    ofFields parts as = ofFields parts bs := by
  unfold ofFields
  congr 1
  funext spellings
  have hperm := h.filter fun field => spellings.contains field.1
  generalize as.filter _ = xs at hperm
  generalize bs.filter _ = ys at hperm
  rcases xs with _ | ⟨x, _ | ⟨x', xs⟩⟩
  · rw [List.nil_perm.mp hperm]
  · rw [List.singleton_perm.mp hperm]
  · have hlength := hperm.length_eq
    rcases ys with _ | ⟨y, _ | ⟨y', ys⟩⟩
    · simp at hlength
    · simp at hlength
    · rfl

end Form

namespace Json

/-! ## Looking up fields -/

/-- Under different keys a record holds what it was made of. -/
lemma get?_ofFields {fields : List (String × Json)} (h : (fields.map Prod.fst).Nodup)
    (key : String) : (ofFields fields).get? key = fields.lookup key :=
  Entries.lookup_ofList_of_nodup h key

/-- The fields of a record that was written from its parts. -/
lemma lookup_ofWritten {parts : List (String × Option Json)} (h : (parts.map Prod.fst).Nodup)
    (key : String) :
    (Entries.ofList (Form.written parts)).lookup key = (parts.lookup key).join := by
  rw [Entries.lookup_ofList_of_nodup (h.sublist (Form.keys_written parts)), Form.lookup_written h]

/-- Under the key of a part a record holds its value, when it is not absent. -/
lemma get?_ofWritten {parts : List (String × Option Json)} (h : (parts.map Prod.fst).Nodup)
    (key : String) : (ofFields (Form.written parts)).get? key = (parts.lookup key).join :=
  lookup_ofWritten h key

/-! ## Legible records -/

/-- Items are legible when each of them is. -/
lemma areLegible_iff {depth : Nat} {items : List Json} :
    areLegible depth items = true ↔ ∀ x ∈ items, x.isLegible depth = true := by
  induction items with
  | nil => simp [areLegible]
  | cons x xs ih => simp [areLegible, ih]

/-- Fields are legible when each of their values is. -/
lemma fieldsLegible_iff {depth : Nat} {fields : List (String × Json)} :
    fieldsLegible depth fields = true ↔ ∀ e ∈ fields, e.2.isLegible depth = true := by
  induction fields with
  | nil => simp [fieldsLegible]
  | cons e rest ih => simp [fieldsLegible, ih]

/-- An object in key order is legible when its values are. -/
lemma isLegible_obj (depth : Nat) {fields : List (String × Json)}
    (hordered : Entries.Ordered fields) (h : ∀ e ∈ fields, e.2.isLegible depth = true) :
    (obj fields).isLegible (depth + 1) = true := by
  have hdecide : decide (fields.Pairwise fun a b => a.1 < b.1) = true := decide_eq_true hordered
  rw [isLegible, hdecide, Nat.add_one_sub_one, fieldsLegible_iff.mpr h]
  rfl

/-- An array is legible when its items are. -/
lemma isLegible_arr (depth : Nat) {items : List Json}
    (h : ∀ x ∈ items, x.isLegible depth = true) : (arr items).isLegible (depth + 1) = true := by
  simp [isLegible, areLegible_iff.mpr h]

/-- A record is legible when its values are. -/
lemma isLegible_ofFields (depth : Nat) {fields : List (String × Json)}
    (h : ∀ e ∈ fields, e.2.isLegible depth = true) :
    (ofFields fields).isLegible (depth + 1) = true := by
  refine isLegible_obj _ (Entries.Ordered.insertAll List.Pairwise.nil fields) fun e he => h e ?_
  exact Entries.mem_of_mem_ofList he

/-- A record that is written from its parts is legible when its values are. -/
lemma isLegible_ofWritten (depth : Nat) {parts : List (String × Option Json)}
    (h : ∀ part ∈ parts, ∀ value ∈ part.2, value.isLegible depth = true) :
    (ofFields (Form.written parts)).isLegible (depth + 1) = true := by
  refine isLegible_ofFields _ fun e he => ?_
  obtain ⟨part, hpart, hvalue⟩ := List.mem_filterMap.mp he
  obtain ⟨value, hsome, rfl⟩ := Option.map_eq_some_iff.mp hvalue
  exact h part hpart value hsome

/-- An unsigned 64-bit integer is legible. -/
@[simp]
lemma isLegible_ofUInt64 (n : UInt64) (depth : Nat) : (ofUInt64 n).isLegible depth = true := by
  rw [ofUInt64, isLegible]
  rfl

/-- An unsigned 32-bit integer is legible. -/
@[simp]
lemma isLegible_ofUInt32 (n : UInt32) (depth : Nat) : (ofUInt32 n).isLegible depth = true := by
  rw [ofUInt32, isLegible]
  rfl

/-- A byte is legible. -/
@[simp]
lemma isLegible_ofUInt8 (n : UInt8) (depth : Nat) : (ofUInt8 n).isLegible depth = true := by
  rw [ofUInt8, isLegible]
  rfl

/-- A text is legible. -/
@[simp]
lemma isLegible_str (s : String) (depth : Nat) : (str s).isLegible depth = true := by
  rw [isLegible]

/-- A truth value is legible. -/
@[simp]
lemma isLegible_bool (b : Bool) (depth : Nat) : (bool b).isLegible depth = true := by
  rw [isLegible]

/-- Null is legible. -/
@[simp]
lemma isLegible_null (depth : Nat) : null.isLegible depth = true := by
  rw [isLegible]

/-- Bytes are legible as an array. -/
lemma isLegible_ofBytes (bs : List UInt8) (depth : Nat) :
    (ofBytes bs).isLegible (depth + 1) = true := by
  refine isLegible_arr _ fun x hx => ?_
  obtain ⟨b, -, rfl⟩ := List.mem_map.mp hx
  exact isLegible_ofUInt8 b depth

end Json

end ScriptHost
