import ScriptHost.Proofs.Json.Fields
import ScriptHost.Proofs.Lists

/-!
# Records

A record is an object with a field for each of its parts that is not absent, in any order. When
every part has its name in one of the spellings that a form knows, the parts are the slots of the
form. Of two spellings of one name none can be chosen, so that fields with both of them fill no
slots.

## Main definitions

* `ScriptHost.Json.IsRecord` — a value is a record of parts.

## Main results

* `ScriptHost.Json.IsRecord.form?_eq` — the slots of a record are its parts.
* `ScriptHost.Form.ofFields_eq_none` — two spellings of one name fill no slots.
-/

namespace ScriptHost

/-- A value is a record of parts: an object with a field for each of them that is not absent, in any
order. -/
def Json.IsRecord (parts : List (String × Option Json)) (json : Json) : Prop :=
  ∃ fields, json = .obj fields ∧ fields.Perm (Form.written parts)

/-! ## Slots -/

namespace Form

/-- A record without a part is not changed by keeping no field of its name. -/
lemma filter_written_eq_nil {parts : List (String × Option Json)} {spellings : List String}
    (h : ∀ part ∈ parts, part.1 ∉ spellings) :
    (written parts).filter (fun field => spellings.contains field.1) = [] := by
  rw [List.filter_eq_nil_iff]
  intro field hfield
  obtain ⟨part, hpart, hvalue⟩ := List.mem_filterMap.mp hfield
  obtain ⟨value, -, rfl⟩ := Option.map_eq_some_iff.mp hvalue
  simpa using h part hpart

/-- The slot that fields fill under the spellings of one name. -/
def slot? {α : Type} (fields : List (String × α)) (spellings : List String) : Option (Option α) :=
  match fields.filter fun field => spellings.contains field.1 with
  | [] => some none
  | [field] => some (some field.2)
  | _ => none

lemma ofFields_eq {α : Type} (names : List (List String)) (fields : List (String × α)) :
    ofFields names fields = names.mapM (slot? fields) := rfl

/-- A part fills the slot of its name, when the other parts have other names. -/
lemma slot?_written {front back : List (String × Option Json)} {part : String × Option Json}
    {spellings : List String} (hpart : part.1 ∈ spellings)
    (hfront : ∀ other ∈ front, other.1 ∉ spellings)
    (hback : ∀ other ∈ back, other.1 ∉ spellings) :
    slot? (written (front ++ part :: back)) spellings = some part.2 := by
  rw [slot?, written_append, ← List.singleton_append, written_append, List.filter_append,
    List.filter_append, filter_written_eq_nil hfront, filter_written_eq_nil hback]
  obtain ⟨name, _ | value⟩ := part
  · rfl
  · simp [written, hpart]

/-- The slots of a record are its parts, when each has its name in one of its spellings.

**Proof sketch.** By induction on the names, with the parts of the names that are done in front. -/
lemma ofFields_written {names : List (List String)} {parts : List (String × Option Json)}
    (h : List.Forall₂ (fun spellings part => part.1 ∈ spellings) names parts)
    (hnames : names.flatten.Nodup) (front : List (String × Option Json))
    (hfront : ∀ part ∈ front, part.1 ∉ names.flatten) :
    ofFields names (written (front ++ parts)) = some (parts.map Prod.snd) := by
  induction h generalizing front with
  | nil => rfl
  | @cons spellings part names parts hpart hrest ih =>
    rw [List.flatten_cons, List.nodup_append] at hnames
    obtain ⟨-, hnodup, hapart⟩ := hnames
    have hbefore : ∀ other ∈ front, other.1 ∉ spellings := fun other hother hmem =>
      hfront other hother (List.mem_append_left _ hmem)
    have hbehind : ∀ other ∈ parts, other.1 ∉ spellings := by
      intro other hother hmem
      obtain ⟨spellings', hspellings', hother'⟩ := exists_left_of_forall₂ hrest hother
      exact hapart _ hmem _ (List.mem_flatten_of_mem hspellings' hother') rfl
    have hlater : ofFields names (written ((front ++ [part]) ++ parts)) =
        some (parts.map Prod.snd) := by
      refine ih hnodup (front ++ [part]) fun other hother hmem => ?_
      rcases List.mem_append.mp hother with hother | hother
      · exact hfront other hother (List.mem_append_right _ hmem)
      · rw [List.mem_singleton.mp hother] at hmem
        exact hapart _ hpart _ hmem rfl
    rw [List.append_assoc, List.singleton_append, ofFields_eq] at hlater
    rw [ofFields_eq, List.mapM_cons, slot?_written hpart hbefore hbehind, hlater]
    rfl

/-- Fields of which two spell the name of one part fill no slots. -/
lemma ofFields_eq_none {α : Type} {names : List (List String)} {fields : List (String × α)}
    {spellings : List String} (hspellings : spellings ∈ names) {a b : String × α}
    (ha : a ∈ fields) (hb : b ∈ fields) (hspelled : a.1 ∈ spellings) (hspelled' : b.1 ∈ spellings)
    (hne : a.1 ≠ b.1) : ofFields names fields = none := by
  refine mapM_eq_none hspellings ?_
  have hkept : a ∈ fields.filter fun field => spellings.contains field.1 :=
    List.mem_filter.mpr ⟨ha, by simpa using hspelled⟩
  have hkept' : b ∈ fields.filter fun field => spellings.contains field.1 :=
    List.mem_filter.mpr ⟨hb, by simpa using hspelled'⟩
  generalize fields.filter (fun field => spellings.contains field.1) = kept at hkept hkept'
  rcases kept with _ | ⟨x, _ | ⟨y, rest⟩⟩
  · exact absurd hkept List.not_mem_nil
  · rw [List.mem_singleton.mp hkept, List.mem_singleton.mp hkept'] at hne
    exact absurd rfl hne
  · rfl

/-! ## Parts -/

section Parts

variable {α β : Type}

/-- A part that must be given is read as its value is. -/
lemma required_of_eq {read : α → Option β} {a : α} {b : β} (h : read a = some b) :
    required read (some a) = some b := h

/-- A part with a default is read as its value is, when it is given. -/
lemma defaulted_of_eq {absent : β} {read : α → Option β} {a : α} {b : β} (h : read a = some b) :
    defaulted absent read (some a) = some b := h

/-- A part that may be absent is read as its value is, when that is not null. -/
lemma optional_of_eq {read : Json → Option β} {json : Json} {b : β} (h : read json = some b)
    (hnull : json ≠ .null) : optional read (some json) = some (some b) := by
  cases json with
  | null => exact absurd rfl hnull
  | _ => rw [optional, h, Option.map_some]; exact hnull

@[simp]
lemma required_str (s : String) : required Json.asString? (some (.str s)) = some s :=
  required_of_eq rfl

@[simp]
lemma required_bool (b : Bool) : required Json.asBool? (some (.bool b)) = some b :=
  required_of_eq rfl

@[simp]
lemma required_ofUInt64 (n : UInt64) : required Json.asUInt64? (some (.ofUInt64 n)) = some n :=
  required_of_eq (Json.asUInt64?_ofUInt64 n)

@[simp]
lemma required_ofUInt32 (n : UInt32) : required Json.asUInt32? (some (.ofUInt32 n)) = some n :=
  required_of_eq (Json.asUInt32?_ofUInt32 n)

@[simp]
lemma optional_str (part : Option String) :
    optional Json.asString? (part.map .str) = some part := by
  have hback (s : String) : Json.asString? (.str s) = some s := rfl
  exact optional_map hback (fun _ => Json.noConfusion) part

@[simp]
lemma optional_ofUInt64 (part : Option UInt64) :
    optional Json.asUInt64? (part.map .ofUInt64) = some part :=
  optional_map Json.asUInt64?_ofUInt64 (fun _ => Json.noConfusion) part

@[simp]
lemma optional_ofUInt32 (part : Option UInt32) :
    optional Json.asUInt32? (part.map .ofUInt32) = some part :=
  optional_map Json.asUInt32?_ofUInt32 (fun _ => Json.noConfusion) part

end Parts

end Form

namespace Json

variable {parts : List (String × Option Json)} {json : Json}

/-- An object with the fields of parts is a record of them. -/
lemma isRecord_written (parts : List (String × Option Json)) :
    (obj (Form.written parts)).IsRecord parts :=
  ⟨_, rfl, .refl _⟩

/-- A record that is written from its parts is a record of them. -/
lemma isRecord_ofFields (h : (parts.map Prod.fst).Nodup) :
    (ofFields (Form.written parts)).IsRecord parts :=
  ⟨_, rfl, Entries.ofList_perm (h.sublist (Form.keys_written parts))⟩

/-- A record is not null. -/
lemma IsRecord.ne_null (h : json.IsRecord parts) : json ≠ .null := by
  obtain ⟨fields, rfl, -⟩ := h
  exact Json.noConfusion

/-- **Slots of records.** The slots of a record are its parts, when each has its name in one of its
spellings and all spellings are different. -/
theorem IsRecord.form?_eq (h : json.IsRecord parts) (names : List (List String))
    (hnames : List.Forall₂ (fun spellings part => part.1 ∈ spellings) names parts)
    (hnodup : names.flatten.Nodup) : json.form? names = some (parts.map Prod.snd) := by
  obtain ⟨fields, rfl, hperm⟩ := h
  exact (Form.ofFields_perm hperm names).trans
    (Form.ofFields_written hnames hnodup [] fun _ hmem => absurd hmem List.not_mem_nil)

end Json

end ScriptHost
