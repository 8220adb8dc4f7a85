import ScriptHost.Json.Reader

/-!
# Forms

Values of the domain are written as JSON forms. A form of a record is an object with a field for
each part, in which unknown fields are skipped, or an array of the parts in the order of their
declaration, in which trailing parts may be left out. Either way the form gives each part a slot,
which is empty where the part was left out; a part with two spellings of its name may be given under
one of them only.

What a part does with an empty slot is its own matter: it is required, or it has a default.

## Main definitions

* `ScriptHost.Form.ofFields`, `ScriptHost.Form.ofItems` — the slots that fields or items fill.
* `ScriptHost.Json.form?`, `ScriptHost.Json.Tree.form?` — the slots of a value and of a tree.
* `ScriptHost.Form.required`, `ScriptHost.Form.defaulted`, `ScriptHost.Form.optional` — a part that
  must be given, that has a default, and that may be absent.
* `ScriptHost.Form.written` — the fields of a record, without the absent ones.
-/

namespace ScriptHost

namespace Form

variable {α β : Type}

/-- The slots that fields fill, by the spellings of each part's name. -/
def ofFields (parts : List (List String)) (fields : List (String × α)) :
    Option (List (Option α)) :=
  parts.mapM fun spellings =>
    match fields.filter fun field => spellings.contains field.1 with
    | [] => some none
    | [field] => some (some field.2)
    | _ => none

/-- The slots that items fill from the first on. -/
def ofItems (count : Nat) (items : List α) : Option (List (Option α)) :=
  if items.length ≤ count then
    some (items.map some ++ List.replicate (count - items.length) none)
  else none

/-- A part that must be given. -/
def required (read : α → Option β) (slot : Option α) : Option β :=
  slot.bind read

/-- A part with a default. -/
def defaulted (absent : β) (read : α → Option β) : Option α → Option β
  | none => some absent
  | some given => read given

/-- A part that may be absent: left out, or null. -/
def optional (read : Json → Option β) : Option Json → Option (Option β)
  | none => some none
  | some .null => some none
  | some given => (read given).map some

/-- The fields of a record in which absent parts are left out. -/
def written (parts : List (String × Option Json)) : List (String × Json) :=
  parts.filterMap fun part => part.2.map (part.1, ·)

/-- A part that may be absent is read back, when it is read back from its value and its value is
not null. -/
theorem optional_map {read : Json → Option β} {write : β → Json}
    (back : ∀ b, read (write b) = some b) (visible : ∀ b, write b ≠ .null) (part : Option β) :
    optional read (part.map write) = some part := by
  cases part with
  | none => rfl
  | some b =>
    have hv := visible b
    have hb := back b
    simp only [Option.map_some]
    cases hw : write b <;> simp_all [optional]

end Form

/-- The slots of a form with the given parts. -/
def Json.form? (parts : List (List String)) : Json → Option (List (Option Json))
  | .obj fields => Form.ofFields parts fields
  | .arr items => Form.ofItems parts.length items
  | _ => none

/-- The slots of a form that is still a tree. All keys of an object must be texts, but what stands
under an unknown key is not looked at. -/
def Json.Tree.form? (parts : List (List String)) : Json.Tree → Option (List (Option Json.Tree))
  | .obj fields =>
    (fields.mapM fun field => (Json.textOf? field.1).map (·, field.2)).bind (Form.ofFields parts)
  | .arr items => Form.ofItems parts.length items
  | _ => none

end ScriptHost
