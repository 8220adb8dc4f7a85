import ScriptHost.Dict
import ScriptHost.Number.Basic

/-!
# JSON data

A JSON value. The fields of an object are a list of entries; the reader and `Json.ofFields` put them
in key order with one entry a key, and look-ups find the first entry of a key.

## Main definitions

* `ScriptHost.Json` — JSON values.
* `ScriptHost.Json.get?` — a field of an object.
* `ScriptHost.Json.ofFields` — an object with its fields in key order.
* `ScriptHost.Json.same` — equality of data, which equates the two zeros among the doubles.

## Main results

* `ScriptHost.Json.agree_eq_iff` — values agree under exact comparison of numbers just when they are
  equal.
* `ScriptHost.Json.same_refl` — every value is the same as itself.
-/

namespace ScriptHost

/-- A JSON value. -/
inductive Json where
  /-- The null value. -/
  | null
  /-- A truth value. -/
  | bool (value : Bool)
  /-- A number. -/
  | num (value : Number)
  /-- A text. -/
  | str (value : String)
  /-- An array. -/
  | arr (items : List Json)
  /-- An object. -/
  | obj (fields : List (String × Json))

namespace Json

instance : Inhabited Json := ⟨null⟩

/-! ## Parts -/

/-- The truth value that a value is. -/
def asBool? : Json → Option Bool
  | bool b => some b
  | _ => none

/-- The text that a value is. -/
def asString? : Json → Option String
  | str s => some s
  | _ => none

/-- The items of an array. -/
def asArray? : Json → Option (List Json)
  | arr items => some items
  | _ => none

/-- The fields of an object. -/
def asObject? : Json → Option (List (String × Json))
  | obj fields => some fields
  | _ => none

/-- The unsigned 64-bit integer that a value is. -/
def asUInt64? : Json → Option UInt64
  | num n => n.toUInt64?
  | _ => none

/-- The unsigned 32-bit integer that a value is. -/
def asUInt32? : Json → Option UInt32
  | num n => n.toUInt32?
  | _ => none

/-- The byte that a value is. -/
def asUInt8? : Json → Option UInt8
  | num n => n.toUInt8?
  | _ => none

/-- The first field of an object with a key; no other value has fields. -/
def get? (key : String) : Json → Option Json
  | obj fields => fields.lookup key
  | _ => none

/-- The field of an object with a key, and null where there is none. -/
def getOrNull (key : String) (json : Json) : Json :=
  (json.get? key).getD null

/-- Whether a value is null. -/
def isNull : Json → Bool
  | null => true
  | _ => false

/-! ## Construction -/

/-- The object with these fields in key order; of several fields of one key the last. -/
def ofFields (fields : List (String × Json)) : Json :=
  obj (Entries.ofList fields)

/-- The object of a dictionary. -/
def ofDict (dict : Dict String Json) : Json :=
  obj dict.entries

/-- An unsigned 64-bit integer as a value. -/
def ofUInt64 (n : UInt64) : Json :=
  num (.ofUInt64 n)

/-- An unsigned 32-bit integer as a value. -/
def ofUInt32 (n : UInt32) : Json :=
  num (.ofUInt32 n)

/-- A byte as a value. -/
def ofUInt8 (n : UInt8) : Json :=
  num (.ofUInt8 n)

/-- Bytes as an array of numbers. -/
def ofBytes (bs : List UInt8) : Json :=
  arr (bs.map ofUInt8)

/-- The bytes that an array of numbers denotes. -/
def asBytes? (json : Json) : Option (List UInt8) :=
  json.asArray?.bind fun items => items.mapM asUInt8?

@[simp]
theorem asUInt64?_ofUInt64 (n : UInt64) : (ofUInt64 n).asUInt64? = some n :=
  Number.toUInt64?_ofUInt64 n

@[simp]
theorem asUInt32?_ofUInt32 (n : UInt32) : (ofUInt32 n).asUInt32? = some n :=
  Number.toUInt32?_ofUInt32 n

@[simp]
theorem asUInt8?_ofUInt8 (n : UInt8) : (ofUInt8 n).asUInt8? = some n :=
  Number.toUInt8?_ofUInt8 n

/-- Bytes are read back from their array. -/
theorem asBytes?_ofBytes (bs : List UInt8) : (ofBytes bs).asBytes? = some bs := by
  simp only [asBytes?, ofBytes, asArray?, Option.bind_some]
  induction bs with
  | nil => rfl
  | cons b rest ih => simp [List.mapM_cons, ih]

/-! ## Comparison -/

mutual

/-- Whether two values agree, their numbers compared by a given test. -/
def agree (numbers : Number → Number → Bool) : Json → Json → Bool
  | null, null => true
  | bool a, bool b => a == b
  | num a, num b => numbers a b
  | str a, str b => a == b
  | arr xs, arr ys => agreeItems numbers xs ys
  | obj xs, obj ys => agreeFields numbers xs ys
  | _, _ => false

/-- Whether two lists of items agree one by one. -/
def agreeItems (numbers : Number → Number → Bool) : List Json → List Json → Bool
  | [], [] => true
  | x :: xs, y :: ys => agree numbers x y && agreeItems numbers xs ys
  | _, _ => false

/-- Whether two lists of fields have the same keys and agree one by one. -/
def agreeFields (numbers : Number → Number → Bool) :
    List (String × Json) → List (String × Json) → Bool
  | [], [] => true
  | (k, x) :: xs, (l, y) :: ys => k == l && agree numbers x y && agreeFields numbers xs ys
  | _, _ => false

end

/-- Equality of data: as `=`, but the two zeros among the doubles are equal. -/
def same (a b : Json) : Bool :=
  agree Number.sameNumber a b

mutual

/-- Values agree under exact comparison of numbers just when they are equal. -/
theorem agree_eq_iff : ∀ a b : Json, agree (· == ·) a b = true ↔ a = b
  | null, b => by cases b <;> simp [agree]
  | bool _, b => by cases b <;> simp [agree]
  | num _, b => by cases b <;> simp [agree]
  | str _, b => by cases b <;> simp [agree]
  | arr xs, b => by cases b <;> simp [agree, agreeItems_eq_iff xs]
  | obj xs, b => by cases b <;> simp [agree, agreeFields_eq_iff xs]

/-- Items agree under exact comparison of numbers just when they are equal. -/
theorem agreeItems_eq_iff : ∀ xs ys : List Json, agreeItems (· == ·) xs ys = true ↔ xs = ys
  | [], ys => by cases ys <;> simp [agreeItems]
  | x :: xs, ys => by
    cases ys <;> simp [agreeItems, agree_eq_iff x, agreeItems_eq_iff xs]

/-- Fields agree under exact comparison of numbers just when they are equal. -/
theorem agreeFields_eq_iff :
    ∀ xs ys : List (String × Json), agreeFields (· == ·) xs ys = true ↔ xs = ys
  | [], ys => by cases ys <;> simp [agreeFields]
  | (k, x) :: xs, ys => by
    cases ys <;> simp [agreeFields, agree_eq_iff x, agreeFields_eq_iff xs, Prod.ext_iff]

end

instance : DecidableEq Json := fun a b => decidable_of_iff _ (agree_eq_iff a b)

mutual

/-- Every value is the same as itself. -/
theorem same_refl : ∀ a : Json, a.same a = true
  | null => rfl
  | bool _ => by simp [same, agree]
  | num n => by simp [same, agree, Number.sameNumber_refl]
  | str _ => by simp [same, agree]
  | arr xs => by simpa [same, agree] using sameItems_refl xs
  | obj xs => by simpa [same, agree] using sameFields_refl xs

/-- Items are the same as themselves. -/
theorem sameItems_refl : ∀ xs : List Json, agreeItems Number.sameNumber xs xs = true
  | [] => rfl
  | x :: xs => by
    have hx := same_refl x
    simp only [same] at hx
    simp [agreeItems, hx, sameItems_refl xs]

/-- Fields are the same as themselves. -/
theorem sameFields_refl :
    ∀ xs : List (String × Json), agreeFields Number.sameNumber xs xs = true
  | [] => rfl
  | (k, x) :: xs => by
    have hx := same_refl x
    simp only [same] at hx
    simp [agreeFields, hx, sameFields_refl xs]

end

end Json

end ScriptHost
