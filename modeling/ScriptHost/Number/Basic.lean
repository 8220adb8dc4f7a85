import ScriptHost.Number.Shortest

/-!
# Numbers of JSON data

A number is an integer that fits 64 bits, signed or unsigned, or a finite double. The two kinds are
never equal: `1` and `1.0` are different numbers, and both are written so that they are read back as
the kind they are.

## Main definitions

* `ScriptHost.Number` — an integer in range or a double.
* `ScriptHost.digits`, `ScriptHost.decimal` — the decimal digits of a natural number.
* `ScriptHost.Number.text` — the characters of a number.
* `ScriptHost.Number.sameNumber` — equality of numbers of one kind.
* `ScriptHost.Number.toUInt64?`, `ScriptHost.Number.toUInt32?`, `ScriptHost.Number.toUInt8?` — the
  unsigned integer that a number is, when it fits.

## Main results

* `ScriptHost.Number.toUInt64?_ofUInt64`, `ScriptHost.Number.toUInt32?_ofUInt32`,
  `ScriptHost.Number.toUInt8?_ofUInt8` — an unsigned integer is read back from its number.
-/

namespace ScriptHost

/-- The least integer a number can be: the least signed 64-bit integer. -/
def Number.least : Int := -9223372036854775808

/-- The first integer past those a number can be: the first past the unsigned 64-bit integers. -/
def Number.bound : Int := 18446744073709551616

/-- A number of JSON data. -/
inductive Number where
  /-- An integer that fits 64 bits. -/
  | integer (value : Int) (fits : Number.least ≤ value ∧ value < Number.bound)
  /-- A finite double. -/
  | double (value : Double)
deriving DecidableEq

/-! ## The text of a number -/

/-- The decimal digits of a natural number. -/
def digits (n : Nat) : List Char :=
  Nat.toDigits 10 n

/-- A natural number in decimal digits. -/
def decimal (n : Nat) : String :=
  String.ofList (digits n)

/-- The characters of an integer. -/
def integerText (n : Int) : List Char :=
  if n < 0 then '-' :: digits n.natAbs else digits n.natAbs

namespace Decimal

/-- Digits with the point after the first `count` of them, filled up with zeros on either side so
that a digit stands on both sides of the point. -/
def pointed (ds : List Char) (count : Int) : List Char :=
  if count ≤ 0 then '0' :: '.' :: (List.replicate (-count).toNat '0' ++ ds)
  else
    let n := count.toNat
    if ds.length ≤ n then ds ++ List.replicate (n - ds.length) '0' ++ ['.', '0']
    else ds.take n ++ '.' :: ds.drop n

/-- Digits with the point after the first one, unless it is the only one, and an exponent with a
sign. -/
def scientific (ds : List Char) (exponent : Int) : List Char :=
  let mantissa := if ds.length ≤ 1 then ds else ds.take 1 ++ '.' :: ds.drop 1
  let sign := if exponent < 0 then '-' else '+'
  mantissa ++ 'e' :: sign :: digits exponent.natAbs

/-- The characters of a positive decimal: with a point and no exponent from `10 ^ (-5)` up to
`10 ^ 16`, and in scientific form otherwise. -/
def text (d : Decimal) : List Char :=
  let ds := digits d.coefficient
  let exponent : Int := ds.length + d.power - 1
  if -5 ≤ exponent ∧ exponent < 16 then pointed ds (exponent + 1) else scientific ds exponent

end Decimal

/-- The characters of a double: its sign and its shortest decimal, zero as `0.0`. -/
def Double.text (d : Double) : List Char :=
  let absolute := if d.place = 0 then ['0', '.', '0'] else (Decimal.shortest d.place).text
  if d.negative then '-' :: absolute else absolute

namespace Number

/-- The characters of a number. -/
def text : Number → List Char
  | integer value _ => integerText value
  | double value => value.text

/-- Equality of numbers: integers with integers, doubles with doubles. -/
def sameNumber : Number → Number → Bool
  | integer a _, integer b _ => a == b
  | double a, double b => a.sameNumber b
  | _, _ => false

/-- A number is the same number as itself. -/
theorem sameNumber_refl (n : Number) : n.sameNumber n = true := by
  cases n <;> simp [sameNumber, Double.sameNumber_refl]

/-! ## Unsigned integers -/

/-- The number of a natural number below the bound. -/
def ofNat (n : Nat) (h : n < UInt64.size) : Number :=
  .integer n ⟨by unfold least; omega, by unfold bound; unfold UInt64.size at h; omega⟩

/-- The number of an unsigned 64-bit integer. -/
def ofUInt64 (n : UInt64) : Number :=
  ofNat n.toNat n.toNat_lt_size

/-- The number of an unsigned 32-bit integer. -/
def ofUInt32 (n : UInt32) : Number :=
  ofNat n.toNat (Nat.lt_trans n.toNat_lt_size (by decide))

/-- The number of a byte. -/
def ofUInt8 (n : UInt8) : Number :=
  ofNat n.toNat (Nat.lt_trans n.toNat_lt_size (by decide))

/-- The natural number that a number is, when it is an integer below a bound. -/
def toNatBelow? (limit : Nat) : Number → Option Nat
  | integer value _ => if 0 ≤ value ∧ value < limit then some value.toNat else none
  | double _ => none

/-- The unsigned 64-bit integer that a number is. -/
def toUInt64? (n : Number) : Option UInt64 :=
  (n.toNatBelow? UInt64.size).map UInt64.ofNat

/-- The unsigned 32-bit integer that a number is. -/
def toUInt32? (n : Number) : Option UInt32 :=
  (n.toNatBelow? UInt32.size).map UInt32.ofNat

/-- The byte that a number is. -/
def toUInt8? (n : Number) : Option UInt8 :=
  (n.toNatBelow? UInt8.size).map UInt8.ofNat

/-- A natural number below the limit is read back from its number. -/
theorem toNatBelow?_ofNat {n limit : Nat} (h : n < UInt64.size) (hl : n < limit) :
    (ofNat n h).toNatBelow? limit = some n := by
  simp only [ofNat, toNatBelow?]
  rw [if_pos ⟨by omega, by omega⟩]
  simp

@[simp]
theorem toUInt64?_ofUInt64 (n : UInt64) : (ofUInt64 n).toUInt64? = some n := by
  simp [toUInt64?, ofUInt64, toNatBelow?_ofNat _ n.toNat_lt_size]

@[simp]
theorem toUInt32?_ofUInt32 (n : UInt32) : (ofUInt32 n).toUInt32? = some n := by
  simp [toUInt32?, ofUInt32, toNatBelow?_ofNat _ n.toNat_lt_size]

@[simp]
theorem toUInt8?_ofUInt8 (n : UInt8) : (ofUInt8 n).toUInt8? = some n := by
  simp [toUInt8?, ofUInt8, toNatBelow?_ofNat _ n.toNat_lt_size]

end Number

end ScriptHost
