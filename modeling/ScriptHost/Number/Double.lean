/-!
# Finite doubles

A finite number of the IEEE 754 format *binary64* is a sign and a place: its place is the number of
nonnegative finite doubles below its absolute value. The places follow the order of the absolute
values, so the neighbours of a double are one place away, and the place read in base `2 ^ 52` is the
exponent field followed by the fraction field.

Arithmetic is exact: the value of a place is a natural number of units of `2 ^ (-1074)`, and
`Double.nearest` rounds a quotient of natural numbers to the nearest double, ties to the even place.

## Main definitions

* `ScriptHost.Double` — a sign and a place.
* `ScriptHost.Double.unitsAt` — the value of a place, in units of `2 ^ (-1074)`.
* `ScriptHost.Double.nearest` — the nearest double to a quotient, none from the overflow
  threshold on.
* `ScriptHost.Double.sameNumber` — equality of numbers, under which the two zeros are equal.
-/

namespace ScriptHost

/-- The number of fractions that a double of one exponent can have: `2 ^ 52`. -/
def Double.fractions : Nat := Nat.pow 2 52

/-- The number of units in one: `2 ^ 1074`. -/
def Double.scaleUnit : Nat := Nat.pow 2 1074

/-- The number of places of finite doubles of one sign: `2047` exponents of as many fractions. -/
def Double.places : Nat := 2047 * Double.fractions

/-- A finite binary64 number. -/
structure Double where
  /-- Whether the sign is minus; both zeros exist. -/
  negative : Bool
  /-- The number of nonnegative doubles below the absolute value. -/
  place : Nat
  /-- The number is finite. -/
  place_lt : place < Double.places
deriving DecidableEq, Repr

namespace Double

/-- The value of a place in units of `2 ^ (-1074)`, also for the place after the last finite one. -/
def unitsAt (place : Nat) : Nat :=
  let exponent := place / fractions
  let fraction := place % fractions
  if exponent = 0 then fraction else (fractions + fraction) * Nat.pow 2 (exponent - 1)

/-- The absolute value in units of `2 ^ (-1074)`. -/
def units (d : Double) : Nat :=
  unitsAt d.place

/-- A quotient rounded to the nearest natural number, a half to the even neighbour. -/
def roundQuotient (num den : Nat) : Nat :=
  let low := num / den
  let rest := num % den
  if 2 * rest < den then low
  else if den < 2 * rest then low + 1
  else if low % 2 = 0 then low else low + 1

/-- The greatest `k` with `2 ^ k ≤ num / den`, for a positive numerator and denominator. -/
def binaryOrder (num den : Nat) : Int :=
  let a : Int := num.log2
  let b : Int := den.log2
  let reached := 
    if b ≤ a then den * Nat.pow 2 (a - b).toNat ≤ num else den ≤ num * Nat.pow 2 (b - a).toNat
  if reached then a - b else a - b - 1

/-- The place nearest to a quotient of natural numbers, ties to the even place; it may lie past the
finite places. A quotient of order `k` has `53` significant bits when its unit in the last place is
`2 ^ (k - 52)`, and no unit is below `2 ^ (-1074)`. -/
def nearestPlace (num den : Nat) : Nat :=
  if num = 0 then 0
  else
    let unit := max (binaryOrder num den - 52) (-1074)
    let significand :=
      if unit < 0 then roundQuotient (num * Nat.pow 2 (-unit).toNat) den
      else roundQuotient num (den * Nat.pow 2 unit.toNat)
    (unit + 1074).toNat * fractions + significand

/-- The double of a sign nearest to a quotient; none when it is past the finite ones. -/
def nearest (negative : Bool) (num den : Nat) : Option Double :=
  if h : nearestPlace num den < places then some ⟨negative, nearestPlace num den, h⟩ else none

/-- Zero with a sign. -/
def zero (negative : Bool) : Double :=
  ⟨negative, 0, by decide⟩

/-- The nearest double to the product of a double and a natural number that is itself rounded to a
double first. -/
def times (d : Double) (factor : Nat) : Option Double :=
  nearest d.negative (d.units * unitsAt (nearestPlace factor 1)) (scaleUnit * scaleUnit)

/-- The nearest double to the quotient of a double by a natural number that is itself rounded to a
double first. -/
def dividedBy (d : Double) (divisor : Nat) : Option Double :=
  nearest d.negative d.units (unitsAt (nearestPlace divisor 1))

/-- Equality of numbers: the two zeros are equal, all else is equal only to itself. -/
def sameNumber (a b : Double) : Bool :=
  a.place == b.place && (a.negative == b.negative || a.place == 0)

/-- A double is the same number as itself. -/
theorem sameNumber_refl (d : Double) : d.sameNumber d = true := by
  simp [sameNumber]

end Double

end ScriptHost
