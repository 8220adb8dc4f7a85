import ScriptHost.Number.Basic

/-!
# Numerals

A numeral is the text of a JSON number: an optional minus sign, whole digits without a superfluous
leading zero, an optional fraction and an optional exponent.

The value of a numeral without fraction and exponent is the integer it denotes, when that fits 64
bits and is not a negative zero. Every other numeral denotes a double, found in two roundings: the
leading digits that fit an unsigned 64-bit integer make up the significand, which is rounded to a
double; this is then multiplied or divided by the power of ten that the exponent and the point call
for. Whole digits past the significand count as zeros, fraction digits past it are dropped. A
numeral past the finite doubles has no value.

## Main definitions

* `ScriptHost.Numeral` — sign, whole digits, fraction and exponent.
* `ScriptHost.Numeral.ofBytes?` — the numeral that some bytes spell.
* `ScriptHost.Numeral.value?` — the number that a numeral denotes.
-/

namespace ScriptHost

/-- The parts of a number's text. -/
structure Numeral where
  /-- Whether a minus sign stands in front. -/
  negative : Bool
  /-- The digits before the point. -/
  whole : List Nat
  /-- The digits after the point, if there is a point. -/
  fraction : Option (List Nat)
  /-- The exponent, if there is one. -/
  exponent : Option Int
deriving DecidableEq

namespace Numeral

/-! ## Spelling -/

/-- Whether a byte is an ASCII digit. -/
def isDigit (b : UInt8) : Bool :=
  0x30 ≤ b && b ≤ 0x39

/-- The value of an ASCII digit. -/
def digitValue (b : UInt8) : Nat :=
  b.toNat - 0x30

/-- The digits at the front of some bytes, and what follows them. -/
def takeDigits (bs : List UInt8) : List Nat × List UInt8 :=
  ((bs.takeWhile isDigit).map digitValue, bs.dropWhile isDigit)

/-- The natural number that digits denote. -/
def natural (ds : List Nat) : Nat :=
  ds.foldl (fun n d => 10 * n + d) 0

/-- A minus sign at the front of some bytes, and what follows it. -/
def takeMinus : List UInt8 → Bool × List UInt8
  | 0x2D :: rest => (true, rest)
  | bs => (false, bs)

/-- The whole digits at the front: one zero, or digits that do not begin with zero. -/
def takeWhole? (bs : List UInt8) : Option (List Nat × List UInt8) :=
  match takeDigits bs with
  | ([], _) => none
  | (0 :: _ :: _, _) => none
  | taken => some taken

/-- The fraction at the front: a point and at least one digit, or nothing. -/
def takeFraction? : List UInt8 → Option (Option (List Nat) × List UInt8)
  | 0x2E :: rest =>
    match takeDigits rest with
    | ([], _) => none
    | (ds, rest) => some (some ds, rest)
  | bs => some (none, bs)

/-- The exponent at the front: the letter, an optional sign and at least one digit, or nothing. -/
def takeExponent? : List UInt8 → Option (Option Int × List UInt8)
  | [] => some (none, [])
  | mark :: rest =>
    if mark == 0x65 || mark == 0x45 then
      let (minus, rest) := match rest with
        | 0x2B :: rest => (false, rest)
        | rest => takeMinus rest
      match takeDigits rest with
      | ([], _) => none
      | (ds, rest) => some (some (if minus then -(natural ds : Int) else natural ds), rest)
    else some (none, mark :: rest)

/-- The numeral that the bytes spell from the first to the last. -/
def ofBytes? (bs : List UInt8) : Option Numeral := do
  let (negative, bs) := takeMinus bs
  let (whole, bs) ← takeWhole? bs
  let (fraction, bs) ← takeFraction? bs
  let (exponent, bs) ← takeExponent? bs
  if bs.isEmpty then some { negative, whole, fraction, exponent } else none

/-! ## Value -/

/-- Appends digits to a significand as long as it stays below `2 ^ 64`; the digits left over. -/
def absorb : Nat → List Nat → Nat × List Nat
  | significand, [] => (significand, [])
  | significand, d :: ds =>
    if 10 * significand + d < UInt64.size then absorb (10 * significand + d) ds
    else (significand, d :: ds)

/-- A double times a power of ten; none past the finite doubles. Powers of ten are doubles up to
`10 ^ 308`; a smaller power is reached by dividing by `10 ^ 308` until the rest is in reach or
nothing is left of the double. -/
def scale (d : Double) (power : Int) : Option Double :=
  if d.place = 0 then some d
  else if 308 < power then none
  else if 0 ≤ power then d.times (Nat.pow 10 power.toNat)
  else if -308 ≤ power then d.dividedBy (Nat.pow 10 (-power).toNat)
  else (d.dividedBy (Nat.pow 10 308)).bind fun quotient => scale quotient (power + 308)
termination_by power.natAbs
decreasing_by omega

/-- The double that a numeral denotes. -/
def double? (n : Numeral) : Option Double := do
  let (significand, dropped) := absorb 0 n.whole
  let fraction := n.fraction.getD []
  let (significand, left) := absorb significand fraction
  let power := n.exponent.getD 0 + dropped.length - (fraction.length - left.length : Nat)
  scale (← Double.nearest n.negative significand 1) power

/-- The integer that a numeral without fraction and exponent denotes. -/
def integer (n : Numeral) : Int :=
  if n.negative then -(natural n.whole : Int) else natural n.whole

/-- The number that a numeral denotes. -/
def value? (n : Numeral) : Option Number :=
  if h : n.fraction = none ∧ n.exponent = none ∧ ¬ (n.negative ∧ n.integer = 0) ∧
      Number.least ≤ n.integer ∧ n.integer < Number.bound then
    some (.integer n.integer h.2.2.2)
  else n.double?.map Number.double

end Numeral

end ScriptHost
