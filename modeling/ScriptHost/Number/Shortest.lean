import ScriptHost.Number.Double

/-!
# Shortest decimals of a double

The reals that round to a double form an interval between the halfway points to its neighbours; the
ends belong to it when its place is even. Of the decimals in that interval those with the fewest
digits are the shortest, and of these the nearest to the double is chosen.

`Decimal.shortest` looks at the grids of the multiples of `10 ^ p`, from coarse to fine. A grid has
a point in the interval only if one of the two grid points around the double lies in it, so it is
enough to test these two.

## Main definitions

* `ScriptHost.Decimal` — a coefficient times a power of ten.
* `ScriptHost.Decimal.shortest` — the shortest decimal that rounds to a double.
-/

namespace ScriptHost

/-- The number `coefficient * 10 ^ power`. -/
structure Decimal where
  /-- The digits as a natural number. -/
  coefficient : Nat
  /-- The power of ten that the last digit counts. -/
  power : Int
deriving DecidableEq, Repr

namespace Decimal

/-- The value of a place and its interval on the grid of `10 ^ power`: the double, the lower and the
upper end are `value`, `low` and `high` over `unit`. -/
structure Scaled where
  /-- The common denominator. -/
  unit : Nat
  /-- The numerator of the lower end. -/
  low : Nat
  /-- The numerator of the double. -/
  value : Nat
  /-- The numerator of the upper end. -/
  high : Nat
  /-- Whether the ends round to the double. -/
  closed : Bool

/-- A positive place measured in multiples of `10 ^ power`. The halfway points are sums of two
values of places, hence the factor two. -/
def Scaled.ofPlace (place : Nat) (power : Int) : Scaled :=
  let factor := Nat.pow 10 (-power).toNat
  { unit := 2 * Double.scaleUnit * Nat.pow 10 power.toNat
    low := (Double.unitsAt (place - 1) + Double.unitsAt place) * factor
    value := 2 * Double.unitsAt place * factor
    high := (Double.unitsAt place + Double.unitsAt (place + 1)) * factor
    closed := place % 2 == 0 }

/-- Whether a grid point rounds to the double. -/
def Scaled.contains (s : Scaled) (point : Nat) : Bool :=
  let p := point * s.unit
  if s.closed then s.low ≤ p && p ≤ s.high else s.low < p && p < s.high

/-- The nearest grid point that rounds to the double, if there is one; of two points equally near
the even one. -/
def Scaled.nearestPoint? (s : Scaled) : Option Nat :=
  let below := s.value / s.unit
  let rest := s.value % s.unit
  match s.contains below, s.contains (below + 1) with
  | true, true =>
    if 2 * rest < s.unit then some below
    else if s.unit < 2 * rest then some (below + 1)
    else if below % 2 = 0 then some below else some (below + 1)
  | true, false => some below
  | false, true => some (below + 1)
  | false, false => none

/-- A power of ten above the value of a positive place, and at most a thousandfold above it. The
factor `30103 / 100000` is the logarithm of two to seven digits. -/
def powerAbove (place : Nat) : Int :=
  ((Double.unitsAt place).log2 - 1074 + 1 : Int) * 30103 / 100000 + 2

/-- The shortest decimal that rounds to the double at a positive place. Seventeen digits always
suffice, so one of the grids tried has a point in the interval. -/
def shortest (place : Nat) : Decimal :=
  let top := powerAbove place
  ((List.range 24).findSome? fun (i : Nat) =>
    let power := top - i
    (Scaled.ofPlace place power).nearestPoint?.map fun point => ⟨point, power⟩).getD ⟨0, 0⟩

end Decimal

end ScriptHost
