import GatedPredicate.Decimal.Arith
import GatedPredicate.Number.DoubleArith

/-!
# Decimals and doubles

Neither kind of number contains the other. A double becomes a decimal by rewriting its power of
two as powers of five and ten within 96 bits; a decimal becomes a double through its integer and
fractional parts.

- `retain?`: every digit of the double that 96 bits hold
- `ofDouble?`: the digits that a double guarantees
- `toDouble`
-/

namespace GatedPredicate.Decimal

open GatedPredicate.Number

/-- A mantissa with the powers of five and ten it is still to be multiplied by. -/
structure Exchange where
  mantissa : Nat
  five : Int
  ten : Int

/-- Uses up one power of one fifth: an even mantissa is halved, an odd one multiplied by five,
or halved as well where 96 bits do not hold the product. -/
def Exchange.stepDown (x : Exchange) : Exchange :=
  if x.mantissa % 2 = 0 then ⟨x.mantissa / 2, x.five - 1, x.ten + 1⟩
  else if x.mantissa * 5 < 2 ^ 96 then ⟨x.mantissa * 5, x.five - 1, x.ten⟩
  else ⟨x.mantissa / 2, x.five - 1, x.ten + 1⟩

/-- Uses up one power of five: the mantissa is doubled, or divided by five where 96 bits do not
hold the double. -/
def Exchange.stepUp (x : Exchange) : Exchange :=
  if x.mantissa < 2 ^ 95 then ⟨x.mantissa * 2, x.five + 1, x.ten - 1⟩
  else ⟨x.mantissa / 5, x.five + 1, x.ten⟩

/-- Applies a step a number of times. -/
def Exchange.iterate (step : Exchange → Exchange) : Nat → Exchange → Exchange
  | 0, x => x
  | n + 1, x => Exchange.iterate step n (step x)

/-- Divides by ten until at most 28 places are left, rounding half up each time. What has become
zero is zero without places. -/
def limitPlaces : Nat → Nat → Nat → Nat × Nat
  | 0, m, places => (m, places)
  | fuel + 1, m, places =>
    if places ≤ 28 then (m, places)
    else if m / 10 = 0 then (0, 0)
    else limitPlaces fuel ((m + 5) / 10) (places - 1)

/-- Mantissa and scale of the double `mantissa * 2 ^ exponent`, if 96 bits hold it. -/
def exchange? (mantissa : Nat) (exponent : Int) : Option (Nat × Nat) :=
  let start : Exchange := ⟨mantissa, -exponent, exponent⟩
  let x :=
    if exponent ≤ 0 then Exchange.iterate Exchange.stepDown exponent.natAbs start
    else Exchange.iterate Exchange.stepUp exponent.natAbs start
  if 0 < x.ten then
    let m := x.mantissa * 10 ^ x.ten.toNat
    if m < 2 ^ 96 then some (m, 0) else none
  else some (limitPlaces x.ten.natAbs x.mantissa x.ten.natAbs)

/-- Divides by ten, rounding half up, while there are places and `m` has more than 52 bits. -/
def limitDigits : Nat → Nat → Nat × Nat
  | 0, m => (m, 0)
  | places + 1, m => if 2 ^ 52 ≤ m then limitDigits places ((m + 5) / 10) else (m, places + 1)

/-- Drops zeros at the end. -/
def dropDecimalZeros : Nat → Nat → Nat × Nat
  | 0, m => (m, 0)
  | places + 1, m => if m % 10 = 0 then dropDecimalZeros places (m / 10) else (m, places + 1)

/-- Converts a double with `finish` applied to mantissa and scale. The sign of zero is kept. -/
def convert? (x : Float) (finish : Nat × Nat → Nat × Nat) : Option Decimal :=
  match parts x with
  | .notANumber => none
  | .infinite _ => none
  | .finite negative mantissa exponent =>
    if mantissa = 0 then some { zero with negative := negative }
    else
      (exchange? mantissa exponent).bind fun found =>
        let (m, scale) := finish found
        (make? false m scale).map fun d => { d with negative := negative }

/-- The decimal with every digit of a double that fits. -/
def retain? (x : Float) : Option Decimal :=
  convert? x id

/-- The decimal with the fifteen or sixteen digits that a double guarantees, without zeros at
the end. -/
def ofDouble? (x : Float) : Option Decimal :=
  convert? x fun (m, scale) =>
    let (m, scale) := limitDigits scale m
    dropDecimalZeros scale m

/-- `x` to the power `n` by repeated squaring, the lowest bit of `n` first. -/
def powerBySquaring (x : Float) : Nat → Nat → Float → Float
  | 0, _, r => r
  | fuel + 1, n, r =>
    let r := if n % 2 = 1 then r * x else r
    if n / 2 = 0 then r else powerBySquaring (x * x) fuel (n / 2) r

def tenPower (n : Nat) : Float :=
  powerBySquaring (doubleOfInt 10) 64 n (doubleOfInt 1)

/-- The double of a decimal. A whole number is converted as one; otherwise the parts before and
after the point are converted apart, added, and rounded to the decimal's own places. -/
def toDouble (d : Decimal) : Float :=
  if d.scale = 0 then doubleOfInt d.signed
  else
    let unit := 10 ^ d.scale
    let whole := doubleOfInt (d.mantissa / unit : Nat)
    let fraction := doubleOfInt (d.mantissa % unit : Nat) / doubleOfInt (unit : Nat)
    let magnitude :=
      if d.mantissa % unit = 0 then whole
      else
        let scaling := tenPower d.scale
        roundHalfAway ((whole + fraction) * scaling) / scaling
    if d.negative then -magnitude else magnitude

end GatedPredicate.Decimal
