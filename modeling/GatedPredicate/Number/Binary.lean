import GatedPredicate.Number.Power
import GatedPredicate.Number.Round

/-!
# Binary floating-point formats

A finite binary number is `mantissa * 2 ^ exponent`. A format bounds both; `Format.nearest`
finds the number of a format nearest to a quotient of integers, with ties to the even mantissa.

- `Format`, `Format.double`, `Format.single`
- `Format.nearest`: correct rounding of a quotient
- `Parts`, `parts`: what the bits of a double say
- `ofParts`: the double with given sign, mantissa and exponent
-/

namespace GatedPredicate.Number

/-- A binary format: mantissas below `2 ^ precision`, exponents between the two bounds. -/
structure Format where
  precision : Nat
  minExponent : Int
  maxExponent : Int
deriving DecidableEq, Repr

/-- Double precision: 53 bits. -/
def Format.double : Format := ⟨53, -1074, 971⟩

/-- Single precision: 24 bits. -/
def Format.single : Format := ⟨24, -149, 104⟩

/-- The exponent of the leading bit of `n / d`, for positive `n` and `d`. -/
def leadingBit (n d : Nat) : Int :=
  let guess : Int := (n.log2 : Int) - (d.log2 : Int)
  let below :=
    if 0 ≤ guess then n < d * 2 ^ guess.toNat else n * 2 ^ (-guess).toNat < d
  if below then guess - 1 else guess

/-- The integer nearest to `n / d / 2 ^ e`, ties to even. -/
def scaledHalfEven (n d : Nat) (e : Int) : Nat :=
  if 0 ≤ e then halfEven n (d * 2 ^ e.toNat) else halfEven (n * 2 ^ (-e).toNat) d

/-- Mantissa and exponent of the number nearest to `n / d`, or `none` where that is beyond the
largest finite one. -/
def Format.nearest (f : Format) (n d : Nat) : Option (Nat × Int) :=
  if n = 0 then some (0, f.minExponent)
  else
    let exponent := max f.minExponent (leadingBit n d - (f.precision - 1))
    let mantissa := scaledHalfEven n d exponent
    let (mantissa, exponent) :=
      if mantissa = 2 ^ f.precision then (2 ^ (f.precision - 1), exponent + 1)
      else (mantissa, exponent)
    if exponent ≤ f.maxExponent then some (mantissa, exponent) else none

/-- What the bits of a double say. -/
inductive Parts where
  | notANumber
  | infinite (negative : Bool)
  | finite (negative : Bool) (mantissa : Nat) (exponent : Int)
deriving DecidableEq, Repr

/-- Takes a double apart. The value of a finite one is `mantissa * 2 ^ exponent`. -/
def parts (x : Float) : Parts :=
  let bits := x.toBits.toNat
  let negative := decide (2 ^ 63 ≤ bits)
  let field : Nat := bits / 2 ^ 52 % 2 ^ 11
  let fraction : Nat := bits % 2 ^ 52
  if field = 2047 then
    if fraction = 0 then .infinite negative else .notANumber
  else if field = 0 then .finite negative fraction (-1074)
  else .finite negative (2 ^ 52 + fraction) ((field : Int) - 1075)

/-- The bits of a double of magnitude `mantissa * 2 ^ exponent`, which must be one of the
format's numbers; `none` stands for infinity. -/
def bitsOf (negative : Bool) (magnitude : Option (Nat × Int)) : UInt64 :=
  let sign := if negative then 2 ^ 63 else 0
  match magnitude with
  | none => UInt64.ofNat (sign + 2047 * 2 ^ 52)
  | some (mantissa, exponent) =>
    if mantissa < 2 ^ 52 then UInt64.ofNat (sign + mantissa)
    else UInt64.ofNat (sign + (exponent + 1075).toNat * 2 ^ 52 + (mantissa - 2 ^ 52))

/-- The double nearest to the quotient `n / d` with the given sign. -/
def nearestDouble (negative : Bool) (n d : Nat) : Float :=
  Float.ofBits (bitsOf negative (Format.double.nearest n d))

/-- The double of magnitude `mantissa * 2 ^ exponent`, rounded if it has to be. -/
def ofParts (negative : Bool) (mantissa : Nat) (exponent : Int) : Float :=
  if 0 ≤ exponent then nearestDouble negative (mantissa * 2 ^ exponent.toNat) 1
  else nearestDouble negative mantissa (2 ^ (-exponent).toNat)

/-- The double that is not a number. -/
def notANumber : Float := Float.ofBits 0x7FF8000000000000

/-- The infinite double of the given sign. -/
def infinity (negative : Bool) : Float := Float.ofBits (bitsOf negative none)

/-- The double nearest to an integer. -/
def doubleOfInt (n : Int) : Float :=
  nearestDouble (decide (n < 0)) n.natAbs 1

end GatedPredicate.Number
