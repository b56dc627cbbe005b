import GatedPredicate.Number.Shortest

/-!
# Decimals

A decimal is a sign, a mantissa below `2 ^ 96` and a scale of at most 28: it stands for
`± mantissa / 10 ^ scale`. The scale is part of what a decimal is, `1.5` and `1.50` print
differently, but comparison is by value.

- `Decimal`, `Decimal.make?`, `Decimal.ofInt64`, `Decimal.ofUInt64`
- `Decimal.scaled`: the value in units of `10 ^ -28`
- `Decimal.compare`, `Decimal.sameValue`
- `Decimal.text`
-/

namespace GatedPredicate

open GatedPredicate.Number

/-- A sign, a 96-bit mantissa and a scale from 0 to 28. -/
structure Decimal where
  negative : Bool
  mantissa : Nat
  scale : Nat
  mantissa_lt : mantissa < 2 ^ 96
  scale_le : scale ≤ 28
deriving DecidableEq

namespace Decimal

/-- The decimal with the given parts, if they are in range. A zero mantissa has no sign. -/
def make? (negative : Bool) (mantissa scale : Nat) : Option Decimal :=
  if h : mantissa < 2 ^ 96 ∧ scale ≤ 28 then
    some ⟨negative && mantissa != 0, mantissa, scale, h.1, h.2⟩
  else none

/-- Zero without places. -/
def zero : Decimal := ⟨false, 0, 0, by decide, by decide⟩

/-- One without places. -/
def one : Decimal := ⟨false, 1, 0, by decide, by decide⟩

instance : Inhabited Decimal := ⟨zero⟩

/-- The integer `n`, whose magnitude is below `2 ^ 64`. -/
def ofMagnitude (negative : Bool) (n : Nat) (h : n < 2 ^ 65) : Decimal :=
  ⟨negative, n, 0, Nat.lt_trans h (by decide), by decide⟩

/-- A signed 64-bit integer as a decimal without places. -/
def ofInt64 (n : Int64) : Decimal :=
  ofMagnitude (decide (n.toInt < 0)) n.toInt.natAbs (by
    have hlow := Int64.le_toInt n
    have hhigh := Int64.toInt_lt n
    omega)

/-- An unsigned 64-bit integer as a decimal without places. -/
def ofUInt64 (n : UInt64) : Decimal :=
  ofMagnitude false n.toNat (Nat.lt_trans (UInt64.toNat_lt n) (by decide))

/-- The mantissa with its sign. -/
def signed (d : Decimal) : Int :=
  if d.negative then -(d.mantissa : Int) else d.mantissa

/-- The value in units of `10 ^ -28`, in which every decimal is a whole number. -/
def scaled (d : Decimal) : Int :=
  d.signed * 10 ^ (28 - d.scale)

/-- Whether the value is zero, whatever the sign and the scale. -/
def isZero (d : Decimal) : Bool :=
  d.mantissa == 0

/-- Comparison by value. -/
def compare (a b : Decimal) : Ordering :=
  Ord.compare a.scaled b.scaled

/-- Equality by value. -/
def sameValue (a b : Decimal) : Bool :=
  a.scaled == b.scaled

/-- The decimal with the other sign. Zero keeps the sign it is given. -/
def negate (d : Decimal) : Decimal :=
  { d with negative := !d.negative }

/-- The decimal without its sign. -/
def abs (d : Decimal) : Decimal :=
  { d with negative := false }

/-- The digits with as many places as the scale says. -/
def digitsText (mantissa scale : Nat) : List Char :=
  let digits := decimalDigits mantissa
  let padded := zeros (scale + 1 - digits.length) ++ digits
  if scale = 0 then padded
  else
    let whole := padded.length - scale
    padded.take whole ++ '.' :: padded.drop whole

/-- The text of a decimal: all its places, and a sign even before zero if it has one. -/
def text (d : Decimal) : String :=
  let body := digitsText d.mantissa d.scale
  String.ofList (if d.negative then '-' :: body else body)

end Decimal

end GatedPredicate
