import GatedPredicate.Decimal.Basic

/-!
# Decimal arithmetic

Results are exact where a decimal can hold them. Where the mantissa would pass 96 bits or the
scale 28, places are dropped from the end, as few as possible, and the last one that stays is
rounded half to even; where no place is left to drop, there is no result.

- `fit?`: the rounding shared by all operations
- `add?`, `sub?`, `mul?`, `div?`, `rem?`
- `trunc`, `floor`, `ceil`, `roundTo`: dropping places on purpose
-/

namespace GatedPredicate

open GatedPredicate.Number

namespace Decimal

/-! ## Fitting an exact result -/

/-- How many places must go at least for `m` to have 96 bits and the scale to be at most 28. -/
def excess? (m scale : Nat) : Option Nat :=
  (List.range (scale + 1)).find? fun k => decide (scale ≤ k + 28 ∧ m / 10 ^ k < 2 ^ 96)

/-- The decimal nearest to `± m / 10 ^ scale`. Rounding up may need one more place to go. -/
def fit? (negative : Bool) (m scale : Nat) : Option Decimal :=
  (excess? m scale).bind fun k =>
    let rounded := if k = 0 then m else halfEven m (10 ^ k)
    if rounded < 2 ^ 96 then make? negative rounded (scale - k)
    else if scale = k then none
    else make? negative (halfEven rounded 10) (scale - k - 1)

/-- The decimal nearest to a signed quotient by a power of ten. -/
def fitInt? (n : Int) (scale : Nat) : Option Decimal :=
  fit? (decide (n < 0)) n.natAbs scale

/-! ## Sums and products -/

/-- The mantissa of `d` at a scale that is no smaller than its own. -/
def signedAt (d : Decimal) (scale : Nat) : Int :=
  d.signed * 10 ^ (scale - d.scale)

/-- The sum, with the places of the operand that has more. Adding zero changes nothing, not even
the number of places. -/
def add? (a b : Decimal) : Option Decimal :=
  if a.isZero then some b
  else if b.isZero then some a
  else
    let scale := max a.scale b.scale
    fitInt? (a.signedAt scale + b.signedAt scale) scale

/-- The difference, with the places of the operand that has more. Taking zero away changes
nothing, and neither does taking one zero away from another. -/
def sub? (a b : Decimal) : Option Decimal :=
  if a.isZero then some (if b.isZero then b else b.negate)
  else if b.isZero then some a
  else
    let scale := max a.scale b.scale
    fitInt? (a.signedAt scale - b.signedAt scale) scale

/-- The product, with the places of both operands. A zero operand gives zero without places,
and so do two short operands whose product has more than 47 places. -/
def mul? (a b : Decimal) : Option Decimal :=
  let scale := a.scale + b.scale
  if a.isZero || b.isZero then some zero
  else if a.mantissa < 2 ^ 32 ∧ b.mantissa < 2 ^ 32 ∧ 47 < scale then some zero
  else fit? (a.negative != b.negative) (a.mantissa * b.mantissa) scale

/-! ## Quotients -/

/-- Divides by ten once more if that leaves no remainder and there is a place to drop. -/
def dropPlaces (places : Nat) (m scale : Nat) : Nat × Nat :=
  if m % 2 ^ places = 0 ∧ places ≤ scale ∧ m % 10 ^ places = 0 then
    (m / 10 ^ places, scale - places)
  else (m, scale)

/-- Drops zeros from the end of a quotient: eight at a time while the low 32 bits are zero, then
four, two and one. Up to seven zeros always go; of more, some may stay. -/
def dropQuotientZeros : Nat → Nat → Nat → Nat × Nat
  | 0, m, scale => (m, scale)
  | fuel + 1, m, scale =>
    if m % 2 ^ 32 = 0 ∧ 8 ≤ scale ∧ m % 10 ^ 8 = 0 then
      dropQuotientZeros fuel (m / 10 ^ 8) (scale - 8)
    else
      let (m, scale) := dropPlaces 4 m scale
      let (m, scale) := dropPlaces 2 m scale
      dropPlaces 1 m scale

/-- The places of an inexact quotient before zeros are dropped: the digits of `n / d` are
produced in steps of nine, or fewer where 28 places or 96 bits are reached, until nothing
remains. The result is the quotient so far, its scale and the remainder. -/
def longDivision (d : Nat) : Nat → Nat → Int → Nat → Nat × Int × Nat
  | 0, q, scale, r => (q, scale, r)
  | fuel + 1, q, scale, r =>
    if r = 0 ∧ 0 ≤ scale then (q, scale, r)
    else
      let wanted := if r = 0 then min 9 (-scale).toNat else min 9 (28 - scale).toNat
      let fitting := (List.range (wanted + 1)).reverse.find? fun p => decide (q * 10 ^ p < 2 ^ 96)
      match fitting with
      | none | some 0 => (q, scale, r)
      | some p =>
        let n := r * 10 ^ p
        let grown := q * 10 ^ p + n / d
        if grown < 2 ^ 96 then longDivision d fuel grown (scale + p) (n % d)
        else (grown, scale + p, n % d)

/-- Rounds the quotient `q + r / d` at a scale: half to even, with one place fewer where 96 bits
do not suffice. -/
def roundQuotient? (negative : Bool) (d q : Nat) (scale : Int) (r : Nat) : Option Decimal :=
  if scale < 0 then none
  else
    let finish (m places : Nat) :=
      let (m, places) := dropQuotientZeros 4 m places
      make? negative m places
    let rounded := if r = 0 then q else halfEven (q * d + r) d
    if rounded < 2 ^ 96 then finish rounded scale.toNat
    else if scale = 0 then none
    else finish (halfEven (q * d + r) (10 * d)) (scale.toNat - 1)

/-- The quotient, for a divisor other than zero: the difference of the scales suffices if the
mantissas divide, otherwise as many places as there is room for. -/
def div? (a b : Decimal) : Option Decimal :=
  if b.isZero then none
  else if a.isZero then some zero
  else
    let negative := a.negative != b.negative
    let scale : Int := (a.scale : Int) - (b.scale : Int)
    let q := a.mantissa / b.mantissa
    let r := a.mantissa % b.mantissa
    if r = 0 then
      if 0 ≤ scale then make? negative q scale.toNat
      else make? negative (q * 10 ^ (-scale).toNat) 0
    else
      let (q, scale, r) := longDivision b.mantissa 60 q scale r
      roundQuotient? negative b.mantissa q scale r

/-- The remainder of truncated division, for a divisor other than zero: the dividend itself if it
is smaller, zero without places if it is equal, otherwise exact with the places of the operand
that has more. -/
def rem? (a b : Decimal) : Option Decimal :=
  if b.isZero then none
  else if a.isZero then some zero
  else if a.abs.sameValue b.abs then some zero
  else if a.abs.compare b.abs = .lt then some a
  else
    let scale := max a.scale b.scale
    fit? a.negative (Int.natAbs (a.signedAt scale) % Int.natAbs (b.signedAt scale)) scale

/-! ## Dropping places -/

/-- The integer part. The sign stays even if it is zero. -/
def trunc (d : Decimal) : Decimal where
  negative := d.negative
  mantissa := d.mantissa / 10 ^ d.scale
  scale := 0
  mantissa_lt := Nat.lt_of_le_of_lt (Nat.div_le_self _ _) d.mantissa_lt
  scale_le := zero.scale_le

/-- Whether there are places other than zeros. -/
def hasFraction (d : Decimal) : Bool :=
  d.mantissa % 10 ^ d.scale != 0

/-- The largest integer that is not above `d`. -/
def floor (d : Decimal) : Decimal :=
  if d.scale = 0 then d
  else if d.negative && d.hasFraction then (d.trunc.sub? one).getD d.trunc
  else d.trunc

/-- The smallest integer that is not below `d`; a whole number keeps its places. -/
def ceil (d : Decimal) : Decimal :=
  if d.scale = 0 || !d.hasFraction then d
  else (d.trunc.add? (if d.negative then zero else one)).getD d.trunc

/-- `d` with at most `places` places, rounded half to even. -/
def roundTo (d : Decimal) (places : Nat) : Decimal :=
  if d.scale ≤ places then d
  else (make? d.negative (halfEven d.mantissa (10 ^ (d.scale - places))) places).getD d

/-- The integer nearest to `d`, the even one of two. -/
def round (d : Decimal) : Decimal :=
  d.roundTo 0

/-- The integer part as an integer. -/
def toInt (d : Decimal) : Int :=
  d.trunc.signed

end Decimal

end GatedPredicate
