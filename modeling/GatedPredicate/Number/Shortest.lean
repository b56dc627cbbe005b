import GatedPredicate.Number.Binary

/-!
# Shortest decimal digits of a binary number

A double stands for every real that rounds to it. Among the decimal numbers in that interval
with the fewest digits, `shortest` picks the one nearest to the double itself.

- `Digits`: a decimal number as digits and the position of the point
- `shortest`: the fewest digits that read back
- `positional`: digits written out without an exponent
-/

namespace GatedPredicate.Number

/-- The number `0.d₁d₂… * 10 ^ point`, where `d₁d₂…` are the digits of `digits`. -/
structure Digits where
  digits : Nat
  point : Int
deriving DecidableEq, Repr

/-- The decimal digits of `n`, most significant first. -/
def decimalDigits (n : Nat) : List Char :=
  Nat.toDigits 10 n

/-- `n / d` lies in `[10 ^ (p - 1), 10 ^ p)` for `p = pointOf n d`, for positive `n` and `d`. -/
def pointOf (n d : Nat) : Int :=
  let guess : Int := ((decimalDigits n).length : Int) - ((decimalDigits d).length : Int)
  let reaches :=
    if 0 ≤ guess then d * 10 ^ guess.toNat ≤ n else d ≤ n * 10 ^ (-guess).toNat
  if reaches then guess + 1 else guess

/-- Whether `a * 10 ^ k ≤ b * 2 ^ e`. -/
def decimalLe (a : Nat) (k : Int) (b : Nat) (e : Int) : Bool :=
  a * 10 ^ k.toNat * 2 ^ (-e).toNat ≤ b * 2 ^ e.toNat * 10 ^ (-k).toNat

/-- Whether `a * 10 ^ k < b * 2 ^ e`. -/
def decimalLt (a : Nat) (k : Int) (b : Nat) (e : Int) : Bool :=
  a * 10 ^ k.toNat * 2 ^ (-e).toNat < b * 2 ^ e.toNat * 10 ^ (-k).toNat

/-- How an exact tie between two equally short candidates is settled. -/
inductive Tie where
  /-- The larger candidate. -/
  | up
  /-- The candidate with an even last digit. -/
  | even
deriving DecidableEq, Repr

/-- The interval of reals that round to a double, in units of a quarter of its last bit. -/
structure Rounding where
  low : Nat
  middle : Nat
  high : Nat
  exponent : Int
  closed : Bool

/-- The rounding interval of the double `mantissa * 2 ^ exponent`. The gap below a power of
two is half as wide, except at the bottom of the format. -/
def roundingOf (mantissa : Nat) (exponent : Int) : Rounding where
  low := if mantissa = 2 ^ 52 ∧ exponent ≠ -1074 then 4 * mantissa - 1 else 4 * mantissa - 2
  middle := 4 * mantissa
  high := 4 * mantissa + 2
  exponent := exponent - 2
  closed := mantissa % 2 == 0

/-- Whether `a * 10 ^ k` rounds to the double. -/
def Rounding.holds (r : Rounding) (a : Nat) (k : Int) : Bool :=
  if r.closed then !decimalLt a k r.low r.exponent && decimalLe a k r.high r.exponent
  else !decimalLe a k r.low r.exponent && decimalLt a k r.high r.exponent

/-- The one of the two neighbours `a` and `a + 1` on the grid `10 ^ k` that rounds to the
double, and the nearer one if both do. -/
def Rounding.pick (r : Rounding) (tie : Tie) (a : Nat) (k : Int) : Option Nat :=
  match r.holds a k, r.holds (a + 1) k with
  | false, false => none
  | true, false => some a
  | false, true => some (a + 1)
  | true, true =>
    -- the midpoint of the two neighbours is `(2 * a + 1) / 2`
    if decimalLt (2 * a + 1) k (2 * r.middle) r.exponent then some (a + 1)
    else if decimalLe (2 * a + 1) k (2 * r.middle) r.exponent then
      match tie with
      | .up => some (a + 1)
      | .even => some (if a % 2 = 0 then a else a + 1)
    else some a

/-- Removes zeros at the end, at most `fuel` of them. -/
def dropZeros : Nat → Nat → Nat
  | 0, n => n
  | fuel + 1, n => if n % 10 = 0 then dropZeros fuel (n / 10) else n

/-- Tries ever finer grids, `fuel` of them, from `count` digits on. The candidate that is the
next power of ten moves the point. -/
def searchDigits (r : Rounding) (tie : Tie) (n d : Nat) (point : Int) : Nat → Nat → Digits
  | 0, _ => ⟨0, point⟩
  | fuel + 1, count =>
    let k := point - count
    let a := if 0 ≤ k then n / (d * 10 ^ k.toNat) else n * 10 ^ (-k).toNat / d
    match r.pick tie a k with
    | some found => if found = 10 ^ count then ⟨1, point + 1⟩ else ⟨dropZeros 20 found, point⟩
    | none => searchDigits r tie n d point fuel (count + 1)

/-- The fewest digits that read back as the double `mantissa * 2 ^ exponent`, for a positive
mantissa; 17 digits are always enough. -/
def shortest (tie : Tie) (mantissa : Nat) (exponent : Int) : Digits :=
  let n := mantissa * 2 ^ exponent.toNat
  let d := 2 ^ (-exponent).toNat
  searchDigits (roundingOf mantissa exponent) tie n d (pointOf n d) 17 1

/-- `n` zeros. -/
def zeros (n : Nat) : List Char :=
  List.replicate n '0'

/-- Digits written out with a point where it falls inside or in front, and zeros up to the
point where it falls behind. There is never an exponent. -/
def Digits.positional (x : Digits) : List Char :=
  let ds := decimalDigits x.digits
  if x.point ≤ 0 then '0' :: '.' :: zeros (-x.point).toNat ++ ds
  else if ds.length ≤ x.point.toNat then ds ++ zeros (x.point.toNat - ds.length)
  else ds.take x.point.toNat ++ '.' :: ds.drop x.point.toNat

/-- Digits in scientific notation: one digit before the point, no point for a single digit, and
an exponent that always has a sign. -/
def Digits.scientific (x : Digits) : List Char :=
  let ds := decimalDigits x.digits
  let exponent := x.point - 1
  let sign := if exponent < 0 then '-' else '+'
  let tail := 'e' :: sign :: decimalDigits exponent.natAbs
  match ds with
  | [] => tail
  | [d] => d :: tail
  | d :: more => d :: '.' :: more ++ tail

end GatedPredicate.Number
