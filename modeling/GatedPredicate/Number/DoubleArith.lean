import GatedPredicate.Number.Binary

/-!
# Whole doubles and remainders

Rounding a double to a whole number in five ways, and the exact remainder of a division. All of
them work on the parts of the double, so they are exact; what is not finite stays as it is, and
a result of zero keeps the sign of the argument.

- `truncDouble`, `floorDouble`, `ceilDouble`, `roundHalfAway`, `roundHalfEven`
- `absDouble`, `wholeDouble?`, `remDouble`
-/

namespace GatedPredicate.Number

/-- Rounds a double to a whole number. `pick negative n d` chooses the magnitude for the quotient
`n / d` and is only asked where the double may have a fraction. -/
def wholeWith (pick : Bool → Nat → Nat → Nat) (x : Float) : Float :=
  match parts x with
  | .finite negative mantissa exponent =>
    if 0 ≤ exponent then x
    else nearestDouble negative (pick negative mantissa (2 ^ (-exponent).toNat)) 1
  | _ => x

/-- The smallest integer that is not below `n / d`. -/
def ceilDiv (n d : Nat) : Nat :=
  if n % d = 0 then n / d else n / d + 1

/-- `x` without its fraction. -/
def truncDouble (x : Float) : Float :=
  wholeWith (fun _ n d => n / d) x

/-- The largest whole double that is not above `x`. -/
def floorDouble (x : Float) : Float :=
  wholeWith (fun negative n d => if negative then ceilDiv n d else n / d) x

/-- The smallest whole double that is not below `x`. -/
def ceilDouble (x : Float) : Float :=
  wholeWith (fun negative n d => if negative then n / d else ceilDiv n d) x

/-- The whole double nearest to `x`; halves go away from zero. -/
def roundHalfAway (x : Float) : Float :=
  wholeWith (fun _ n d => halfAway n d) x

/-- The whole double nearest to `x`; halves go to the even one. -/
def roundHalfEven (x : Float) : Float :=
  wholeWith (fun _ n d => halfEven n d) x

/-- `x` without its sign. -/
def absDouble (x : Float) : Float :=
  match parts x with
  | .finite true _ _ => -x
  | .infinite true => -x
  | _ => x

/-- The value of a whole double. -/
def wholeDouble? (x : Float) : Option Int :=
  match parts x with
  | .finite negative mantissa exponent =>
    let divisor := 2 ^ (-exponent).toNat
    if mantissa % divisor = 0 then
      let magnitude : Nat := mantissa * 2 ^ exponent.toNat / divisor
      some (if negative then -(magnitude : Int) else magnitude)
    else none
  | _ => none

/-- The remainder of the division of `x` by `y` truncated toward zero, with the sign of `x`. There
is none for a divisor of zero or an infinite dividend. -/
def remDouble (x y : Float) : Float :=
  match parts x, parts y with
  | .finite negative m e, .finite _ n f =>
    if n = 0 then notANumber
    else
      let least := min e f
      let dividend := m * 2 ^ (e - least).toNat
      let divisor := n * 2 ^ (f - least).toNat
      ofParts negative (dividend % divisor) least
  | .finite .., .infinite _ => x
  | _, _ => notANumber

end GatedPredicate.Number
