import GatedPredicate.Catalog.Module
import GatedPredicate.Value.Numeric

/-!
# The mathematical functions

Functions on numbers of every kind. Rounding leaves integers alone and keeps decimals decimal;
powers and roots are always doubles. The module is imported, so its functions and constants
need no name in front.
-/

namespace GatedPredicate.Catalog

open GatedPredicate.Number

/-- The tag of the module. -/
def mathTag : String := "System.Math"

/-- An argument that is no number. -/
def notNumber (name : String) (v : Value) : Outcome Value :=
  .error (.expected name "a number" v.type)

def doubleArgument (name : String) (v : Value) : Outcome Float :=
  match v.toDouble? with
  | some x => .ok x
  | none => .error (.expected name "a number" v.type)

/-! ## Magnitude and sign -/

/-- The absolute value. The smallest signed integer has none. -/
def abs (v : Value) : Outcome Value :=
  match v with
  | .int n => (orOverflow (int64? n.toInt.natAbs)).map .int
  | .uint n => .ok (.uint n)
  | .float x => .ok (.float (absDouble x))
  | .decimal d => .ok (.decimal d.abs)
  | other => notNumber "Math.Abs" other

/-- The sign as one of -1, 0 and 1. -/
def sign (v : Value) : Outcome Value :=
  match v with
  | .int n => .ok (.int (Int64.ofInt n.toInt.sign))
  | .uint n => .ok (.int (if n.toNat = 0 then 0 else 1))
  | .float x =>
    match compareDoubles x 0 with
    | none => .error (.functionFailed "Math.Sign" .signOfNaN)
    | some .eq => .ok (.int 0)
    | some .gt => .ok (.int 1)
    | some .lt => .ok (.int (-1))
  | .decimal d => .ok (.int (if d.isZero then 0 else if d.negative then -1 else 1))
  | other => notNumber "Math.Sign" other

/-! ## Choice -/

/-- Picks one of two numbers, in the kind that holds both. -/
def choose (name : String) (pick : NumericPair → Value) (a b : Value) : Outcome Value :=
  match promote? a b with
  | some pair => .ok (pick pair)
  | none => .error (.typeMismatch name (.expectedTwo "numbers" a.type b.type))

/-- A number brought into a range, whose bounds must be in order. -/
def clamp (v low high : Value) : Outcome Value :=
  match promote? low high with
  | none => notNumber "Math.Clamp" low
  | some bounds =>
    if bounds.compare = some .gt then .error (.functionFailed "Math.Clamp" .reversedBounds)
    else
      (choose "Math.Clamp" NumericPair.larger v low).bind fun raised =>
        choose "Math.Clamp" NumericPair.smaller raised high

/-! ## Rounding -/

/-- Rounds doubles and decimals by the given functions; integers are whole already. -/
def roundWith (name : String) (onDouble : Float → Float) (onDecimal : Decimal → Decimal)
    (v : Value) : Outcome Value :=
  match v with
  | .int n => .ok (.int n)
  | .uint n => .ok (.uint n)
  | .float x => .ok (.float (onDouble x))
  | .decimal d => .ok (.decimal (onDecimal d))
  | other => notNumber name other

/-- Rounds a double to a number of places: scales it up, rounds half to even and scales it down,
so the result has the rounding errors of both scalings. -/
def roundDoubleTo (places : Nat) (x : Float) : Float :=
  let scale := doubleOfInt (10 ^ places : Nat)
  roundHalfEven (x * scale) / scale

/-- Rounds to between 0 and 15 places. -/
def roundTo (v places : Value) : Outcome Value :=
  match places with
  | .int n =>
    if 0 ≤ n.toInt ∧ n.toInt ≤ 15 then
      let places := n.toInt.toNat
      roundWith "Math.Round" (roundDoubleTo places) (Decimal.roundTo · places) v
    else .error (.functionFailed "Math.Round" .digitsOutOfRange)
  | other => .error (.expected "Math.Round" "long" other.type)

/-! ## Powers and roots -/

/-- The power `x ^ y` of doubles. -/
def power (x y : Value) : Outcome Value :=
  (doubleArgument "Math.Pow" x).bind fun x =>
    (doubleArgument "Math.Pow" y).map fun y => .float (Float.pow x y)

/-- The square root as a double. -/
def squareRoot (x : Value) : Outcome Value :=
  (doubleArgument "Math.Sqrt" x).map fun x => .float (Float.sqrt x)

/-! ## The module -/

def rounding (name : String) (onDouble : Float → Float) (onDecimal : Decimal → Decimal) :
    Function :=
  ⟨name, [.unary .promoted (roundWith ("Math." ++ name) onDouble onDecimal)]⟩

/-- The mathematical module. -/
def mathModule : Module where
  tag := mathTag
  aliases := ["Math"]
  imported := true
  functions :=
    [⟨"Abs", [.unary .promoted abs]⟩,
      ⟨"Min", [.binary .promoted (choose "Math.Min" NumericPair.smaller)]⟩,
      ⟨"Max", [.binary .promoted (choose "Math.Max" NumericPair.larger)]⟩,
      ⟨"Clamp", [.ternary .promoted clamp]⟩,
      ⟨"Round", [.unary .promoted (roundWith "Math.Round" roundHalfEven Decimal.round),
        .binary .promoted roundTo]⟩,
      rounding "Floor" floorDouble Decimal.floor,
      rounding "Ceiling" ceilDouble Decimal.ceil,
      rounding "Truncate" truncDouble Decimal.trunc,
      ⟨"Pow", [.binary (.fixed .float) power]⟩,
      ⟨"Sqrt", [.unary (.fixed .float) squareRoot]⟩,
      ⟨"Sign", [.unary (.fixed .int) sign]⟩]
  constants := [("PI", .float 3.141592653589793), ("E", .float 2.718281828459045)]

end GatedPredicate.Catalog
