import GatedPredicate.Decimal.Double
import GatedPredicate.Error
import GatedPredicate.Value.Basic

/-!
# Numbers in operations

Two numbers are first brought to a common kind that holds both: doubles win over everything,
decimals over integers, and integers of different kinds meet in the narrowest kind that holds
both exactly. Integers and decimals never wrap or lose digits without an error.

- `NumericPair`, `promote?`
- `NumericPair.compare`, `NumericPair.smaller`, `NumericPair.larger`
- `arithmetic?`: the five arithmetic operators
- `negate`: the minus sign
-/

namespace GatedPredicate

open GatedPredicate.Number GatedPredicate.Syntax

/-- Two numbers of one kind. -/
inductive NumericPair where
  | int (a b : Int64)
  | uint (a b : UInt64)
  | float (a b : Float)
  | decimal (a b : Decimal)

/-! ## The common kind -/

/-- Any number as a double. -/
def Value.toDouble? : Value → Option Float
  | .int n => some (doubleOfInt n.toInt)
  | .uint n => some (doubleOfInt n.toNat)
  | .float x => some x
  | .decimal d => some d.toDouble
  | _ => none

/-- An integer or a decimal as a decimal. -/
def Value.toDecimal? : Value → Option Decimal
  | .int n => some (Decimal.ofInt64 n)
  | .uint n => some (Decimal.ofUInt64 n)
  | .decimal d => some d
  | _ => none

/-- The pair with its two sides exchanged. -/
def NumericPair.swap : NumericPair → NumericPair
  | .int a b => .int b a
  | .uint a b => .uint b a
  | .float a b => .float b a
  | .decimal a b => .decimal b a

/-- A signed integer and an unsigned one that is too large for a signed kind. -/
def widePair (signed : Int64) (unsigned : UInt64) : NumericPair :=
  if 0 ≤ signed.toInt then .uint (UInt64.ofNat signed.toInt.toNat) unsigned
  else .decimal (Decimal.ofInt64 signed) (Decimal.ofUInt64 unsigned)

/-- A signed and an unsigned integer in the narrowest kind that holds both. -/
def mixedPair (signed : Int64) (unsigned : UInt64) : NumericPair :=
  (int64? unsigned.toNat).elim (widePair signed unsigned) (.int signed)

/-- Two values as numbers of one kind, if both are numbers. -/
def promote? (a b : Value) : Option NumericPair :=
  match a, b with
  | .int x, .int y => some (.int x y)
  | .uint x, .uint y => some (.uint x y)
  | .int x, .uint y => some (mixedPair x y)
  | .uint x, .int y => some (mixedPair y x).swap
  | .float x, b => b.toDouble?.map (.float x)
  | a, .float y => a.toDouble?.map (.float · y)
  | .decimal x, b => b.toDecimal?.map (.decimal x)
  | a, .decimal y => a.toDecimal?.map (.decimal · y)
  | _, _ => none

/-! ## Comparison -/

/-- The order of two doubles; there is none if one of them is not a number. -/
def compareDoubles (x y : Float) : Option Ordering :=
  if x < y then some .lt
  else if x == y then some .eq
  else if x > y then some .gt
  else none

namespace NumericPair

/-- The order of the two numbers; there is none if one of them is not a number. -/
def compare : NumericPair → Option Ordering
  | .int a b => some (Ord.compare a.toInt b.toInt)
  | .uint a b => some (Ord.compare a.toNat b.toNat)
  | .float a b => compareDoubles a b
  | .decimal a b => some (a.compare b)

/-- The first number of the pair as a value. -/
def first : NumericPair → Value
  | .int a _ => .int a
  | .uint a _ => .uint a
  | .float a _ => .float a
  | .decimal a _ => .decimal a

/-- The second number of the pair as a value. -/
def second (p : NumericPair) : Value :=
  p.swap.first

/-- The first number if the order is `want` or they are equal, otherwise the second. What is not
a number spreads to the result. -/
def pick (want : Ordering) (p : NumericPair) : Value :=
  match p, p.compare with
  | .float .., none => .float notANumber
  | p, order => if order = some want ∨ order = some .eq then p.first else p.second

/-- The smaller number, in the common kind. -/
def smaller (p : NumericPair) : Value :=
  p.pick .lt

/-- The larger number, in the common kind. -/
def larger (p : NumericPair) : Value :=
  p.pick .gt

end NumericPair

/-! ## Arithmetic -/

/-- An exact result, or overflow where it does not fit. -/
def orOverflow {α : Type} : Option α → Outcome α
  | some x => .ok x
  | none => .error (.arithmetic .overflow)

/-- What the arithmetic operators do on one kind of number. -/
structure Operations (α : Type) where
  add : α → α → Option α
  sub : α → α → Option α
  mul : α → α → Option α
  div : α → α → Option α
  rem : α → α → Option α
  /-- Divisors that are refused. -/
  isZero : α → Bool

/-- Applies an operator. -/
def Operations.apply {α : Type} (ops : Operations α) (op : BinaryOp) (x y : α) : Outcome α :=
  match op with
  | .add => orOverflow (ops.add x y)
  | .sub => orOverflow (ops.sub x y)
  | .mul => orOverflow (ops.mul x y)
  | .div =>
    if ops.isZero y then .error (.arithmetic .divisionByZero) else orOverflow (ops.div x y)
  | .mod =>
    if ops.isZero y then .error (.arithmetic .divisionByZero) else orOverflow (ops.rem x y)
  | op => .error (.unexpected (.notArithmetic op))

/-- Signed integers: exact results in range. The remainder has none where the quotient has none. -/
def signedOperations : Operations Int64 where
  add x y := int64? (x.toInt + y.toInt)
  sub x y := int64? (x.toInt - y.toInt)
  mul x y := int64? (x.toInt * y.toInt)
  div x y := int64? (x.toInt.tdiv y.toInt)
  rem x y := (int64? (x.toInt.tdiv y.toInt)).bind fun _ => int64? (x.toInt.tmod y.toInt)
  isZero y := y.toInt == 0

/-- Unsigned integers: exact results in range. -/
def unsignedOperations : Operations UInt64 where
  add x y := uint64? ((x.toNat : Int) + y.toNat)
  sub x y := uint64? ((x.toNat : Int) - y.toNat)
  mul x y := uint64? ((x.toNat : Int) * y.toNat)
  div x y := uint64? ((x.toNat / y.toNat : Nat) : Int)
  rem x y := uint64? ((x.toNat % y.toNat : Nat) : Int)
  isZero y := y.toNat == 0

/-- Doubles: every operation has a result. -/
def doubleOperations : Operations Float where
  add x y := some (x + y)
  sub x y := some (x - y)
  mul x y := some (x * y)
  div x y := some (x / y)
  rem x y := some (remDouble x y)
  isZero _ := false

/-- Decimals: results that 96 bits hold. -/
def decimalOperations : Operations Decimal where
  add := Decimal.add?
  sub := Decimal.sub?
  mul := Decimal.mul?
  div := Decimal.div?
  rem := Decimal.rem?
  isZero := Decimal.isZero

/-- Applies an arithmetic operator to a pair. -/
def NumericPair.apply (op : BinaryOp) : NumericPair → Outcome Value
  | .int a b => (signedOperations.apply op a b).map .int
  | .uint a b => (unsignedOperations.apply op a b).map .uint
  | .float a b => (doubleOperations.apply op a b).map .float
  | .decimal a b => (decimalOperations.apply op a b).map .decimal

/-- Applies an arithmetic operator to two values, if both are numbers. -/
def arithmetic? (op : BinaryOp) (a b : Value) : Option (Outcome Value) :=
  (promote? a b).map fun p => p.apply op

/-- The value with the other sign. -/
def Value.negate (v : Value) : Outcome Value :=
  match v with
  | .int n => (orOverflow (int64? (-n.toInt))).map .int
  | .uint n => (orOverflow (int64? (-(n.toNat : Int)))).map .int
  | .float x => .ok (.float (-x))
  | .decimal d => .ok (.decimal d.negate)
  | other => .error (.expected "-" "a number" other.type)

end GatedPredicate
