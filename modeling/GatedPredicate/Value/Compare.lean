import GatedPredicate.Value.Numeric
import GatedPredicate.Value.Text

/-!
# Operators on values

Numbers compare by value whatever their kinds. Other values are equal only within one kind, and
only text, characters and date-times have an order besides numbers.

- `Value.equals`, `Value.compare`, `Value.isOrderedWith`
- `applyBinary`: every infix operator that needs both operands
-/

namespace GatedPredicate

open GatedPredicate.Syntax

namespace Value

/-! ## Equality -/

/-- Equality of two values that are neither lists nor both numbers. -/
def sameKindEquals : Value → Value → Bool
  | .null, .null => true
  | .bool a, .bool b => a == b
  | .char a, .char b => a == b
  | .string a, .string b => a == b
  | .dateTime a, .dateTime b => a == b
  | .guid a, .guid b => a == b
  | .json a, .json b => a.same b
  | _, _ => false

/-- Equality of two values that are not both lists. -/
def leafEquals (a b : Value) : Bool :=
  match promote? a b with
  | some pair => pair.compare == some .eq
  | none => sameKindEquals a b

mutual

/-- Equality as the operator `==` sees it. -/
def equals : Value → Value → Bool
  | .list xs, .list ys => equalsAll xs ys
  | a, b => leafEquals a b

/-- Equality of lists, item by item. -/
def equalsAll : List Value → List Value → Bool
  | [], [] => true
  | x :: xs, y :: ys => x.equals y && equalsAll xs ys
  | _, _ => false

end

/-! ## Order -/

/-- The order of two values. There is none between kinds without one, nor where one side is not
a number. -/
def compare (a b : Value) : Option Ordering :=
  match promote? a b with
  | some pair => pair.compare
  | none =>
    match a, b with
    | .string x, .string y => some (Ord.compare x y)
    | .char x, .char y => some (Ord.compare x y)
    | .dateTime x, .dateTime y => some (x.compare y)
    | _, _ => none

/-- Whether the two values are of kinds that have an order, even if they have none themselves. -/
def isOrderedWith (a b : Value) : Bool :=
  match promote? a b with
  | some _ => true
  | none =>
    match a, b with
    | .string _, .string _ => true
    | .char _, .char _ => true
    | .dateTime _, .dateTime _ => true
    | _, _ => false

end Value

/-! ## Operators -/

/-- Whether an order satisfies a relational operator. -/
def BinaryOp.holdsOf (op : BinaryOp) (order : Ordering) : Bool :=
  match op with
  | .lt => order == .lt
  | .le => order != .gt
  | .gt => order == .gt
  | _ => order != .lt

/-- Applies a relational operator. What is not a number compares false with everything. -/
def applyRelational (op : BinaryOp) (l r : Value) : Outcome Value :=
  match l.compare r with
  | some order => .ok (.bool (BinaryOp.holdsOf op order))
  | none =>
    if l.isOrderedWith r then .ok (.bool false)
    else .error (.typeMismatch op.symbol (.notComparable l.type r.type))

/-- Applies an arithmetic operator to what must be numbers. -/
def applyArithmetic (op : BinaryOp) (l r : Value) : Outcome Value :=
  (arithmetic? op l r).getD (.error (.typeMismatch op.symbol (.notApplicable l.type r.type)))

/-- Applies `+`, which joins texts if one operand is a text. -/
def applyAdd (l r : Value) : Outcome Value :=
  match l, r with
  | .string a, r => .ok (.string (a ++ r.text))
  | l, .string b => .ok (.string (l.text ++ b))
  | l, r => applyArithmetic .add l r

/-- Applies an infix operator other than `&&` and `||` to two values. -/
def applyBinary (op : BinaryOp) (l r : Value) : Outcome Value :=
  match op with
  | .eq => .ok (.bool (l.equals r))
  | .ne => .ok (.bool !(l.equals r))
  | .lt | .le | .gt | .ge => applyRelational op l r
  | .add => applyAdd l r
  | _ => applyArithmetic op l r

end GatedPredicate
