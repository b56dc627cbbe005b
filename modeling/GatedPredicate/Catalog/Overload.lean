import GatedPredicate.Error
import GatedPredicate.Value.Basic

/-!
# Functions and their overloads

A function has one overload for each number of arguments it takes. An overload knows the type of
its result, and what it computes is a total function of its arguments.

- `ResultType`, `Overload`, `Overload.resultType?`
- `Overload.unary` and so on: overloads from functions with that many arguments
- `Function`
-/

namespace GatedPredicate

/-- How the static type of a result is found. -/
inductive ResultType where
  | fixed (t : ValueType)
  /-- The common type of the arguments, which must be numbers. -/
  | promoted
deriving DecidableEq, Repr

/-- An implementation for one number of arguments. -/
structure Overload where
  /-- The number of arguments, not counting the receiver of a member. -/
  arity : Nat
  result : ResultType
  /-- The result for a list of arguments, the receiver of a member first. -/
  run : List Value → Outcome Value

namespace Overload

/-- The static type of the result for arguments of the given types; none if they rule the
overload out. -/
def resultType? (o : Overload) (args : List ValueType) : Option ValueType :=
  match o.result with
  | .fixed t => some t
  | .promoted =>
    match args with
    | [] => none
    | t :: rest => if t.maybeNumeric then rest.foldlM ValueType.promote t else none

/-! ## Building overloads -/

/-- The error of a call with the wrong number of arguments. -/
def miscounted : Outcome Value :=
  .error (.unexpected .argumentCount)

/-- Runs a function of one value. -/
def run1 (f : Value → Outcome Value) : List Value → Outcome Value
  | [a] => f a
  | _ => miscounted

/-- Runs a function of two values. -/
def run2 (f : Value → Value → Outcome Value) : List Value → Outcome Value
  | [a, b] => f a b
  | _ => miscounted

/-- Runs a function of three values. -/
def run3 (f : Value → Value → Value → Outcome Value) : List Value → Outcome Value
  | [a, b, c] => f a b c
  | _ => miscounted

/-- An overload with one argument. -/
def unary (result : ResultType) (f : Value → Outcome Value) : Overload :=
  ⟨1, result, run1 f⟩

/-- An overload with two arguments. -/
def binary (result : ResultType) (f : Value → Value → Outcome Value) : Overload :=
  ⟨2, result, run2 f⟩

/-- An overload with three arguments. -/
def ternary (result : ResultType) (f : Value → Value → Value → Outcome Value) : Overload :=
  ⟨3, result, run3 f⟩

/-- An overload with a receiver and no arguments. -/
def getter (result : ValueType) (f : Value → Outcome Value) : Overload :=
  ⟨0, .fixed result, run1 f⟩

/-- An overload with a receiver and one argument. -/
def method1 (result : ValueType) (f : Value → Value → Outcome Value) : Overload :=
  ⟨1, .fixed result, run2 f⟩

/-- An overload with a receiver and two arguments. -/
def method2 (result : ValueType) (f : Value → Value → Value → Outcome Value) : Overload :=
  ⟨2, .fixed result, run3 f⟩

end Overload

/-- The overload with the given number of arguments, the first one if there are several. -/
def findOverload? (overloads : List Overload) (arity : Nat) : Option Overload :=
  overloads.find? fun o => o.arity == arity

/-- A static function. -/
structure Function where
  name : String
  overloads : List Overload

/-- The numbers of arguments that a function accepts, in increasing order. -/
def Function.arities (f : Function) : List Nat :=
  ((f.overloads.map Overload.arity).mergeSort (· ≤ ·)).eraseDups

end GatedPredicate
