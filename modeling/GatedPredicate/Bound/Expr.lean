import GatedPredicate.Catalog.Member
import GatedPredicate.Syntax.Operator

/-!
# Bound trees

The tree that runs. Every name is resolved: to a value, a field of a bag, a lambda parameter by
its slot, an overload, or the members among which the receiver decides.
-/

namespace GatedPredicate

open GatedPredicate.Syntax

/-- The two quantifiers over sequences. -/
inductive Quantifier where
  | all | any
deriving DecidableEq, Repr

namespace Quantifier

def name : Quantifier → String
  | .all => "All"
  | .any => "Any"

def ofName? (name : String) : Option Quantifier :=
  if name = "All" then some .all else if name = "Any" then some .any else none

end Quantifier

/-- A member that a call may mean. -/
structure Candidate where
  receiver : Receiver
  qualifiedName : String
  overload : Overload

/-- A tree without names. -/
inductive Bound where
  | const (value : Value)
  /-- A field of a bag. -/
  | field (bag : String) (name : String)
  /-- A lambda parameter. -/
  | param (slot : Nat)
  | array (items : List Bound)
  | unary (op : UnaryOp) (operand : Bound)
  | binary (op : BinaryOp) (left : Bound) (right : Bound)
  | conditional (cond : Bound) (onTrue : Bound) (onFalse : Bound)
  | index (target : Bound) (position : Bound)
  /-- A call of a static function. -/
  | call (name : String) (overload : Overload) (args : List Bound)
  /-- A method call or property read; the first candidate that accepts the receiver is meant. -/
  | member (name : String) (receiver : Bound) (candidates : List Candidate) (args : List Bound)
  /-- A quantifier over the elements of `receiver`, each bound to `slot` in turn. -/
  | quantifier (kind : Quantifier) (receiver : Bound) (slot : Nat) (body : Bound)

end GatedPredicate
