import GatedPredicate.Bound.Activation
import GatedPredicate.Bound.Expr
import GatedPredicate.Catalog.Sequence
import GatedPredicate.Value.Compare

/-!
# Evaluation

The value of a bound tree under an activation, by recursion on the tree. Operands are evaluated
from left to right; `&&`, `||`, the conditional and the quantifiers evaluate no more than they
need. Evaluation always ends, with a value or an error.

- `indexInto`: the element of a sequence, or the field of an object
- `quantify`: the loop of a quantifier
- `Bound.eval`
-/

namespace GatedPredicate

open GatedPredicate.Syntax

/-- The truth value of an operand of `operation`. -/
def Value.asBool (operation : String) (v : Value) : Outcome Bool :=
  match v with
  | .bool b => .ok b
  | other => .error (.expected operation "bool" other.type)

/-! ## Indexing -/

/-- An index as a signed integer; one that is too large for that is out of range anyway. -/
def indexNumber (v : Value) : Outcome Int64 :=
  match v with
  | .int n => .ok n
  | .uint n => .ok ((Number.int64? n.toNat).getD Int64.maxValue)
  | other => .error (.expected "[]" "an integer index" other.type)

/-- The elements that an index counts, in order. -/
def indexable (v : Value) : Outcome (List Value) :=
  match v with
  | .list items => .ok items
  | .string s => .ok (s.toList.map .char)
  | .json (.array items) => .ok (items.map .json)
  | other => .error (.expected "[]" "a sequence" other.type)

/-- The element at a place that must be there. -/
def elementIn (items : List Value) (i : Nat) : Outcome Value :=
  match items[i]? with
  | some v => .ok v
  | none => .error (.unexpected .outOfBounds)

/-- The element at an index. -/
def elementAt (items : List Value) (n : Int64) : Outcome Value :=
  if 0 ≤ n.toInt ∧ n.toInt < items.length then elementIn items n.toInt.toNat
  else .error (.indexOutOfRange n items.length)

/-- The element of a sequence at an index, or the field of a JSON value with a key. -/
def indexInto (target position : Value) : Outcome Value :=
  match target, position with
  | .json j, .string key =>
    let found :=
      match j with
      | .object fields => Json.field? key fields
      | _ => none
    match found with
    | some x => .ok (.json x)
    | none => .error (.functionFailed "JsonElement[]" .keyNotPresent)
  | target, position =>
    (indexNumber position).bind fun n =>
      (indexable target).bind fun items => elementAt items n

/-! ## Members and quantifiers -/

/-- The candidate that accepts the receiver. -/
def dispatch (name : String) (candidates : List Candidate) (receiver : Value) :
    Outcome Candidate :=
  match candidates.find? fun c => c.receiver.accepts receiver with
  | some c => .ok c
  | none => .error (.typeMismatch name (.noMember receiver.type name))

/-- Tests elements in order until one settles the quantifier. -/
def quantify (kind : Quantifier) (test : Value → Outcome Bool) : List Value → Outcome Bool
  | [] => .ok (kind == .all)
  | v :: rest =>
    match test v with
    | .error e => .error e
    | .ok true => if kind = .any then .ok true else quantify kind test rest
    | .ok false => if kind = .all then .ok false else quantify kind test rest

/-! ## Trees -/

namespace Bound

mutual

/-- The value of a tree. -/
def eval (a : Activation) : Bound → Outcome Value
  | .const v => .ok v
  | .field bag name => a.field bag name
  | .param slot =>
    match a.slot slot with
    | some v => .ok v
    | none => .error (.unexpected (.unboundParameter slot))
  | .array items => (evalAll a items).map .list
  | .unary .not operand => do
    let b ← (← eval a operand).asBool "!"
    .ok (.bool !b)
  | .unary .neg operand => do
    (← eval a operand).negate
  | .binary .and left right => do
    if ← (← eval a left).asBool "&&" then
      let b ← (← eval a right).asBool "&&"
      .ok (.bool b)
    else .ok (.bool false)
  | .binary .or left right => do
    if ← (← eval a left).asBool "||" then .ok (.bool true)
    else
      let b ← (← eval a right).asBool "||"
      .ok (.bool b)
  | .binary op left right => do
    let l ← eval a left
    let r ← eval a right
    applyBinary op l r
  | .conditional cond onTrue onFalse => do
    if ← (← eval a cond).asBool "?:" then eval a onTrue else eval a onFalse
  | .index target position => do
    let t ← eval a target
    let p ← eval a position
    indexInto t p
  | .call _ overload args => do
    overload.run (← evalAll a args)
  | .member name receiver candidates args => do
    let r ← eval a receiver
    let candidate ← dispatch name candidates r
    let values ← evalAll a args
    candidate.overload.run (r :: values)
  | .quantifier kind receiver slot body => do
    let items ← Catalog.elements (← eval a receiver)
    let test (v : Value) : Outcome Bool := do
      (← eval (a.bindSlot slot v) body).asBool kind.name
    let b ← quantify kind test items
    .ok (.bool b)

/-- The values of a list of trees, up to the first error. -/
def evalAll (a : Activation) : List Bound → Outcome (List Value)
  | [] => .ok []
  | e :: rest => do
    let v ← eval a e
    let vs ← evalAll a rest
    .ok (v :: vs)

end

end Bound

end GatedPredicate
