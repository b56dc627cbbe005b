import GatedPredicate.Bound.Error

/-!
# Types of operations

The static type of the result of every operator, from the static types of its operands, or the
error that rules the operation out for all values of these types.

- `unaryType`, `binaryType`, `indexType`, `conditionalType`
-/

namespace GatedPredicate

open GatedPredicate.Syntax

namespace ValueType

/-- `bool`, or what may turn out to be one. -/
def maybeBool (t : ValueType) : Bool :=
  t == .bool || t == .dynamic

/-- Types that index a sequence. -/
def isIndex (t : ValueType) : Bool :=
  t == .int || t == .uint || t == .dynamic

/-- Whether some values of the two types have an order. -/
def areOrdered (a b : ValueType) : Bool :=
  a == .dynamic || b == .dynamic || (a.isNumeric && b.isNumeric) ||
    (a == b && (a == .string || a == .char || a == .dateTime))

end ValueType

/-- The type of a prefix operator's result. -/
def unaryType (op : UnaryOp) (t : ValueType) : Except BindError ValueType :=
  match op with
  | .not => if t.maybeBool then .ok .bool else .error (.unaryOperand op t)
  | .neg =>
    if t = .uint then .ok .int
    else if t.maybeNumeric then .ok t
    else .error (.unaryOperand op t)

/-- The type of an arithmetic result. An addition with an operand of unknown type may join
texts. -/
def arithmeticType (op : BinaryOp) (l r : ValueType) : Option ValueType :=
  if op = .add ∧ (l = .dynamic ∨ r = .dynamic) then some .dynamic else l.promote r

/-- The type of an infix operator's result. -/
def binaryType (op : BinaryOp) (l r : ValueType) : Except BindError ValueType :=
  let mismatch : Except BindError ValueType := .error (.binaryOperands op l r)
  match op with
  | .and | .or => if l.maybeBool && r.maybeBool then .ok .bool else mismatch
  | .eq | .ne => .ok .bool
  | .lt | .le | .gt | .ge => if l.areOrdered r then .ok .bool else mismatch
  | _ =>
    if op = .add ∧ (l = .string ∨ r = .string) then .ok .string
    else
      match arithmeticType op l r with
      | some t => .ok t
      | none => mismatch

/-- The type of an element of a sequence or of a field of a JSON value. -/
def indexType (target position : ValueType) : Except BindError ValueType :=
  let mismatch : Except BindError ValueType := .error (.notIndexable target position)
  match target with
  | .list => if position.isIndex then .ok .dynamic else mismatch
  | .dynamic => if position.isIndex || position == .string then .ok .dynamic else mismatch
  | .string => if position.isIndex then .ok .char else mismatch
  | .json => if position.isIndex || position == .string then .ok .json else mismatch
  | _ => mismatch

/-- The type of a conditional with branches of the given types. Null goes with every type. -/
def conditionalType (a b : ValueType) : Except BindError ValueType :=
  if a = b then .ok a
  else if a = .null then .ok b
  else if b = .null then .ok a
  else if a = .dynamic ∨ b = .dynamic then .ok .dynamic
  else
    match a.promote b with
    | some t => .ok t
    | none => .error (.branches a b)

end GatedPredicate
