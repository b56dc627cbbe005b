/-!
# Types of values

The type that is known of an expression before it runs. Each kind of value has one, and
`dynamic` stands for all that is only known when the expression runs.

- `ValueType`, `ValueType.name`
- `ValueType.isNumeric`
- `ValueType.promote`: the type of an arithmetic result
-/

namespace GatedPredicate

/-- A static type. -/
inductive ValueType where
  | bool | int | uint | float | decimal | char | string | dateTime | guid | null | list | json
  /-- Known only when the expression runs. -/
  | dynamic
deriving DecidableEq, Repr

namespace ValueType

/-- The name of a type in messages. -/
def name : ValueType → String
  | .bool => "bool"
  | .int => "long"
  | .uint => "ulong"
  | .float => "double"
  | .decimal => "decimal"
  | .char => "char"
  | .string => "string"
  | .dateTime => "DateTime"
  | .guid => "Guid"
  | .null => "null"
  | .list => "array"
  | .json => "JsonElement"
  | .dynamic => "dynamic"

/-- The four types of numbers. -/
def isNumeric : ValueType → Bool
  | .int | .uint | .float | .decimal => true
  | _ => false

/-- Numbers, and what may turn out to be one. -/
def maybeNumeric (t : ValueType) : Bool :=
  t.isNumeric || t == .dynamic

/-- The type of an arithmetic operation on two types: doubles win over decimals, decimals over
integers. The two types of integers together are `dynamic`, because the values decide. -/
def promote (a b : ValueType) : Option ValueType :=
  if a.maybeNumeric && b.maybeNumeric then
    if a = .dynamic || b = .dynamic then some .dynamic
    else if a = .float || b = .float then some .float
    else if a = .decimal || b = .decimal then some .decimal
    else if a = b then some a
    else some .dynamic
  else none

end ValueType

end GatedPredicate
