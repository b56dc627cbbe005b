import GatedPredicate.Syntax.Operator
import GatedPredicate.Value.Type

/-!
# Errors of a running expression

Each error names its cause; `message` gives the wording. The only text that comes from outside
is the names of bags, fields and functions.

- `Refusal`: why a function does not accept its arguments
- `Mismatch`: operands of the wrong types
- `Fault`: arithmetic without a result
- `Anomaly`: what a well-formed expression never meets
- `RuntimeError`
-/

namespace GatedPredicate

open GatedPredicate.Syntax

/-- Why a function does not accept arguments of the right types. -/
inductive Refusal where
  | nullArgument
  | malformedText
  | malformedDateTime
  | malformedJson
  | malformedPattern
  | unsupportedOptions
  | notConvertible (source : ValueType)
  | notOneCharacter
  | outsideText
  | reversedBounds
  | digitsOutOfRange
  | signOfNaN
  | keyNotPresent
  /-- The kind of JSON element that has no fields. -/
  | notAnObject (kind : String)
  /-- The kind of JSON element that a getter does not read. -/
  | notReadable (kind : String)
deriving DecidableEq

def Refusal.message : Refusal → String
  | .nullArgument => "value cannot be null"
  | .malformedText => "input string was not in a correct format"
  | .malformedDateTime => "string was not recognized as a valid DateTime"
  | .malformedJson => "input is not valid JSON"
  | .malformedPattern => "pattern is not a valid regular expression"
  | .unsupportedOptions => "unsupported regex options"
  | .notConvertible source => "cannot convert from " ++ source.name
  | .notOneCharacter => "string must be exactly one character long"
  | .outsideText => "index and length must refer to a location within the string"
  | .reversedBounds => "'min' cannot be greater than 'max'"
  | .digitsOutOfRange => "rounding digits must be between 0 and 15"
  | .signOfNaN => "the value is not a number (NaN)"
  | .keyNotPresent => "the requested key was not present"
  | .notAnObject kind => "the element is " ++ kind ++ ", not Object"
  | .notReadable kind => "the element is " ++ kind ++ " and cannot be read that way"

/-- How the types of operands fail to suit an operation. -/
inductive Mismatch where
  | expected (wanted : String) (actual : ValueType)
  | expectedTwo (wanted : String) (left right : ValueType)
  | notComparable (left right : ValueType)
  | notApplicable (left right : ValueType)
  | noMember (receiver : ValueType) (name : String)
deriving DecidableEq

def Mismatch.message : Mismatch → String
  | .expected wanted actual => "expected " ++ wanted ++ ", got " ++ actual.name
  | .expectedTwo wanted left right =>
    "expected two " ++ wanted ++ ", got " ++ left.name ++ " and " ++ right.name
  | .notComparable left right => "cannot compare " ++ left.name ++ " and " ++ right.name
  | .notApplicable left right => "cannot apply to " ++ left.name ++ " and " ++ right.name
  | .noMember receiver name => "'" ++ receiver.name ++ "' has no member '" ++ name ++ "'"

/-- Arithmetic that has no result. -/
inductive Fault where
  | overflow
  | divisionByZero
deriving DecidableEq

def Fault.message : Fault → String
  | .overflow => "value was either too large or too small"
  | .divisionByZero => "attempted to divide by zero"

/-- What only an ill-formed tree can meet. -/
inductive Anomaly where
  | unboundParameter (slot : Nat)
  | notArithmetic (op : BinaryOp)
  | argumentCount
  /-- A character or an element that is not there. -/
  | outOfBounds
deriving DecidableEq

def Anomaly.message : Anomaly → String
  | .unboundParameter slot => "lambda parameter " ++ toString slot ++ " is not bound"
  | .notArithmetic op => "'" ++ op.symbol ++ "' is not an arithmetic operator"
  | .argumentCount => "wrong number of arguments"
  | .outOfBounds => "access out of bounds"

/-- Why an expression has no value. -/
inductive RuntimeError where
  | propertyNotFound (bag field : String)
  | functionFailed (name : String) (refusal : Refusal)
  | typeMismatch (operation : String) (mismatch : Mismatch)
  | arithmetic (fault : Fault)
  | indexOutOfRange (index : Int64) (length : Nat)
  | unexpected (anomaly : Anomaly)
deriving DecidableEq

namespace RuntimeError

def message : RuntimeError → String
  | .propertyNotFound bag field =>
    "the property '" ++ field ++ "' does not exist on '" ++ bag ++ "'"
  | .functionFailed name refusal => name ++ " failed: " ++ refusal.message
  | .typeMismatch operation mismatch =>
    "cannot evaluate " ++ operation ++ ": " ++ mismatch.message
  | .arithmetic fault => "arithmetic error: " ++ fault.message
  | .indexOutOfRange index length =>
    "index " ++ toString index.toInt ++ " is out of range for length " ++ toString length
  | .unexpected anomaly => "unexpected evaluation failure: " ++ anomaly.message

/-- An operand of the wrong type. -/
def expected (operation wanted : String) (actual : ValueType) : RuntimeError :=
  .typeMismatch operation (.expected wanted actual)

end RuntimeError

/-- The value of a computation, or why there is none. -/
abbrev Outcome (α : Type) := Except RuntimeError α

end GatedPredicate
