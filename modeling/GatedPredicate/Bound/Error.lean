import GatedPredicate.Bound.Expr

/-!
# Errors of resolution

Why a tree has no meaning under a policy and a schema.
-/

namespace GatedPredicate

open GatedPredicate.Syntax

/-- Why a tree cannot be bound. -/
inductive BindError where
  | misplacedLambda
  | typeOf
  | malformedDecimal (digits : String)
  | bagAsValue (name : String)
  | typeAsValue (name : String)
  | unknownName (name : String)
  | unknownFunction (name : String)
  | notAllowed (namespaceName : String)
  | undeclaredField (bag field : String)
  | noConstant (module name : String)
  | parameterCall (name : String)
  | notCallable
  | noOverload (function : String) (count : Nat)
  | notApplicable (function : String) (args : List ValueType)
  | blockedMember (name namespaceName : String)
  | noProperty (receiver : ValueType) (name : String)
  | noMethod (receiver : ValueType) (name : String) (count : Nat)
  | notSequence (receiver : ValueType) (kind : Quantifier)
  | lambdaResult (kind : Quantifier) (result : ValueType)
  | notIndexable (target position : ValueType)
  | unaryOperand (op : UnaryOp) (operand : ValueType)
  | binaryOperands (op : BinaryOp) (left right : ValueType)
  | condition (actual : ValueType)
  | branches (onTrue onFalse : ValueType)
deriving DecidableEq

/-- The names of types with commas between them. -/
def typeNames (types : List ValueType) : String :=
  ", ".intercalate (types.map ValueType.name)

def BindError.message : BindError → String
  | .misplacedLambda => "a lambda is only allowed as the argument of All or Any"
  | .typeOf => "typeof is not supported"
  | .malformedDecimal digits => "'" ++ digits ++ "m' is not a valid decimal"
  | .bagAsValue name =>
    "bag '" ++ name ++ "' cannot be used as a value; read one of its fields"
  | .typeAsValue name => "'" ++ name ++ "' is a type, not a value"
  | .unknownName name => "unknown identifier '" ++ name ++ "'"
  | .unknownFunction name => "unknown function '" ++ name ++ "'"
  | .notAllowed namespaceName => "namespace '" ++ namespaceName ++ "' is not allowed"
  | .undeclaredField bag field => "'" ++ bag ++ "' has no field '" ++ field ++ "'"
  | .noConstant module name => "'" ++ module ++ "' has no member '" ++ name ++ "'"
  | .parameterCall name => "'" ++ name ++ "' is not callable"
  | .notCallable => "expression is not callable"
  | .noOverload function count =>
    "no overload of '" ++ function ++ "' takes " ++ toString count ++ " argument(s)"
  | .notApplicable function args =>
    "'" ++ function ++ "' cannot be applied to (" ++ typeNames args ++ ")"
  | .blockedMember name namespaceName =>
    "'" ++ name ++ "' belongs to namespace '" ++ namespaceName ++ "', which is not allowed"
  | .noProperty receiver name => "'" ++ receiver.name ++ "' has no property '" ++ name ++ "'"
  | .noMethod receiver name count =>
    "'" ++ receiver.name ++ "' has no method '" ++ name ++ "' taking " ++ toString count ++
      " argument(s)"
  | .notSequence receiver kind =>
    "'" ++ receiver.name ++ "' is not a sequence and has no method '" ++ kind.name ++ "'"
  | .lambdaResult kind result =>
    "the lambda passed to " ++ kind.name ++ " must return bool, not " ++ result.name
  | .notIndexable target position =>
    "cannot index '" ++ target.name ++ "' with '" ++ position.name ++ "'"
  | .unaryOperand op operand =>
    "operator '" ++ op.symbol ++ "' cannot be applied to '" ++ operand.name ++ "'"
  | .binaryOperands op left right =>
    "operator '" ++ op.symbol ++ "' cannot be applied to '" ++ left.name ++ "' and '" ++
      right.name ++ "'"
  | .condition actual => "condition must be bool, not '" ++ actual.name ++ "'"
  | .branches onTrue onFalse =>
    "conditional branches have incompatible types '" ++ onTrue.name ++ "' and '" ++
      onFalse.name ++ "'"

end GatedPredicate
