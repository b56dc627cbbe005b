/-!
# Operators

The two prefix and thirteen infix operators, shared by expression trees, bound trees and the
evaluator, each with the spelling it has in source text.
-/

namespace GatedPredicate.Syntax

/-- The prefix operators. -/
inductive UnaryOp where
  /-- Arithmetic negation. -/
  | neg
  /-- Logical negation. -/
  | not
deriving DecidableEq, Repr

/-- The spelling of a prefix operator. -/
def UnaryOp.symbol : UnaryOp → String
  | .neg => "-"
  | .not => "!"

/-- The infix operators. -/
inductive BinaryOp where
  | add | sub | mul | div | mod
  | eq | ne | lt | le | gt | ge
  | and | or
deriving DecidableEq, Repr

/-- The spelling of an infix operator. -/
def BinaryOp.symbol : BinaryOp → String
  | .add => "+"
  | .sub => "-"
  | .mul => "*"
  | .div => "/"
  | .mod => "%"
  | .eq => "=="
  | .ne => "!="
  | .lt => "<"
  | .le => "<="
  | .gt => ">"
  | .ge => ">="
  | .and => "&&"
  | .or => "||"

end GatedPredicate.Syntax
