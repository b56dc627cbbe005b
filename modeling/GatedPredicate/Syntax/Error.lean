import GatedPredicate.Syntax.Token

/-!
# Syntax errors

Every way a text can fail to be an expression, the wording of each, and where it is reported.
-/

namespace GatedPredicate.Syntax

/-- Why a text is not an expression. -/
inductive SyntaxFault where
  /-- A string is not closed, spans lines or holds a bad escape. -/
  | malformedString
  /-- A character literal is empty, too long, not closed or holds a bad escape. -/
  | malformedChar
  /-- A numeral is out of range for its kind. -/
  | malformedNumber (numeral : String)
  | unexpectedCharacter (found : String)
  | emptyInput
  | tooDeep (limit : Nat)
  | expected (want : Symbol) (found : Option Token)
  | expectedMemberName (found : Option Token)
  | expectedTypeName
  | assignment
  | reservedWord (word : String)
  /-- A semicolon that does not end the input. -/
  | statement
  | objectCreation
  | unexpectedToken (found : Token)
  | unexpectedEnd
  /-- Input goes on after a whole expression. -/
  | afterExpression (found : Token)
deriving DecidableEq

def SyntaxFault.message : SyntaxFault → String
  | .malformedString => "unterminated or malformed string literal"
  | .malformedChar => "malformed character literal"
  | .malformedNumber numeral => "malformed numeric literal '" ++ numeral ++ "'"
  | .unexpectedCharacter found => "unexpected character '" ++ found ++ "'"
  | .emptyInput => "empty input"
  | .tooDeep limit => "expression nests deeper than " ++ toString limit ++ " levels"
  | .expected want (some found) =>
    "expected '" ++ want.text ++ "', found '" ++ found.text ++ "'"
  | .expected want none => "expected '" ++ want.text ++ "', found end of input"
  | .expectedMemberName (some found) =>
    "expected member name after '.', found '" ++ found.text ++ "'"
  | .expectedMemberName none => "expected member name after '.'"
  | .expectedTypeName => "expected type name in typeof"
  | .assignment => "assignment is not allowed in a predicate (did you mean '=='?)"
  | .reservedWord word =>
    "'" ++ word ++ "' is a reserved word and cannot be used in a predicate"
  | .statement => "statements are not allowed; a predicate is a single expression"
  | .objectCreation =>
    "object creation is not allowed; only 'new[] \x7b ... \x7d' arrays are supported"
  | .unexpectedToken found => "unexpected token '" ++ found.text ++ "'"
  | .unexpectedEnd => "unexpected end of input"
  | .afterExpression found => "unexpected '" ++ found.text ++ "' after expression"

/-- A fault and the range of source text it is reported at. -/
structure SyntaxError where
  fault : SyntaxFault
  span : Span
deriving DecidableEq

/-- The wording of an error without its place. -/
def SyntaxError.message (e : SyntaxError) : String :=
  e.fault.message

/-- The wording of an error with its place. -/
def SyntaxError.located (e : SyntaxError) : String :=
  e.message ++ " at " ++ toString e.span.start ++ ".." ++ toString e.span.stop

end GatedPredicate.Syntax
