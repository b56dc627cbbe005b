import GatedPredicate.Number.DoubleText

/-!
# Tokens

What source text is made of: literals, the two keywords that start a construct of their own,
words that are reserved because statements have no place in an expression, names, and symbols.

- `Literal`, `Symbol`, `Token`
- `Span`, `Lexeme`: a token with the byte range it was read from
- `Token.text`: a token as error messages show it
-/

namespace GatedPredicate.Syntax

open GatedPredicate.Number

/-- A value written in source. A decimal keeps its digits as text, so that nothing is lost
before a representation is chosen for it. -/
inductive Literal where
  | null
  | bool (value : Bool)
  | int (value : Int64)
  | uint (value : UInt64)
  | float (value : Float)
  | decimal (digits : String)
  | char (value : Char)
  | string (value : String)
deriving DecidableEq

/-- Operators and delimiters. -/
inductive Symbol where
  | arrow | eqEq | ne | le | ge | andAnd | orOr
  | assign | plus | minus | star | slash | percent | lt | gt | bang | question | colon
  | lparen | rparen | lbracket | rbracket | lbrace | rbrace | dot | comma | semicolon
deriving DecidableEq, Repr

/-- The spelling of a symbol. -/
def Symbol.text : Symbol → String
  | .arrow => "=>"
  | .eqEq => "=="
  | .ne => "!="
  | .le => "<="
  | .ge => ">="
  | .andAnd => "&&"
  | .orOr => "||"
  | .assign => "="
  | .plus => "+"
  | .minus => "-"
  | .star => "*"
  | .slash => "/"
  | .percent => "%"
  | .lt => "<"
  | .gt => ">"
  | .bang => "!"
  | .question => "?"
  | .colon => ":"
  | .lparen => "("
  | .rparen => ")"
  | .lbracket => "["
  | .rbracket => "]"
  | .lbrace => "\x7b"
  | .rbrace => "\x7d"
  | .dot => "."
  | .comma => ","
  | .semicolon => ";"

/-- One token. -/
inductive Token where
  | literal (value : Literal)
  | typeOf
  | new
  | reserved (word : String)
  | ident (name : String)
  | symbol (value : Symbol)
deriving DecidableEq

/-- A literal as error messages show it. Text is shown as it was decoded. -/
def Literal.text : Literal → String
  | .null => "null"
  | .bool true => "true"
  | .bool false => "false"
  | .int n => toString n
  | .uint n => toString n ++ "u"
  | .float x => sourceDoubleText x
  | .decimal digits => digits ++ "m"
  | .char c => "'" ++ c.toString ++ "'"
  | .string s => "\"" ++ s ++ "\""

/-- A token as error messages show it. -/
def Token.text : Token → String
  | .literal value => value.text
  | .typeOf => "typeof"
  | .new => "new"
  | .reserved word => word
  | .ident name => name
  | .symbol value => value.text

def Token.isSymbol (t : Token) (s : Symbol) : Bool :=
  match t with
  | .symbol found => found == s
  | _ => false

/-- A range of byte offsets into the source. -/
structure Span where
  start : Nat
  stop : Nat
deriving DecidableEq, Repr

/-- A token with the range it was read from. -/
structure Lexeme where
  token : Token
  span : Span
deriving DecidableEq

end GatedPredicate.Syntax
