import GatedPredicate.Syntax.Error
import GatedPredicate.Syntax.Numeral
import GatedPredicate.Syntax.Quoted

/-!
# From text to lexemes

The lexer skips blanks and line comments and then takes the longest token at the front. It
stops at the first character that starts none.

- `reservedWords`: words without a meaning in an expression
- `scan`: one token and how many characters it takes
- `lexFrom`, `lex`: all lexemes of a text
-/

namespace GatedPredicate.Syntax

open GatedPredicate.Text

/-- Words of statements and declarations, refused wherever an expression may stand. -/
def reservedWords : List String :=
  ["as", "async", "await", "break", "checked", "class", "const", "continue", "default",
    "delegate", "do", "else", "event", "extern", "fixed", "for", "foreach", "goto", "if", "is",
    "lock", "namespace", "operator", "return", "sizeof", "stackalloc", "switch", "throw", "try",
    "unchecked", "unsafe", "using", "var", "void", "while", "yield"]

/-- The token of a word written without a leading `@`. -/
def wordToken (word : String) : Token :=
  if word = "true" then .literal (.bool true)
  else if word = "false" then .literal (.bool false)
  else if word = "null" then .literal .null
  else if word = "typeof" then .typeOf
  else if word = "new" then .new
  else if reservedWords.contains word then .reserved word
  else .ident word

/-- The symbol at the front of `c :: rest` and the number of characters it takes after `c`. -/
def scanSymbol? (c : Char) (rest : List Char) : Option (Symbol × Nat) :=
  match c, rest with
  | '=', '>' :: _ => some (.arrow, 1)
  | '=', '=' :: _ => some (.eqEq, 1)
  | '=', _ => some (.assign, 0)
  | '!', '=' :: _ => some (.ne, 1)
  | '!', _ => some (.bang, 0)
  | '<', '=' :: _ => some (.le, 1)
  | '<', _ => some (.lt, 0)
  | '>', '=' :: _ => some (.ge, 1)
  | '>', _ => some (.gt, 0)
  | '&', '&' :: _ => some (.andAnd, 1)
  | '|', '|' :: _ => some (.orOr, 1)
  | '+', _ => some (.plus, 0)
  | '-', _ => some (.minus, 0)
  | '*', _ => some (.star, 0)
  | '/', _ => some (.slash, 0)
  | '%', _ => some (.percent, 0)
  | '?', _ => some (.question, 0)
  | ':', _ => some (.colon, 0)
  | '(', _ => some (.lparen, 0)
  | ')', _ => some (.rparen, 0)
  | '[', _ => some (.lbracket, 0)
  | ']', _ => some (.rbracket, 0)
  | '\x7b', _ => some (.lbrace, 0)
  | '\x7d', _ => some (.rbrace, 0)
  | '.', _ => some (.dot, 0)
  | ',', _ => some (.comma, 0)
  | ';', _ => some (.semicolon, 0)
  | _, _ => none

/-- A fault of the lexer and the number of characters after the first that it covers. -/
structure ScanFault where
  fault : SyntaxFault
  extra : Nat

/-- The character `c` starts no token. -/
def unexpectedCharacter (c : Char) : ScanFault :=
  ⟨.unexpectedCharacter c.toString, 0⟩

/-- The numeral at the front of `c :: rest`. -/
def scanNumber (c : Char) (rest : List Char) : Except ScanFault (Token × Nat) :=
  let (numeral, length) := scanNumeral (c :: rest)
  match numeral.literal? with
  | some literal => .ok (.literal literal, length - 1)
  | none => .error ⟨.malformedNumber (String.ofList ((c :: rest).take length)), length - 1⟩

/-- A verbatim string or name, whose leading `@` has been read. -/
def scanVerbatim (rest : List Char) : Except ScanFault (Token × Nat) :=
  match rest with
  | '"' :: more =>
    match inCharacters? more (verbatimBody? more) with
    | some (body, taken) => .ok (.literal (.string (String.ofList body)), 1 + taken)
    | none => .error ⟨.malformedString, 1⟩
  | _ =>
    if isName (rest.take 1) then
      let name := rest.takeWhile isNamePart
      .ok (.ident (String.ofList name), name.length)
    else .error (unexpectedCharacter '@')

/-- The token at the front of `c :: rest`, where `c` is no blank, and the number of characters
it takes after `c`. A literal that cannot be read is reported at its opening quotes only. -/
def scan (c : Char) (rest : List Char) : Except ScanFault (Token × Nat) :=
  if c.isDigit then scanNumber c rest
  else if isNameStart c then
    let more := rest.takeWhile isNamePart
    .ok (wordToken (String.ofList (c :: more)), more.length)
  else if c = '@' then scanVerbatim rest
  else if c = '"' then
    match inCharacters? rest (stringBody? rest) with
    | some (body, taken) => .ok (.literal (.string (String.ofList body)), taken)
    | none => .error ⟨.malformedString, 0⟩
  else if c = '\'' then
    match inCharacters? rest (charBody? rest) with
    | some (value, taken) => .ok (.literal (.char value), taken)
    | none => .error ⟨.malformedChar, 0⟩
  else
    match scanSymbol? c rest with
    | some (symbol, taken) => .ok (.symbol symbol, taken)
    | none => .error (unexpectedCharacter c)

/-- The blanks between tokens: space, tab and line ends. -/
def isTokenBlank (c : Char) : Bool :=
  c == ' ' || c == '\t' || c == '\n' || c == '\r'

/-- All lexemes of `cs`, the first of which is `pos` bytes into the source. -/
def lexFrom (pos : Nat) (cs : List Char) : Except SyntaxError (List Lexeme) :=
  match cs with
  | [] => .ok []
  | c :: rest =>
    if isTokenBlank c then lexFrom (pos + c.utf8Size) rest
    else if c = '/' ∧ rest.head? = some '/' then
      let comment := rest.takeWhile (· ≠ '\n')
      lexFrom (pos + c.utf8Size + utf8Width comment) (rest.drop comment.length)
    else
      match scan c rest with
      | .ok (token, taken) =>
        let stop := pos + c.utf8Size + utf8Width (rest.take taken)
        (lexFrom stop (rest.drop taken)).map (⟨token, ⟨pos, stop⟩⟩ :: ·)
      | .error e =>
        .error ⟨e.fault, ⟨pos, pos + c.utf8Size + utf8Width (rest.take e.extra)⟩⟩
termination_by cs.length
decreasing_by all_goals simp only [List.length_drop, List.length_cons]; omega

/-- All lexemes of a text in order, or the first place that holds none. -/
def lex (source : String) : Except SyntaxError (List Lexeme) :=
  lexFrom 0 source.toList

end GatedPredicate.Syntax
