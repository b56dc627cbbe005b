import GatedPredicate.Syntax.Expr
import GatedPredicate.Syntax.Lexer

/-!
# From lexemes to trees

A parser by recursive descent. It gives each node the next free identifier when it makes the node,
so the identifiers are counted through every production. Nesting is bounded: `parseNested d` parses
an expression that may itself hold `d - 1` further levels, and every recursion of the grammar goes
through it or through `parseOperand`, its counterpart below a prefix operator. Chains, postfix
operators and lists only iterate over the tokens that are left.

- `Reader`, `Parser`: take lexemes and give a value and the lexemes that remain, the second with
  the next free identifier
- `node`: makes a node
- `parseChain`: a level of left-associative operators
- `parsePostfixes`, `parseList`, `parseAtom`: the parts of an operand
- `parseNested`, `parseOperand`: the two recursive productions, by recursion on the depth that is
  left
- `parseLexemes`, `parse`: whole inputs
-/

namespace GatedPredicate.Syntax

/-- Takes lexemes from the front of a list and gives back those that remain. -/
abbrev Reader (α : Type) := List Lexeme → Except SyntaxError (α × List Lexeme)

/-- A reader that makes nodes. It is given the first identifier that is free and gives back the
first one that is free afterwards. -/
abbrev Parser (α : Type) := Nat → List Lexeme → Except SyntaxError (α × Nat × List Lexeme)

/-- What the parser needs to know throughout: the offset where the last lexeme ends and the
depth limit that error messages name. -/
structure Setting where
  stop : Nat
  limit : Nat

/-! ## Looking at the next lexeme -/

/-- The range of the next lexeme, or the empty range at the end of the input. -/
def Setting.here (σ : Setting) (ls : List Lexeme) : Span :=
  match ls with
  | [] => ⟨σ.stop, σ.stop⟩
  | l :: _ => l.span

/-- Fails at the next lexeme. -/
def Setting.fail {α : Type} (σ : Setting) (fault : SyntaxFault) (ls : List Lexeme) :
    Except SyntaxError α :=
  .error ⟨fault, σ.here ls⟩

def nextIs (s : Symbol) (ls : List Lexeme) : Bool :=
  match ls with
  | [] => false
  | l :: _ => l.token.isSymbol s

def nextToken? (ls : List Lexeme) : Option Token :=
  ls.head?.map Lexeme.token

/-- Takes the symbol `s` and gives its range. -/
def Setting.expect (σ : Setting) (s : Symbol) : Reader Span := fun ls =>
  match ls with
  | l :: rest =>
    if l.token.isSymbol s then .ok (l.span, rest)
    else .error ⟨.expected s (some l.token), l.span⟩
  | [] => σ.fail (.expected s none) ls

/-! ## Making nodes -/

/-- Makes a node with the identifier `next`, after which the one behind it is free. -/
def node (make : Mark → Expr Mark) (span : Span) (next : Nat) : Expr Mark × Nat :=
  (make ⟨next, span⟩, next + 1)

/-- The range from the start of one tree to the end of another. -/
def spanning (left right : Expr Mark) : Span :=
  ⟨left.mark.span.start, right.mark.span.stop⟩

/-! ## Infix operators -/

/-- Which symbols are operators of a level, and what each stands for. -/
abbrev OperatorTable := Symbol → Option BinaryOp

/-- The operators of a level that the next lexeme may be. -/
def nextOperator? (table : OperatorTable) (ls : List Lexeme) : Option BinaryOp :=
  match ls with
  | ⟨.symbol s, _⟩ :: _ => table s
  | _ => none

def orTable : OperatorTable
  | .orOr => some .or
  | _ => none

def andTable : OperatorTable
  | .andAnd => some .and
  | _ => none

def equalityTable : OperatorTable
  | .eqEq => some .eq
  | .ne => some .ne
  | _ => none

def relationTable : OperatorTable
  | .lt => some .lt
  | .le => some .le
  | .gt => some .gt
  | .ge => some .ge
  | _ => none

def additionTable : OperatorTable
  | .plus => some .add
  | .minus => some .sub
  | _ => none

def multiplicationTable : OperatorTable
  | .star => some .mul
  | .slash => some .div
  | .percent => some .mod
  | _ => none

/-- Extends `left` by operators of a level for as long as they follow, at most `fuel` times;
there are never more operators than lexemes left. -/
def parseChainFrom (table : OperatorTable) (inner : Parser (Expr Mark)) :
    Nat → Expr Mark → Parser (Expr Mark)
  | 0, left, next, ls => .ok (left, next, ls)
  | fuel + 1, left, next, ls =>
    match nextOperator? table ls with
    | none => .ok (left, next, ls)
    | some op => do
      let (right, next, rest) ← inner next (ls.drop 1)
      let (whole, next) := node (.binary · op left right) (spanning left right) next
      parseChainFrom table inner fuel whole next rest

/-- A level of left-associative operators over `inner`. -/
def parseChain (table : OperatorTable) (inner : Parser (Expr Mark)) : Parser (Expr Mark) :=
  fun next ls => do
    let (left, next, rest) ← inner next ls
    parseChainFrom table inner rest.length left next rest

/-- The level of `==` and `!=`, where a single `=` gets an error of its own. -/
def parseEqualities (σ : Setting) (inner : Parser (Expr Mark)) : Parser (Expr Mark) :=
  fun next ls => do
    let (left, next, rest) ← parseChain equalityTable inner next ls
    if nextIs .assign rest then σ.fail .assignment rest else .ok (left, next, rest)

/-- All infix levels over `unary`, the loosest outermost. -/
def parseInfixes (σ : Setting) (unary : Parser (Expr Mark)) : Parser (Expr Mark) :=
  parseChain orTable <| parseChain andTable <| parseEqualities σ <| parseChain relationTable <|
    parseChain additionTable <| parseChain multiplicationTable unary

/-! ## Postfix operators -/

/-- The items of a list up to the symbol `close`, each but the first after a comma; a comma
may also stand before `close`. At most `fuel` items follow the first. -/
def parseMoreItems (σ : Setting) (nested : Parser (Expr Mark)) (close : Symbol) :
    Nat → List (Expr Mark) → Parser (List (Expr Mark))
  | 0, items, next, ls => .ok (items, next, ls)
  | fuel + 1, items, next, ls =>
    if nextIs .comma ls then
      if nextIs close (ls.drop 1) then .ok (items, next, ls.drop 1)
      else do
        let (item, next, rest) ← nested next (ls.drop 1)
        parseMoreItems σ nested close fuel (items ++ [item]) next rest
    else .ok (items, next, ls)

/-- A list of expressions and the symbol that closes it, with the range of the latter. -/
def parseList (σ : Setting) (nested : Parser (Expr Mark)) (close : Symbol) :
    Parser (List (Expr Mark) × Span) := fun next ls => do
  let (items, next, rest) ←
    if nextIs close ls then .ok ([], next, ls)
    else do
      let (first, next, rest) ← nested next ls
      parseMoreItems σ nested close rest.length [first] next rest
  let (closing, rest) ← σ.expect close rest
  .ok ((items, closing), next, rest)

/-- A call, an index or a member access after `target`, if one follows. -/
def parsePostfix? (σ : Setting) (nested : Parser (Expr Mark)) (target : Expr Mark) (next : Nat)
    (ls : List Lexeme) : Option (Except SyntaxError (Expr Mark × Nat × List Lexeme)) :=
  let start := target.mark.span.start
  if nextIs .lparen ls then some do
    let ((args, closing), next, rest) ← parseList σ nested .rparen next (ls.drop 1)
    let (call, next) := node (.call · target args) ⟨start, closing.stop⟩ next
    .ok (call, next, rest)
  else if nextIs .lbracket ls then some do
    let (position, next, rest) ← nested next (ls.drop 1)
    let (closing, rest) ← σ.expect .rbracket rest
    let (index, next) := node (.index · target position) ⟨start, closing.stop⟩ next
    .ok (index, next, rest)
  else if nextIs .dot ls then some <|
    match ls.drop 1 with
    | ⟨.ident name, span⟩ :: rest =>
      let (member, next) := node (.member · target name) ⟨start, span.stop⟩ next
      .ok (member, next, rest)
    -- the error stands at the lexeme after the one that is no name
    | other => σ.fail (.expectedMemberName (nextToken? other)) (other.drop 1)
  else none

/-- Extends `target` by postfix operators for as long as they follow, at most `fuel` times. -/
def parsePostfixes (σ : Setting) (nested : Parser (Expr Mark)) :
    Nat → Expr Mark → Parser (Expr Mark)
  | 0, target, next, ls => .ok (target, next, ls)
  | fuel + 1, target, next, ls =>
    match parsePostfix? σ nested target next ls with
    | none => .ok (target, next, ls)
    | some result => do
      let (extended, next, rest) ← result
      parsePostfixes σ nested fuel extended next rest

/-! ## Operands -/

/-- The rest of a dotted name after its first segment, at most `fuel` further segments. -/
def dottedName (σ : Setting) : Nat → String → Reader String
  | 0, name, ls => .ok (name, ls)
  | fuel + 1, name, ls =>
    if nextIs .dot ls then
      match ls.drop 1 with
      | ⟨.ident segment, _⟩ :: rest => dottedName σ fuel (name ++ "." ++ segment) rest
      | other => σ.fail .expectedTypeName (other.drop 1)
    else .ok (name, ls)

/-- `typeof(Name)`, where `start` is the offset of the keyword, which has been read. -/
def parseTypeOf (σ : Setting) (start : Nat) : Parser (Expr Mark) := fun next ls => do
  let (_, rest) ← σ.expect .lparen ls
  match rest with
  | ⟨.ident first, _⟩ :: rest => do
    let (name, rest) ← dottedName σ rest.length first rest
    let (closing, rest) ← σ.expect .rparen rest
    let (typeOf, next) := node (.typeOf · name) ⟨start, closing.stop⟩ next
    .ok (typeOf, next, rest)
  | other => σ.fail .expectedTypeName (other.drop 1)

/-- `new[] { a, b }`, where `start` is the offset of the keyword, which has been read. No other
object can be created. -/
def parseNewArray (σ : Setting) (nested : Parser (Expr Mark)) (start : Nat) :
    Parser (Expr Mark) := fun next ls =>
  if nextIs .lbracket ls && nextIs .rbracket (ls.drop 1) then do
    let (_, rest) ← σ.expect .lbrace (ls.drop 2)
    let ((items, closing), next, rest) ← parseList σ nested .rbrace next rest
    let (array, next) := node (.array · items) ⟨start, closing.stop⟩ next
    .ok (array, next, rest)
  else .error ⟨.objectCreation, ⟨start, (σ.here ls).stop⟩⟩

/-- A literal, a name, `typeof`, an array, or an expression in parentheses. -/
def parseAtom (σ : Setting) (nested : Parser (Expr Mark)) : Parser (Expr Mark) := fun next ls =>
  match ls with
  | [] => σ.fail .unexpectedEnd ls
  | ⟨token, span⟩ :: rest =>
    match token with
    | .literal value =>
      let (literal, next) := node (.literal · value) span next
      .ok (literal, next, rest)
    | .ident name =>
      let (ident, next) := node (.ident · name) span next
      .ok (ident, next, rest)
    | .typeOf => parseTypeOf σ span.start next rest
    | .new => parseNewArray σ nested span.start next rest
    | .reserved word => .error ⟨.reservedWord word, span⟩
    | .symbol .lparen => do
      let (inner, next, rest) ← nested next rest
      let (_, rest) ← σ.expect .rparen rest
      -- parentheses leave no node behind and use up no identifier
      .ok (inner, next, rest)
    | .symbol .lbracket => do
      let ((items, closing), next, rest) ← parseList σ nested .rbracket next rest
      let (array, next) := node (.array · items) ⟨span.start, closing.stop⟩ next
      .ok (array, next, rest)
    | .symbol .semicolon => .error ⟨.statement, span⟩
    | other => .error ⟨.unexpectedToken other, span⟩

/-- The prefix operator a symbol stands for. -/
def prefixOperator? : Symbol → Option UnaryOp
  | .minus => some .neg
  | .bang => some .not
  | _ => none

/-- A prefix operator with its operand, or an atom with its postfix operators. -/
def parseUnary (σ : Setting) (nested operand : Parser (Expr Mark)) : Parser (Expr Mark) :=
  fun next ls =>
    let plain : Except SyntaxError (Expr Mark × Nat × List Lexeme) := do
      let (target, next, rest) ← parseAtom σ nested next ls
      parsePostfixes σ nested rest.length target next rest
    match ls with
    | ⟨.symbol s, span⟩ :: rest =>
      match prefixOperator? s with
      | some op => do
        let (inner, next, rest) ← operand next rest
        let (unary, next) :=
          node (.unary · op inner) ⟨span.start, inner.mark.span.stop⟩ next
        .ok (unary, next, rest)
      | none => plain
    | _ => plain

/-! ## Expressions -/

/-- The head `x =>` or `(x) =>` of a lambda: its start, its parameter and what follows. -/
def lambdaHead? (ls : List Lexeme) : Option (Nat × String × List Lexeme) :=
  match ls with
  | ⟨.ident name, span⟩ :: ⟨.symbol .arrow, _⟩ :: rest => some (span.start, name, rest)
  | ⟨.symbol .lparen, span⟩ :: ⟨.ident name, _⟩ :: ⟨.symbol .rparen, _⟩ ::
      ⟨.symbol .arrow, _⟩ :: rest => some (span.start, name, rest)
  | _ => none

/-- `cond`, or `cond ? onTrue : onFalse`. -/
def parseConditional (σ : Setting) (nested operand : Parser (Expr Mark)) : Parser (Expr Mark) :=
  fun next ls => do
    let (cond, next, rest) ← parseInfixes σ (parseUnary σ nested operand) next ls
    if nextIs .question rest then do
      let (onTrue, next, rest) ← nested next (rest.drop 1)
      let (_, rest) ← σ.expect .colon rest
      let (onFalse, next, rest) ← nested next rest
      let (whole, next) :=
        node (.conditional · cond onTrue onFalse) (spanning cond onFalse) next
      .ok (whole, next, rest)
    else .ok (cond, next, rest)

/-- A lambda or a conditional expression. -/
def parseExpression (σ : Setting) (nested operand : Parser (Expr Mark)) : Parser (Expr Mark) :=
  fun next ls =>
    match lambdaHead? ls with
    | some (start, param, rest) => do
      let (body, next, rest) ← nested next rest
      let (lambda, next) := node (.lambda · param body) ⟨start, body.mark.span.stop⟩ next
      .ok (lambda, next, rest)
    | none => parseConditional σ nested operand next ls

mutual

/-- An expression that may nest at most the given number of levels, itself included. -/
def parseNested (σ : Setting) : Nat → Parser (Expr Mark)
  | 0, _, ls => σ.fail (.tooDeep σ.limit) ls
  | depth + 1, next, ls =>
    parseExpression σ (parseNested σ depth) (parseOperand σ depth) next ls

/-- The operand of a prefix operator, which counts as a level of its own. -/
def parseOperand (σ : Setting) : Nat → Parser (Expr Mark)
  | 0, _, ls => σ.fail (.tooDeep σ.limit) ls
  | depth + 1, next, ls => parseUnary σ (parseNested σ depth) (parseOperand σ depth) next ls

end

/-! ## Whole inputs -/

/-- What parsing gives: a tree, a tree that a later check found fault with, or no tree. -/
inductive Parsed where
  | complete (tree : Expr Mark)
  | flawed (tree : Expr Mark) (error : SyntaxError)
  | rejected (error : SyntaxError)

/-- The tree, if there is one, even beside an error. -/
def Parsed.tree? : Parsed → Option (Expr Mark)
  | .complete tree => some tree
  | .flawed tree _ => some tree
  | .rejected _ => none

/-- The error, if there is one. There is never more than one. -/
def Parsed.error? : Parsed → Option SyntaxError
  | .complete _ => none
  | .flawed _ error => some error
  | .rejected error => some error

/-- The errors as a list. -/
def Parsed.errors (parsed : Parsed) : List SyntaxError :=
  parsed.error?.toList

/-- The tree of an input without errors, and otherwise its error. -/
def Parsed.toExcept : Parsed → Except SyntaxError (Expr Mark)
  | .complete tree => .ok tree
  | .flawed _ error => .error error
  | .rejected error => .error error

/-- The default limit on nesting. -/
def defaultMaxDepth : Nat := 64

/-- Drops the semicolons at the end of an input. -/
def dropTrailingSemicolons (ls : List Lexeme) : List Lexeme :=
  (ls.reverse.dropWhile fun l => l.token.isSymbol .semicolon).reverse

/-- The fault of a lexeme that follows a whole expression. -/
def trailingFault (token : Token) : SyntaxFault :=
  if token.isSymbol .semicolon then .statement else .afterExpression token

/-- Parses an input that has been split into lexemes. -/
def parseLexemes (maxDepth : Nat) (input : List Lexeme) : Parsed :=
  let ls := dropTrailingSemicolons input
  match ls.getLast? with
  | none => .rejected ⟨.emptyInput, ⟨0, 0⟩⟩
  | some last =>
    let σ : Setting := ⟨last.span.stop, maxDepth⟩
    -- identifiers start at one
    match parseNested σ maxDepth 1 ls with
    | .error e => .rejected e
    | .ok (tree, _, l :: _) => .flawed tree ⟨trailingFault l.token, l.span⟩
    | .ok (tree, _, []) =>
      if maxDepth < tree.depth then .flawed tree ⟨.tooDeep maxDepth, tree.mark.span⟩
      else .complete tree

/-- Parses a source text whose trees may be at most `maxDepth` levels deep. -/
def parse (maxDepth : Nat) (source : String) : Parsed :=
  match lex source with
  | .ok ls => parseLexemes maxDepth ls
  | .error e => .rejected e

end GatedPredicate.Syntax
