import GatedPredicate.Proofs.Syntax.Grammar
import GatedPredicate.Syntax.Parser

/-!
# Productions without identifiers

Which lexemes a production takes and where its nodes stand has nothing to do with the identifiers
that are given to them. Here are the productions with ranges alone. What is said about phrases of
the grammar is said about these; that the parser does the same and numbers the nodes as it goes is
one further statement for each of them.

- `chain`, `infixes`: levels of left-associative operators
- `listed`, `postfix?`, `atom`: lists, and the parts of an operand
- `nested`, `operand`: the two recursive productions
-/

namespace GatedPredicate.Syntax

/-! ## Infix operators -/

/-- Extends `left` by operators of a level for as long as they follow, at most `fuel` times;
there are never more operators than lexemes left. -/
def chainFrom (table : OperatorTable) (inner : Reader RawExpr) :
    Nat → RawExpr → Reader RawExpr
  | 0, left, ls => .ok (left, ls)
  | fuel + 1, left, ls =>
    match nextOperator? table ls with
    | none => .ok (left, ls)
    | some op => do
      let (right, rest) ← inner (ls.drop 1)
      chainFrom table inner fuel (.binary ⟨left.mark.start, right.mark.stop⟩ op left right) rest

/-- A level of left-associative operators over `inner`. -/
def chain (table : OperatorTable) (inner : Reader RawExpr) : Reader RawExpr := fun ls => do
  let (left, rest) ← inner ls
  chainFrom table inner rest.length left rest

/-- The level of `==` and `!=`, where a single `=` gets an error of its own. -/
def equalities (σ : Setting) (inner : Reader RawExpr) : Reader RawExpr := fun ls => do
  let (left, rest) ← chain equalityTable inner ls
  if nextIs .assign rest then σ.fail .assignment rest else .ok (left, rest)

/-- All infix levels over `unary`, the loosest outermost. -/
def infixes (σ : Setting) (unary : Reader RawExpr) : Reader RawExpr :=
  chain orTable <| chain andTable <| equalities σ <| chain relationTable <|
    chain additionTable <| chain multiplicationTable unary

/-! ## Postfix operators -/

/-- The items of a list up to the symbol `close`, each but the first after a comma; a comma
may also stand before `close`. At most `fuel` items follow the first. -/
def moreItems (σ : Setting) (nested : Reader RawExpr) (close : Symbol) :
    Nat → List RawExpr → Reader (List RawExpr)
  | 0, items, ls => .ok (items, ls)
  | fuel + 1, items, ls =>
    if nextIs .comma ls then
      if nextIs close (ls.drop 1) then .ok (items, ls.drop 1)
      else do
        let (item, rest) ← nested (ls.drop 1)
        moreItems σ nested close fuel (items ++ [item]) rest
    else .ok (items, ls)

/-- A list of expressions and the symbol that closes it, with the range of the latter. -/
def listed (σ : Setting) (nested : Reader RawExpr) (close : Symbol) :
    Reader (List RawExpr × Span) := fun ls => do
  let (items, rest) ←
    if nextIs close ls then .ok ([], ls)
    else do
      let (first, rest) ← nested ls
      moreItems σ nested close rest.length [first] rest
  let (closing, rest) ← σ.expect close rest
  .ok ((items, closing), rest)

/-- A call, an index or a member access after `target`, if one follows. -/
def postfix? (σ : Setting) (nested : Reader RawExpr) (target : RawExpr) (ls : List Lexeme) :
    Option (Except SyntaxError (RawExpr × List Lexeme)) :=
  if nextIs .lparen ls then some do
    let ((args, closing), rest) ← listed σ nested .rparen (ls.drop 1)
    .ok (.call ⟨target.mark.start, closing.stop⟩ target args, rest)
  else if nextIs .lbracket ls then some do
    let (index, rest) ← nested (ls.drop 1)
    let (closing, rest) ← σ.expect .rbracket rest
    .ok (.index ⟨target.mark.start, closing.stop⟩ target index, rest)
  else if nextIs .dot ls then some <|
    match ls.drop 1 with
    | ⟨.ident name, span⟩ :: rest =>
      .ok (.member ⟨target.mark.start, span.stop⟩ target name, rest)
    -- the error stands at the lexeme after the one that is no name
    | other => σ.fail (.expectedMemberName (nextToken? other)) (other.drop 1)
  else none

/-- Extends `target` by postfix operators for as long as they follow, at most `fuel` times. -/
def postfixedFrom (σ : Setting) (nested : Reader RawExpr) : Nat → RawExpr → Reader RawExpr
  | 0, target, ls => .ok (target, ls)
  | fuel + 1, target, ls =>
    match postfix? σ nested target ls with
    | none => .ok (target, ls)
    | some result => do
      let (extended, rest) ← result
      postfixedFrom σ nested fuel extended rest

/-! ## Operands -/

/-- `typeof(Name)`, where `start` is the offset of the keyword, which has been read. -/
def typeOfOperand (σ : Setting) (start : Nat) : Reader RawExpr := fun ls => do
  let (_, rest) ← σ.expect .lparen ls
  match rest with
  | ⟨.ident first, _⟩ :: rest => do
    let (name, rest) ← dottedName σ rest.length first rest
    let (closing, rest) ← σ.expect .rparen rest
    .ok (.typeOf ⟨start, closing.stop⟩ name, rest)
  | other => σ.fail .expectedTypeName (other.drop 1)

/-- `new[] { a, b }`, where `start` is the offset of the keyword, which has been read. No other
object can be created. -/
def newArray (σ : Setting) (nested : Reader RawExpr) (start : Nat) : Reader RawExpr := fun ls =>
  if nextIs .lbracket ls && nextIs .rbracket (ls.drop 1) then do
    let (_, rest) ← σ.expect .lbrace (ls.drop 2)
    let ((items, closing), rest) ← listed σ nested .rbrace rest
    .ok (.array ⟨start, closing.stop⟩ items, rest)
  else .error ⟨.objectCreation, ⟨start, (σ.here ls).stop⟩⟩

/-- A literal, a name, `typeof`, an array, or an expression in parentheses. -/
def atom (σ : Setting) (nested : Reader RawExpr) : Reader RawExpr := fun ls =>
  match ls with
  | [] => σ.fail .unexpectedEnd ls
  | ⟨token, span⟩ :: rest =>
    match token with
    | .literal value => .ok (.literal span value, rest)
    | .ident name => .ok (.ident span name, rest)
    | .typeOf => typeOfOperand σ span.start rest
    | .new => newArray σ nested span.start rest
    | .reserved word => .error ⟨.reservedWord word, span⟩
    | .symbol .lparen => do
      let (inner, rest) ← nested rest
      let (_, rest) ← σ.expect .rparen rest
      -- parentheses leave no node behind
      .ok (inner, rest)
    | .symbol .lbracket => do
      let ((items, closing), rest) ← listed σ nested .rbracket rest
      .ok (.array ⟨span.start, closing.stop⟩ items, rest)
    | .symbol .semicolon => .error ⟨.statement, span⟩
    | other => .error ⟨.unexpectedToken other, span⟩

/-- A prefix operator with its operand, or an atom with its postfix operators. -/
def unary (σ : Setting) (nested operand : Reader RawExpr) : Reader RawExpr := fun ls =>
  let plain : Except SyntaxError (RawExpr × List Lexeme) := do
    let (target, rest) ← atom σ nested ls
    postfixedFrom σ nested rest.length target rest
  match ls with
  | ⟨.symbol s, span⟩ :: rest =>
    match prefixOperator? s with
    | some op => do
      let (inner, rest) ← operand rest
      .ok (.unary ⟨span.start, inner.mark.stop⟩ op inner, rest)
    | none => plain
  | _ => plain

/-! ## Expressions -/

/-- `cond`, or `cond ? onTrue : onFalse`. -/
def conditional (σ : Setting) (nested operand : Reader RawExpr) : Reader RawExpr := fun ls => do
  let (cond, rest) ← infixes σ (unary σ nested operand) ls
  if nextIs .question rest then do
    let (onTrue, rest) ← nested (rest.drop 1)
    let (_, rest) ← σ.expect .colon rest
    let (onFalse, rest) ← nested rest
    .ok (.conditional ⟨cond.mark.start, onFalse.mark.stop⟩ cond onTrue onFalse, rest)
  else .ok (cond, rest)

/-- A lambda or a conditional expression. -/
def expression (σ : Setting) (nested operand : Reader RawExpr) : Reader RawExpr := fun ls =>
  match lambdaHead? ls with
  | some (start, param, rest) => do
    let (body, rest) ← nested rest
    .ok (.lambda ⟨start, body.mark.stop⟩ param body, rest)
  | none => conditional σ nested operand ls

mutual

/-- An expression that may nest at most the given number of levels, itself included. -/
def nested (σ : Setting) : Nat → Reader RawExpr
  | 0, ls => σ.fail (.tooDeep σ.limit) ls
  | depth + 1, ls => expression σ (nested σ depth) (operand σ depth) ls

/-- The operand of a prefix operator, which counts as a level of its own. -/
def operand (σ : Setting) : Nat → Reader RawExpr
  | 0, ls => σ.fail (.tooDeep σ.limit) ls
  | depth + 1, ls => unary σ (nested σ depth) (operand σ depth) ls

end

end GatedPredicate.Syntax
