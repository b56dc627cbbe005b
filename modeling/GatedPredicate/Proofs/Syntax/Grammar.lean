import GatedPredicate.Syntax.Expr

/-!
# The grammar

What the parser is meant to accept, said without a parser: which lexemes stand for which tree.
`Derives d form ls e` reads "`ls` is a phrase of the given form with the tree `e`, in which at most
`d` further expressions and prefix operators are nested in one another". The depth is an index of
the relation because it counts productions, which the tree alone does not show: parentheses nest
but leave no node behind. Nothing here looks at how the parser is written: operators, their levels
and the end of an input are given once more, and that the parser has the same ones is proved.

- `operatorLevels`, `prefixOperators`: the operators
- `Form`: the forms of phrases that have a tree
- `DottedName`: the operand of `typeof`
- `Derives`, `DerivesItems`, `DerivesList`: phrases and comma-separated lists of them
- `DerivesInput`: whole inputs
-/

namespace GatedPredicate.Syntax

/-- A tree marked with byte ranges. -/
abbrev RawExpr := Expr Span

/-! ## Operators -/

/-- The operators of a level, each with the symbol it is written as. -/
abbrev Level := List (Symbol × BinaryOp)

/-- The levels of infix operators, the loosest first. -/
def operatorLevels : List Level :=
  [[(.orOr, .or)],
    [(.andAnd, .and)],
    [(.eqEq, .eq), (.ne, .ne)],
    [(.lt, .lt), (.le, .le), (.gt, .gt), (.ge, .ge)],
    [(.plus, .add), (.minus, .sub)],
    [(.star, .mul), (.slash, .div), (.percent, .mod)]]

def prefixOperators : List (Symbol × UnaryOp) :=
  [(.minus, .neg), (.bang, .not)]

/-! ## Phrases -/

/-- The forms of phrases that have a tree, the loosest first. -/
inductive Form where
  | expression | conditional
  /-- Operands joined by the operators of some levels, the loosest level first. -/
  | infixes (levels : List Level)
  | operand | postfixed | atom

/-- A dotted name `a.b.c` as one text. -/
inductive DottedName : List Lexeme → String → Prop where
  | one {name : String} {span : Span} : DottedName [⟨.ident name, span⟩] name
  | more {ls : List Lexeme} {name segment : String} {dot span : Span} :
      DottedName ls name →
      DottedName (ls ++ [⟨.symbol .dot, dot⟩, ⟨.ident segment, span⟩]) (name ++ "." ++ segment)

mutual

/-- Phrases and their trees. -/
inductive Derives : Nat → Form → List Lexeme → RawExpr → Prop where
  /-- `x => body` -/
  | lambda {d : Nat} {ls : List Lexeme} {body : RawExpr} {name : String} {span arrow : Span} :
      Derives d .expression ls body →
      Derives (d + 1) .expression (⟨.ident name, span⟩ :: ⟨.symbol .arrow, arrow⟩ :: ls)
        (.lambda ⟨span.start, body.mark.stop⟩ name body)
  /-- `(x) => body` -/
  | parenLambda {d : Nat} {ls : List Lexeme} {body : RawExpr} {name : String}
      {opening span closing arrow : Span} :
      Derives d .expression ls body →
      Derives (d + 1) .expression
        (⟨.symbol .lparen, opening⟩ :: ⟨.ident name, span⟩ :: ⟨.symbol .rparen, closing⟩ ::
          ⟨.symbol .arrow, arrow⟩ :: ls)
        (.lambda ⟨opening.start, body.mark.stop⟩ name body)
  | plain {d : Nat} {ls : List Lexeme} {e : RawExpr} :
      Derives d .conditional ls e → Derives (d + 1) .expression ls e
  /-- `cond ? onTrue : onFalse` -/
  | conditional {d : Nat} {ls ts fs : List Lexeme} {cond onTrue onFalse : RawExpr}
      {question colon : Span} :
      Derives d (.infixes operatorLevels) ls cond →
      Derives d .expression ts onTrue →
      Derives d .expression fs onFalse →
      Derives d .conditional
        (ls ++ ⟨.symbol .question, question⟩ :: ts ++ ⟨.symbol .colon, colon⟩ :: fs)
        (.conditional ⟨cond.mark.start, onFalse.mark.stop⟩ cond onTrue onFalse)
  | unconditional {d : Nat} {ls : List Lexeme} {e : RawExpr} :
      Derives d (.infixes operatorLevels) ls e → Derives d .conditional ls e
  /-- `left op right`, where `left` may hold operators of the same level. -/
  | binary {d : Nat} {ls rs : List Lexeme} {left right : RawExpr} {level : Level}
      {levels : List Level} {s : Symbol} {op : BinaryOp} {span : Span} :
      Derives d (.infixes (level :: levels)) ls left →
      (s, op) ∈ level →
      Derives d (.infixes levels) rs right →
      Derives d (.infixes (level :: levels)) (ls ++ ⟨.symbol s, span⟩ :: rs)
        (.binary ⟨left.mark.start, right.mark.stop⟩ op left right)
  | tighter {d : Nat} {ls : List Lexeme} {e : RawExpr} {level : Level} {levels : List Level} :
      Derives d (.infixes levels) ls e → Derives d (.infixes (level :: levels)) ls e
  | single {d : Nat} {ls : List Lexeme} {e : RawExpr} :
      Derives d .operand ls e → Derives d (.infixes []) ls e
  /-- `-operand` or `!operand` -/
  | unary {d : Nat} {ls : List Lexeme} {e : RawExpr} {s : Symbol} {op : UnaryOp} {span : Span} :
      (s, op) ∈ prefixOperators →
      Derives d .operand ls e →
      Derives (d + 1) .operand (⟨.symbol s, span⟩ :: ls) (.unary ⟨span.start, e.mark.stop⟩ op e)
  | unprefixed {d : Nat} {ls : List Lexeme} {e : RawExpr} :
      Derives d .postfixed ls e → Derives d .operand ls e
  /-- `target(args)` -/
  | call {d : Nat} {ls as : List Lexeme} {target : RawExpr} {args : List RawExpr}
      {opening closing : Span} :
      Derives d .postfixed ls target →
      DerivesList d as args →
      Derives d .postfixed
        (ls ++ ⟨.symbol .lparen, opening⟩ :: as ++ [⟨.symbol .rparen, closing⟩])
        (.call ⟨target.mark.start, closing.stop⟩ target args)
  /-- `target[position]` -/
  | index {d : Nat} {ls ps : List Lexeme} {target position : RawExpr} {opening closing : Span} :
      Derives d .postfixed ls target →
      Derives d .expression ps position →
      Derives d .postfixed
        (ls ++ ⟨.symbol .lbracket, opening⟩ :: ps ++ [⟨.symbol .rbracket, closing⟩])
        (.index ⟨target.mark.start, closing.stop⟩ target position)
  /-- `target.name` -/
  | member {d : Nat} {ls : List Lexeme} {target : RawExpr} {name : String} {dot span : Span} :
      Derives d .postfixed ls target →
      Derives d .postfixed (ls ++ [⟨.symbol .dot, dot⟩, ⟨.ident name, span⟩])
        (.member ⟨target.mark.start, span.stop⟩ target name)
  | atomic {d : Nat} {ls : List Lexeme} {e : RawExpr} :
      Derives d .atom ls e → Derives d .postfixed ls e
  | literal {d : Nat} {value : Literal} {span : Span} :
      Derives d .atom [⟨.literal value, span⟩] (.literal span value)
  | ident {d : Nat} {name : String} {span : Span} :
      Derives d .atom [⟨.ident name, span⟩] (.ident span name)
  /-- `typeof(name)` -/
  | typeOf {d : Nat} {ls : List Lexeme} {name : String} {keyword opening closing : Span} :
      DottedName ls name →
      Derives d .atom
        (⟨.typeOf, keyword⟩ :: ⟨.symbol .lparen, opening⟩ :: ls ++
          [⟨.symbol .rparen, closing⟩])
        (.typeOf ⟨keyword.start, closing.stop⟩ name)
  /-- `new[] { items }` -/
  | newArray {d : Nat} {ls : List Lexeme} {items : List RawExpr}
      {keyword opening closing left right : Span} :
      DerivesList d ls items →
      Derives d .atom
        (⟨.new, keyword⟩ :: ⟨.symbol .lbracket, left⟩ :: ⟨.symbol .rbracket, right⟩ ::
          ⟨.symbol .lbrace, opening⟩ :: ls ++ [⟨.symbol .rbrace, closing⟩])
        (.array ⟨keyword.start, closing.stop⟩ items)
  /-- `[items]` -/
  | array {d : Nat} {ls : List Lexeme} {items : List RawExpr} {opening closing : Span} :
      DerivesList d ls items →
      Derives d .atom (⟨.symbol .lbracket, opening⟩ :: ls ++ [⟨.symbol .rbracket, closing⟩])
        (.array ⟨opening.start, closing.stop⟩ items)
  /-- `(e)`, which leaves no node behind. -/
  | parens {d : Nat} {ls : List Lexeme} {e : RawExpr} {opening closing : Span} :
      Derives d .expression ls e →
      Derives d .atom (⟨.symbol .lparen, opening⟩ :: ls ++ [⟨.symbol .rparen, closing⟩]) e

/-- One or more expressions with commas between them. -/
inductive DerivesItems : Nat → List Lexeme → List RawExpr → Prop where
  | one {d : Nat} {ls : List Lexeme} {e : RawExpr} :
      Derives d .expression ls e → DerivesItems d ls [e]
  | more {d : Nat} {ls rs : List Lexeme} {items : List RawExpr} {e : RawExpr} {comma : Span} :
      DerivesItems d ls items →
      Derives d .expression rs e →
      DerivesItems d (ls ++ ⟨.symbol .comma, comma⟩ :: rs) (items ++ [e])

/-- A list of expressions, which may end in a comma unless it is empty. -/
inductive DerivesList : Nat → List Lexeme → List RawExpr → Prop where
  | nil {d : Nat} : DerivesList d [] []
  | items {d : Nat} {ls : List Lexeme} {items : List RawExpr} :
      DerivesItems d ls items → DerivesList d ls items
  | trailing {d : Nat} {ls : List Lexeme} {items : List RawExpr} {comma : Span} :
      DerivesItems d ls items → DerivesList d (ls ++ [⟨.symbol .comma, comma⟩]) items

end

/-! ## Whole inputs -/

/-- An expression and any number of semicolons after it. -/
inductive DerivesInput (d : Nat) : List Lexeme → RawExpr → Prop where
  | expression {ls : List Lexeme} {e : RawExpr} :
      Derives d .expression ls e → DerivesInput d ls e
  | semicolon {ls : List Lexeme} {e : RawExpr} {span : Span} :
      DerivesInput d ls e → DerivesInput d (ls ++ [⟨.symbol .semicolon, span⟩]) e

end GatedPredicate.Syntax
