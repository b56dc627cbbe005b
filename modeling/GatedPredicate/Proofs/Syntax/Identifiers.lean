import GatedPredicate.Proofs.Outcome
import GatedPredicate.Proofs.Syntax.Height
import GatedPredicate.Proofs.Syntax.Numbering
import GatedPredicate.Proofs.Syntax.Productions

/-!
# How the parser counts

The parser gives a node its identifier when it makes it. By then a production has made the nodes
below it, in the order in which they stand in the tree, so it numbers its tree in post-order from
the first identifier that was free and leaves free the one after the root's. `Counts` says so of one
production, beside the same production without identifiers. A loop starts in the middle of a tree;
what it is given is numbered already.

- `Counts`: a parser does what a reader does and numbers what that gives
- `parseNested_parseOperand_counts`: the two recursive productions
- `parseLexemes_eq`: whole inputs
-/

namespace GatedPredicate.Syntax

variable {α β γ δ : Type} {σ : Setting} {p p' : Parser (Expr Mark)} {q q' : Reader RawExpr}

/-! ## Counting -/

/-- What a reader gives, numbered from `next` on. -/
def counted (number : Nat → α → β × Nat) (next : Nat) (out : α × List Lexeme) :
    β × Nat × List Lexeme :=
  ((number next out.1).1, (number next out.1).2, out.2)

/-- The parser `p` takes the lexemes that `q` takes, fails where `q` fails, and gives what `q`
gives, numbered from the first free identifier on. -/
def Counts (number : Nat → α → β × Nat) (p : Parser β) (q : Reader α) : Prop :=
  ∀ next ls, p next ls = (q ls).map (counted number next)

/-- The items of a list are numbered one after the other; what closes it has no number. -/
def numberList (next : Nat) (list : List RawExpr × Span) : (List (Expr Mark) × Span) × Nat :=
  (((numberAll next list.1).1, list.2), (numberAll next list.1).2)

/-- What goes on from a numbered result goes on from the result and numbers what that leads to. -/
theorem map_seq {x : Except SyntaxError α} {f : α → β} {g : β → Except SyntaxError γ}
    {g' : α → Except SyntaxError δ} {h : δ → γ} (hg : ∀ a, g (f a) = (g' a).map h) :
    (x.map f >>= g) = (x >>= g').map h := by
  cases x with
  | error e => rfl
  | ok a => exact hg a

/-- The same where the first step makes no node. -/
theorem seq_map {x : Except SyntaxError α} {g : α → Except SyntaxError γ}
    {g' : α → Except SyntaxError δ} {h : δ → γ} (hg : ∀ a, g a = (g' a).map h) :
    (x >>= g) = (x >>= g').map h := by
  cases x with
  | error e => rfl
  | ok a => exact hg a

/-- Numbering leaves ranges as they are. -/
theorem numberFrom_span (next : Nat) (e : RawExpr) :
    (e.numberFrom next).1.mark.span = e.mark := by
  rw [numberFrom_mark]

theorem numberAll_append (next : Nat) (xs ys : List RawExpr) :
    numberAll next (xs ++ ys) =
      ((numberAll next xs).1 ++ (numberAll (numberAll next xs).2 ys).1,
        (numberAll (numberAll next xs).2 ys).2) := by
  induction xs generalizing next with
  | nil => rfl
  | cons e rest ih => simp only [List.cons_append, numberAll, ih]

/-! ## Infix operators -/

/-- The loop of a level goes on from a tree that is numbered from `first` on. -/
theorem parseChainFrom_eq (table : OperatorTable) (h : Counts Expr.numberFrom p q)
    (first fuel : Nat) (left : RawExpr) (ls : List Lexeme) :
    parseChainFrom table p fuel (left.numberFrom first).1 (left.numberFrom first).2 ls =
      (chainFrom table q fuel left ls).map (counted Expr.numberFrom first) := by
  induction fuel generalizing left ls with
  | zero => rfl
  | succ fuel ih =>
    rw [parseChainFrom, chainFrom]
    cases nextOperator? table ls with
    | none => rfl
    | some op =>
      dsimp only
      rw [h]
      apply map_seq
      rintro ⟨right, rest⟩
      rw [← ih]
      simp only [counted, node, spanning, numberFrom_span, Expr.numberFrom]

theorem parseChain_counts (table : OperatorTable) (h : Counts Expr.numberFrom p q) :
    Counts Expr.numberFrom (parseChain table p) (chain table q) := by
  intro next ls
  rw [parseChain, chain, h]
  exact map_seq fun (left, rest) => parseChainFrom_eq table h next rest.length left rest

theorem parseEqualities_counts (h : Counts Expr.numberFrom p q) :
    Counts Expr.numberFrom (parseEqualities σ p) (equalities σ q) := by
  intro next ls
  rw [parseEqualities, equalities, parseChain_counts equalityTable h]
  apply map_seq
  rintro ⟨left, rest⟩
  dsimp only [counted]
  split
  · rfl
  · rfl

theorem parseInfixes_counts (h : Counts Expr.numberFrom p q) :
    Counts Expr.numberFrom (parseInfixes σ p) (infixes σ q) :=
  parseChain_counts _ <| parseChain_counts _ <| parseEqualities_counts <| parseChain_counts _ <|
    parseChain_counts _ <| parseChain_counts _ h

/-! ## Lists and postfix operators -/

/-- The loop of a list goes on from items that are numbered from `first` on. -/
theorem parseMoreItems_eq (close : Symbol) (h : Counts Expr.numberFrom p q)
    (first fuel : Nat) (items : List RawExpr) (ls : List Lexeme) :
    parseMoreItems σ p close fuel (numberAll first items).1 (numberAll first items).2 ls =
      (moreItems σ q close fuel items ls).map (counted numberAll first) := by
  induction fuel generalizing items ls with
  | zero => rfl
  | succ fuel ih =>
    rw [parseMoreItems, moreItems]
    split
    · split
      · rfl
      · rw [h]
        apply map_seq
        rintro ⟨item, rest⟩
        rw [← ih, numberAll_append]
        rfl
    · rfl

theorem parseList_counts (close : Symbol) (h : Counts Expr.numberFrom p q) :
    Counts numberList (parseList σ p close) (listed σ q close) := by
  intro next ls
  -- whatever the items are, what closes them is read alike
  have hclose : ∀ out : List RawExpr × List Lexeme,
      (σ.expect close (counted numberAll next out).2.2 >>= fun closing => .ok
        (((counted numberAll next out).1, closing.1), (counted numberAll next out).2.1,
          closing.2)) =
      (σ.expect close out.2 >>= fun closing => .ok ((out.1, closing.1), closing.2)).map
        (counted numberList next) :=
    fun out => seq_map fun closing => rfl
  rw [parseList, listed]
  split
  · exact hclose ([], ls)
  · rw [h]
    apply map_seq
    rintro ⟨first, rest⟩
    have hitems : parseMoreItems σ p close rest.length [(first.numberFrom next).1]
        (first.numberFrom next).2 rest =
          (moreItems σ q close rest.length [first] rest).map (counted numberAll next) :=
      parseMoreItems_eq close h next rest.length [first] rest
    dsimp only [counted]
    rw [hitems]
    exact map_seq hclose

/-- A postfix operator goes on from a target that is numbered from `first` on. -/
theorem parsePostfix?_eq (h : Counts Expr.numberFrom p q) (first : Nat) (target : RawExpr)
    (ls : List Lexeme) :
    parsePostfix? σ p (target.numberFrom first).1 (target.numberFrom first).2 ls =
      (postfix? σ q target ls).map fun result =>
        result.map (counted Expr.numberFrom first) := by
  unfold parsePostfix? postfix?
  rw [numberFrom_span]
  dsimp only
  split
  · -- `(`
    rw [parseList_counts .rparen h]
    exact congrArg some (map_seq fun list => rfl)
  split
  · -- `[`
    rw [h]
    exact congrArg some (map_seq fun position => seq_map fun closing => rfl)
  split
  · -- `.`: the token after it decides, and only a name makes a node
    apply congrArg some
    cases ls.drop 1 with
    | nil => rfl
    | cons l rest =>
      obtain ⟨token, span⟩ := l
      cases token <;> rfl
  · rfl

/-- The loop of postfix operators goes on from a target that is numbered from `first` on. -/
theorem parsePostfixes_eq (h : Counts Expr.numberFrom p q) (first fuel : Nat) (target : RawExpr)
    (ls : List Lexeme) :
    parsePostfixes σ p fuel (target.numberFrom first).1 (target.numberFrom first).2 ls =
      (postfixedFrom σ q fuel target ls).map (counted Expr.numberFrom first) := by
  induction fuel generalizing target ls with
  | zero => rfl
  | succ fuel ih =>
    rw [parsePostfixes, postfixedFrom, parsePostfix?_eq h]
    cases postfix? σ q target ls with
    | none => rfl
    | some result => exact map_seq fun (extended, rest) => ih extended rest

/-! ## Operands -/

theorem parseTypeOf_counts (start : Nat) :
    Counts Expr.numberFrom (parseTypeOf σ start) (typeOfOperand σ start) := by
  intro next ls
  apply seq_map
  rintro ⟨opening, rest⟩
  cases rest with
  | nil => rfl
  | cons l rest =>
    obtain ⟨token, span⟩ := l
    cases token with
    | ident first => exact seq_map fun name => seq_map fun closing => rfl
    | _ => rfl

theorem parseNewArray_counts (h : Counts Expr.numberFrom p q) (start : Nat) :
    Counts Expr.numberFrom (parseNewArray σ p start) (newArray σ q start) := by
  intro next ls
  unfold parseNewArray newArray
  split
  · apply seq_map
    rintro ⟨opening, rest⟩
    dsimp only
    rw [parseList_counts .rbrace h]
    exact map_seq fun list => rfl
  · rfl

theorem parseAtom_counts (h : Counts Expr.numberFrom p q) :
    Counts Expr.numberFrom (parseAtom σ p) (atom σ q) := by
  intro next ls
  cases ls with
  | nil => rfl
  | cons l rest =>
    obtain ⟨token, span⟩ := l
    cases token with
    | typeOf => exact parseTypeOf_counts span.start next rest
    | new => exact parseNewArray_counts h span.start next rest
    | symbol s =>
      cases s with
      | lparen =>
        -- the tree is that of the expression inside, with its numbers
        have hinner := h next rest
        unfold parseAtom atom
        dsimp only
        rw [hinner]
        exact map_seq fun inner => seq_map fun closing => rfl
      | lbracket =>
        have hlist := parseList_counts (σ := σ) .rbracket h next rest
        unfold parseAtom atom
        dsimp only
        rw [hlist]
        exact map_seq fun list => rfl
      | _ => rfl
    | _ => rfl

/-- An atom with its postfix operators. -/
theorem parsePostfixed_counts (h : Counts Expr.numberFrom p q) (next : Nat) (ls : List Lexeme) :
    (parseAtom σ p next ls >>= fun start =>
      parsePostfixes σ p start.2.2.length start.1 start.2.1 start.2.2) =
    (atom σ q ls >>= fun start =>
      postfixedFrom σ q start.2.length start.1 start.2).map (counted Expr.numberFrom next) := by
  rw [parseAtom_counts h]
  exact map_seq fun (target, rest) => parsePostfixes_eq h next rest.length target rest

theorem parseUnary_counts (h : Counts Expr.numberFrom p q) (h' : Counts Expr.numberFrom p' q') :
    Counts Expr.numberFrom (parseUnary σ p p') (unary σ q q') := by
  intro next ls
  have hplain := parsePostfixed_counts (σ := σ) h next ls
  cases ls with
  | nil => exact hplain
  | cons l rest =>
    obtain ⟨token, span⟩ := l
    cases token with
    | symbol s =>
      unfold parseUnary unary
      dsimp only
      cases prefixOperator? s with
      | none => exact hplain
      | some op =>
        dsimp only
        rw [h']
        apply map_seq
        rintro ⟨inner, rest⟩
        simp only [counted, node, numberFrom_span]
        rfl
    | _ => exact hplain

/-! ## Expressions -/

theorem parseConditional_counts (h : Counts Expr.numberFrom p q)
    (h' : Counts Expr.numberFrom p' q') :
    Counts Expr.numberFrom (parseConditional σ p p') (conditional σ q q') := by
  intro next ls
  rw [parseConditional, conditional, parseInfixes_counts (parseUnary_counts h h')]
  apply map_seq
  rintro ⟨cond, rest⟩
  dsimp only [counted]
  split
  · rw [h]
    apply map_seq
    rintro ⟨onTrue, rest⟩
    apply seq_map
    rintro ⟨colon, rest⟩
    dsimp only [counted]
    rw [h]
    apply map_seq
    rintro ⟨onFalse, rest⟩
    simp only [counted, node, spanning, numberFrom_span]
    rfl
  · rfl

theorem parseExpression_counts (h : Counts Expr.numberFrom p q)
    (h' : Counts Expr.numberFrom p' q') :
    Counts Expr.numberFrom (parseExpression σ p p') (expression σ q q') := by
  intro next ls
  unfold parseExpression expression
  cases lambdaHead? ls with
  | none => exact parseConditional_counts h h' next ls
  | some head =>
    dsimp only
    rw [h]
    apply map_seq
    rintro ⟨body, rest⟩
    simp only [counted, node, numberFrom_span]
    rfl

/-- The two recursive productions, by induction on the depth that is left. -/
theorem parseNested_parseOperand_counts (σ : Setting) (d : Nat) :
    Counts Expr.numberFrom (parseNested σ d) (nested σ d) ∧
      Counts Expr.numberFrom (parseOperand σ d) (operand σ d) := by
  induction d with
  | zero =>
    constructor
    · intro next ls
      rw [parseNested, nested]
      rfl
    · intro next ls
      rw [parseOperand, operand]
      rfl
  | succ d ih =>
    obtain ⟨hnested, hoperand⟩ := ih
    constructor
    · intro next ls
      rw [parseNested, nested]
      exact parseExpression_counts hnested hoperand next ls
    · intro next ls
      rw [parseOperand, operand]
      exact parseUnary_counts hnested hoperand next ls

/-! ## Whole inputs -/

theorem heights_numberAll {es : List RawExpr}
    (h : ∀ e ∈ es, ∀ k, (e.numberFrom k).1.height = e.height) (next : Nat) :
    heights (numberAll next es).1 = heights es := by
  induction es generalizing next with
  | nil => rfl
  | cons e rest ih =>
    rw [List.forall_mem_cons] at h
    rw [numberAll, heights, heights, h.1, ih h.2]

/-- Numbering keeps the height. -/
theorem numberFrom_height (next : Nat) (e : RawExpr) :
    (e.numberFrom next).1.height = e.height := by
  induction e using Expr.inductionOnChildren generalizing next with
  | node e ih =>
    rw [Expr.height_eq, numberFrom_children, heights_numberAll fun c hc k => ih c hc k,
      ← Expr.height_eq]

/-- The tree of an input is numbered from one on, whether or not there is an error beside it. -/
theorem parseLexemes_eq (maxDepth : Nat) (input : List Lexeme) :
    parseLexemes maxDepth input =
      match (dropTrailingSemicolons input).getLast? with
      | none => .rejected ⟨.emptyInput, ⟨0, 0⟩⟩
      | some last =>
        match nested ⟨last.span.stop, maxDepth⟩ maxDepth (dropTrailingSemicolons input) with
        | .error e => .rejected e
        | .ok (e, l :: _) => .flawed e.number ⟨trailingFault l.token, l.span⟩
        | .ok (e, []) =>
          if maxDepth < e.height then .flawed e.number ⟨.tooDeep maxDepth, e.mark⟩
          else .complete e.number := by
  unfold parseLexemes
  dsimp only
  cases (dropTrailingSemicolons input).getLast? with
  | none => rfl
  | some last =>
    dsimp only
    rw [(parseNested_parseOperand_counts _ maxDepth).1]
    cases nested ⟨last.span.stop, maxDepth⟩ maxDepth (dropTrailingSemicolons input) with
    | error e => rfl
    | ok out =>
      obtain ⟨e, rest⟩ := out
      cases rest with
      | cons l rest => rfl
      | nil =>
        simp only [Except.map, counted, Expr.depth_eq_height, numberFrom_height, numberFrom_span]
        rfl

end GatedPredicate.Syntax
