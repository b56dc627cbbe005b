import GatedPredicate.Proofs.Syntax.Identifiers

/-!
# What the limit on nesting does

Two parsers that differ in how deep they may go agree until the one that may go less deep gives up.
This is one relation between what two parsers give: `Cut`. Each function of the parser keeps it from
the parsers of the nested parts, and `nested_operand_cuts` goes up from one limit to the other by
induction on the depth that is left to the lower one. What a whole tree is checked for afterwards is
its height.

- `Cut`, `Cuts`: the relation, on results and on parsers
- `nested_operand_cuts`: the two recursive productions under two limits
- `parseLexemes_cut`: whole inputs
- `depth_limit_cuts_off`
-/

namespace GatedPredicate.Syntax

variable {α β : Type} {stop low high : Nat} {p q p' q' : Reader RawExpr}

/-! ## The relation -/

/-- The left result is the right one, unless it is the error of nesting deeper than `limit`. -/
def Cut (limit : Nat) (x y : Except SyntaxError α) : Prop :=
  x = y ∨ ∃ span, x = .error ⟨.tooDeep limit, span⟩

/-- On all input the left parser gives what the right one gives, or goes deeper than `limit`. -/
def Cuts (limit : Nat) (p q : Reader α) : Prop :=
  ∀ ls, Cut limit (p ls) (q ls)

theorem Cut.refl (x : Except SyntaxError α) : Cut low x x :=
  .inl rfl

/-- One computation after another: an error ends both. -/
theorem Cut.bind {x y : Except SyntaxError α} {f g : α → Except SyntaxError β}
    (h : Cut low x y) (hfg : ∀ a, Cut low (f a) (g a)) : Cut low (x >>= f) (y >>= g) := by
  rcases h with rfl | ⟨span, rfl⟩
  · cases x with
    | error e => exact .refl _
    | ok a => exact hfg a
  · exact .inr ⟨span, rfl⟩

/-! ## Infix operators -/

theorem chainFrom_cuts (table : OperatorTable) (h : Cuts low p q) (fuel : Nat)
    (left : RawExpr) : Cuts low (chainFrom table p fuel left) (chainFrom table q fuel left) := by
  induction fuel generalizing left with
  | zero => exact fun ls => .refl _
  | succ fuel ih =>
    intro ls
    rw [chainFrom, chainFrom]
    split
    · exact .refl _
    · exact (h _).bind fun right => ih _ _

theorem chain_cuts (table : OperatorTable) (h : Cuts low p q) :
    Cuts low (chain table p) (chain table q) :=
  fun ls => (h ls).bind fun _ => chainFrom_cuts table h _ _ _

theorem equalities_cuts (h : Cuts low p q) :
    Cuts low (equalities ⟨stop, low⟩ p) (equalities ⟨stop, high⟩ q) :=
  fun ls => (chain_cuts equalityTable h ls).bind fun _ => .refl _

theorem infixes_cuts (h : Cuts low p q) :
    Cuts low (infixes ⟨stop, low⟩ p) (infixes ⟨stop, high⟩ q) :=
  chain_cuts _ <| chain_cuts _ <| equalities_cuts <| chain_cuts _ <| chain_cuts _ <|
    chain_cuts _ h

/-! ## Lists and postfix operators -/

theorem moreItems_cuts (close : Symbol) (h : Cuts low p q) (fuel : Nat)
    (items : List RawExpr) :
    Cuts low (moreItems ⟨stop, low⟩ p close fuel items)
      (moreItems ⟨stop, high⟩ q close fuel items) := by
  induction fuel generalizing items with
  | zero => exact fun ls => .refl _
  | succ fuel ih =>
    intro ls
    rw [moreItems, moreItems]
    split
    · split
      · exact .refl _
      · exact (h _).bind fun item => ih _ _
    · exact .refl _

theorem listed_cuts (close : Symbol) (h : Cuts low p q) :
    Cuts low (listed ⟨stop, low⟩ p close) (listed ⟨stop, high⟩ q close) := by
  intro ls
  unfold listed
  split
  · exact .refl _
  · refine (h ls).bind fun first => ?_
    exact (moreItems_cuts close h _ _ _).bind fun items => .refl _

/-- Whether a postfix operator follows does not depend on the nested parser. -/
theorem postfix?_cuts (h : Cuts low p q) (target : RawExpr) (ls : List Lexeme) :
    Option.Rel (Cut low) (postfix? ⟨stop, low⟩ p target ls)
      (postfix? ⟨stop, high⟩ q target ls) := by
  unfold postfix?
  split
  · -- `(`
    exact .some ((listed_cuts .rparen h _).bind fun list => .refl _)
  split
  · -- `[`
    exact .some ((h _).bind fun position => .refl _)
  split
  · -- `.`
    exact .some (.refl _)
  · exact .none

theorem postfixedFrom_cuts (h : Cuts low p q) (fuel : Nat) (target : RawExpr) :
    Cuts low (postfixedFrom ⟨stop, low⟩ p fuel target)
      (postfixedFrom ⟨stop, high⟩ q fuel target) := by
  induction fuel generalizing target with
  | zero => exact fun ls => .refl _
  | succ fuel ih =>
    intro ls
    have hrel : Option.Rel (Cut low) (postfix? ⟨stop, low⟩ p target ls)
        (postfix? ⟨stop, high⟩ q target ls) := postfix?_cuts h target ls
    rw [postfixedFrom, postfixedFrom]
    generalize postfix? ⟨stop, low⟩ p target ls = x, postfix? ⟨stop, high⟩ q target ls = y at hrel ⊢
    cases hrel with
    | none => exact .refl _
    | some hresult => exact hresult.bind fun extended => ih _ _

/-! ## Operands -/

theorem dottedName_limit (low high fuel : Nat) (name : String) :
    dottedName ⟨stop, low⟩ fuel name = dottedName ⟨stop, high⟩ fuel name := by
  induction fuel generalizing name with
  | zero => rfl
  | succ fuel ih =>
    funext ls
    simp only [dottedName, ih]
    rfl

theorem typeOfOperand_limit (low high start : Nat) :
    typeOfOperand ⟨stop, low⟩ start = typeOfOperand ⟨stop, high⟩ start := by
  funext ls
  simp only [typeOfOperand, dottedName_limit low high]
  rfl

theorem newArray_cuts (h : Cuts low p q) (start : Nat) :
    Cuts low (newArray ⟨stop, low⟩ p start) (newArray ⟨stop, high⟩ q start) := by
  intro ls
  unfold newArray
  split
  · refine (Cut.refl _).bind fun opening => ?_
    exact (listed_cuts .rbrace h _).bind fun list => .refl _
  · exact .refl _

theorem atom_cuts (h : Cuts low p q) :
    Cuts low (atom ⟨stop, low⟩ p) (atom ⟨stop, high⟩ q) := by
  intro ls
  unfold atom
  split
  · exact .refl _
  split
  -- `typeof`, `new`, `(`, `[`
  case h_3 =>
    rw [typeOfOperand_limit low high]
    exact .refl _
  case h_4 => exact newArray_cuts h _ _
  case h_6 => exact (h _).bind fun inner => .refl _
  case h_7 => exact (listed_cuts .rbracket h _).bind fun list => .refl _
  -- every other token is an operand by itself, or none
  all_goals exact .refl _

theorem unary_cuts (h : Cuts low p q) (h' : Cuts low p' q') :
    Cuts low (unary ⟨stop, low⟩ p p') (unary ⟨stop, high⟩ q q') := by
  intro ls
  have hplain : Cut low
      (atom ⟨stop, low⟩ p ls >>= fun start =>
        postfixedFrom ⟨stop, low⟩ p start.2.length start.1 start.2)
      (atom ⟨stop, high⟩ q ls >>= fun start =>
        postfixedFrom ⟨stop, high⟩ q start.2.length start.1 start.2) :=
    (atom_cuts h ls).bind fun start => postfixedFrom_cuts h _ _ _
  unfold unary
  split
  · split
    · exact (h' _).bind fun inner => .refl _
    · exact hplain
  · exact hplain

/-! ## Expressions -/

theorem conditional_cuts (h : Cuts low p q) (h' : Cuts low p' q') :
    Cuts low (conditional ⟨stop, low⟩ p p') (conditional ⟨stop, high⟩ q q') := by
  intro ls
  refine (infixes_cuts (unary_cuts h h') ls).bind fun cond => ?_
  dsimp only
  split
  · refine (h _).bind fun onTrue => (Cut.refl _).bind fun colon => ?_
    exact (h _).bind fun onFalse => .refl _
  · exact .refl _

theorem expression_cuts (h : Cuts low p q) (h' : Cuts low p' q') :
    Cuts low (expression ⟨stop, low⟩ p p') (expression ⟨stop, high⟩ q q') := by
  intro ls
  unfold expression
  split
  · exact (h _).bind fun body => .refl _
  · exact conditional_cuts h h' ls

/-- With less depth left the two recursive productions give the same, or give up. -/
theorem nested_operand_cuts (stop : Nat) {d d' : Nat} (hle : d ≤ d') :
    Cuts low (nested ⟨stop, low⟩ d) (nested ⟨stop, high⟩ d') ∧
      Cuts low (operand ⟨stop, low⟩ d) (operand ⟨stop, high⟩ d') := by
  induction d generalizing d' with
  | zero =>
    refine ⟨fun ls => .inr ⟨Setting.here ⟨stop, low⟩ ls, ?_⟩,
      fun ls => .inr ⟨Setting.here ⟨stop, low⟩ ls, ?_⟩⟩
    · rw [nested]
      rfl
    · rw [operand]
      rfl
  | succ d ih =>
    obtain ⟨k, rfl⟩ : ∃ k, d' = k + 1 := Nat.exists_eq_add_one.2 (by omega)
    obtain ⟨hnested, hoperand⟩ := ih (Nat.le_of_succ_le_succ hle)
    refine ⟨fun ls => ?_, fun ls => ?_⟩
    · rw [nested, nested]
      exact expression_cuts hnested hoperand ls
    · rw [operand, operand]
      exact unary_cuts hnested hoperand ls

/-! ## Whole inputs -/

/-- The only error of an input is that it nests deeper than `limit`. -/
def Parsed.IsCut (limit : Nat) (parsed : Parsed) : Prop :=
  ∃ span, parsed.errors = [⟨.tooDeep limit, span⟩]

/-- Lexemes are parsed alike with two limits, unless they go beyond the lower one. -/
theorem parseLexemes_cut (hle : low ≤ high) (input : List Lexeme) :
    parseLexemes low input = parseLexemes high input ∨ (parseLexemes low input).IsCut low := by
  rw [parseLexemes_eq, parseLexemes_eq]
  split
  · exact .inl rfl
  rename_i last hlast
  have hcuts : Cuts low (nested ⟨last.span.stop, low⟩ low) (nested ⟨last.span.stop, high⟩ high) :=
    (nested_operand_cuts last.span.stop hle).1
  rcases hcuts (dropTrailingSemicolons input) with hsame | ⟨span, hcut⟩
  · rw [hsame]
    split
    · exact .inl rfl
    · exact .inl rfl
    · -- the whole input is a tree, which the lower limit may still be too low for
      rename_i tree _
      by_cases hdeep : low < tree.height
      · rw [if_pos hdeep]
        exact .inr ⟨_, rfl⟩
      · rw [if_neg hdeep, if_neg (by omega)]
        exact .inl rfl
  · rw [hcut]
    exact .inr ⟨span, rfl⟩

/-! ## Heights -/

/-- A tree that parsing gives without an error is no higher than the limit. -/
theorem parseLexemes_height {limit : Nat} {input : List Lexeme} {tree : Expr Mark}
    (h : parseLexemes limit input = .complete tree) : tree.height ≤ limit := by
  rw [parseLexemes_eq] at h
  split at h
  · cases h
  split at h
  · cases h
  · cases h
  rename_i e _
  split at h
  · cases h
  rename_i hheight
  obtain rfl := Parsed.complete.inj h
  rw [Expr.number, numberFrom_height]
  omega

/-- With a lower limit on nesting a text is parsed to the same as with a higher one, numbers, ranges
and errors included, or its only error is that it nests deeper than the lower limit. A tree without
an error is no higher than the limit. -/
theorem depth_limit_cuts_off (source : String) :
    (∀ low high, low ≤ high → parse low source = parse high source ∨
      (parse low source).errors.map SyntaxError.message =
        ["expression nests deeper than " ++ toString low ++ " levels"]) ∧
      ∀ limit tree, parse limit source = .complete tree → tree.height ≤ limit := by
  unfold parse
  split
  · rename_i ls _
    refine ⟨fun low high hle => ?_, fun limit tree => parseLexemes_height⟩
    rcases parseLexemes_cut hle ls with hsame | ⟨span, hcut⟩
    · exact .inl hsame
    · rw [hcut]
      exact .inr rfl
  · -- a text that does not consist of lexemes is refused with any limit
    exact ⟨fun _ _ _ => .inl rfl, nofun⟩

/-- A sum of three numbers has a tree of three levels, so a limit of two refuses it. -/
theorem depth_limit_cuts_off_sum :
    let source := "1+2+3"
    let tree : Expr Mark := .binary ⟨5, ⟨0, 5⟩⟩ .add
      (.binary ⟨3, ⟨0, 3⟩⟩ .add (.literal ⟨1, ⟨0, 1⟩⟩ (.int 1)) (.literal ⟨2, ⟨2, 3⟩⟩ (.int 2)))
      (.literal ⟨4, ⟨4, 5⟩⟩ (.int 3))
    (parse 3 source = .complete tree ∧ tree.height ≤ 3) ∧
      (2 ≤ 3 ∧ (parse 2 source).errors.map SyntaxError.message =
        ["expression nests deeper than 2 levels"]) := by
  intro source tree
  obtain ⟨hlimits, hheight⟩ := depth_limit_cuts_off source
  let ls : List Lexeme := [⟨.literal (.int 1), ⟨0, 1⟩⟩, ⟨.symbol .plus, ⟨1, 2⟩⟩,
    ⟨.literal (.int 2), ⟨2, 3⟩⟩, ⟨.symbol .plus, ⟨3, 4⟩⟩, ⟨.literal (.int 3), ⟨4, 5⟩⟩]
  have hlex : lex source = .ok ls := by decide +kernel
  have hlexemes : parseLexemes 3 ls = .complete tree :=
    (parseLexemes_of_parseNested rfl rfl).trans rfl
  have hparse : parse 3 source = .complete tree := by rw [parse, hlex, ← hlexemes]
  refine ⟨⟨hparse, hheight 3 tree hparse⟩, by decide, (hlimits 2 3 (by decide)).resolve_left ?_⟩
  intro hsame
  exact absurd (hheight 2 tree (hsame.trans hparse)) (by decide)

end GatedPredicate.Syntax
