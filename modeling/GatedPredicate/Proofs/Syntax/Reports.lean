import GatedPredicate.Proofs.Syntax.Mention
import GatedPredicate.Proofs.Syntax.Ranges

/-!
# Where errors are reported

A parser reports an error at a lexeme that it has not read, at the end of the input, or from a
lexeme that it has read to one that it has not. All of these ranges lie in the text as long as
every parser leaves lexemes in order, so both are one contract on what a parser gives: `Tracks`.
Each function of the parser has one lemma of this form, for arbitrary parsers of the nested parts,
and `nested_operand_tracks` puts them together by induction on the depth that is left.

- `Span.Lies`: ranges that may be empty
- `Tracked`, `Tracks`: the contract
- `nested_operand_tracks`: the two recursive productions
- `parse_marks`: numbers, ranges and errors of whole texts
-/

namespace GatedPredicate.Syntax

open GatedPredicate.Text

variable {α β : Type} {P : Nat → Prop} {σ : Setting} {inner nestedP operandP : Reader RawExpr}

/-! ## The contract -/

/-- The range begins and ends at offsets in `P`; it may be empty. -/
structure Span.Lies (P : Nat → Prop) (s : Span) : Prop where
  start_le_stop : s.start ≤ s.stop
  start : P s.start
  stop : P s.stop

theorem Span.Sits.lies {s : Span} (h : s.Sits P) : s.Lies P :=
  ⟨Nat.le_of_lt h.start_lt_stop, h.start, h.stop⟩

/-- The lexemes that are left stand one after another up to the end of the input, whose offset is
in `P`. -/
structure Remains (P : Nat → Prop) (σ : Setting) (ls : List Lexeme) : Prop where
  inOrder : ∃ lo, InOrder P lo σ.stop ls
  stop : P σ.stop

namespace Remains

variable {l : Lexeme} {ls : List Lexeme}

theorem head (h : Remains P σ (l :: ls)) : l.span.Sits P := by
  obtain ⟨lo, -, hl, -⟩ := h.inOrder
  exact hl

theorem tail (h : Remains P σ (l :: ls)) : Remains P σ ls := by
  obtain ⟨lo, hlo⟩ := h.inOrder
  exact ⟨⟨lo, hlo.tail⟩, h.stop⟩

theorem drop (h : Remains P σ ls) (k : Nat) : Remains P σ (ls.drop k) := by
  induction k generalizing ls with
  | zero => exact h
  | succ k ih =>
    cases ls with
    | nil => exact h
    | cons l rest => exact ih h.tail

theorem here (h : Remains P σ ls) : (σ.here ls).Lies P := by
  cases ls with
  | nil => exact ⟨Nat.le_refl _, h.stop, h.stop⟩
  | cons l rest => exact h.head.lies

end Remains

/-- What a parser gives leaves lexemes in order, or is an error that lies in the text. -/
def Tracked (P : Nat → Prop) (σ : Setting) : Except SyntaxError (α × List Lexeme) → Prop
  | .ok (_, rest) => Remains P σ rest
  | .error e => e.span.Lies P

/-- The parser keeps lexemes in order and reports errors in the text. -/
def Tracks (P : Nat → Prop) (σ : Setting) (p : Reader α) : Prop :=
  ∀ ls, Remains P σ ls → Tracked P σ (p ls)

/-- One parser after another. -/
theorem Tracked.bind {x : Except SyntaxError (α × List Lexeme)}
    {f : α × List Lexeme → Except SyntaxError (β × List Lexeme)} (hx : Tracked P σ x)
    (hf : ∀ a rest, Remains P σ rest → Tracked P σ (f (a, rest))) : Tracked P σ (x >>= f) := by
  cases x with
  | error e => exact hx
  | ok result => exact hf result.1 result.2 hx

theorem tracked_fail {ls : List Lexeme} (fault : SyntaxFault) (h : Remains P σ ls) :
    Tracked P σ (σ.fail fault ls : Except SyntaxError (α × List Lexeme)) :=
  h.here

theorem expect_tracks (s : Symbol) : Tracks P σ (σ.expect s) := by
  intro ls h
  cases ls with
  | nil => exact tracked_fail _ h
  | cons l rest =>
    unfold Setting.expect
    dsimp only
    split
    · exact h.tail
    · exact h.head.lies

/-! ## Infix operators -/

theorem chainFrom_tracks {table : OperatorTable} (hinner : Tracks P σ inner) (fuel : Nat)
    (left : RawExpr) : Tracks P σ (chainFrom table inner fuel left) := by
  -- the tree so far plays no part, but it changes from round to round
  induction fuel generalizing left with
  | zero =>
    intro ls h
    exact h
  | succ fuel ih =>
    intro ls h
    rw [chainFrom]
    split
    · exact h
    · exact (hinner _ (h.drop 1)).bind fun right rest hrest => ih _ rest hrest

theorem chain_tracks (table : OperatorTable) (hinner : Tracks P σ inner) :
    Tracks P σ (chain table inner) := by
  intro ls h
  exact (hinner ls h).bind fun left rest hrest => chainFrom_tracks hinner _ left rest hrest

/-- A `=` after a comparison is the lexeme that stands next. -/
theorem equalities_tracks (hinner : Tracks P σ inner) : Tracks P σ (equalities σ inner) := by
  intro ls h
  refine (chain_tracks equalityTable hinner ls h).bind fun left rest hrest => ?_
  dsimp only
  split
  · exact tracked_fail _ hrest
  · exact hrest

theorem infixes_tracks (hoperand : Tracks P σ operandP) : Tracks P σ (infixes σ operandP) :=
  chain_tracks _ <| chain_tracks _ <| equalities_tracks <| chain_tracks _ <| chain_tracks _ <|
    chain_tracks _ hoperand

/-! ## Lists and postfix operators -/

theorem moreItems_tracks {close : Symbol} (hnested : Tracks P σ nestedP) (fuel : Nat)
    (items : List RawExpr) : Tracks P σ (moreItems σ nestedP close fuel items) := by
  induction fuel generalizing items with
  | zero =>
    intro ls h
    exact h
  | succ fuel ih =>
    intro ls h
    rw [moreItems]
    split
    · split
      · exact h.drop 1
      · exact (hnested _ (h.drop 1)).bind fun item rest hrest => ih _ rest hrest
    · exact h

theorem listed_tracks (close : Symbol) (hnested : Tracks P σ nestedP) :
    Tracks P σ (listed σ nestedP close) := by
  intro ls h
  -- whatever the items are, the closing symbol comes next
  have hclosed : ∀ (items : List RawExpr) (rest : List Lexeme), Remains P σ rest →
      Tracked P σ (σ.expect close rest >>= fun after => .ok ((items, after.1), after.2)) :=
    fun items rest hrest =>
      (expect_tracks close rest hrest).bind fun closing rest hrest => hrest
  unfold listed
  split
  · exact hclosed [] ls h
  · refine (hnested ls h).bind fun first rest hrest => ?_
    exact (moreItems_tracks hnested _ [first] rest hrest).bind hclosed

theorem postfix?_tracked (hnested : Tracks P σ nestedP) {target : RawExpr} {ls : List Lexeme}
    {result : Except SyntaxError (RawExpr × List Lexeme)} (h : Remains P σ ls)
    (hsome : postfix? σ nestedP target ls = some result) : Tracked P σ result := by
  unfold postfix? at hsome
  split at hsome
  · -- `(`
    rw [← Option.some.inj hsome]
    exact (listed_tracks .rparen hnested _ (h.drop 1)).bind fun list rest hrest => hrest
  split at hsome
  · -- `[`
    rw [← Option.some.inj hsome]
    refine (hnested _ (h.drop 1)).bind fun position rest hrest => ?_
    exact (expect_tracks .rbracket rest hrest).bind fun closing rest hrest => hrest
  split at hsome
  · -- `.`
    rw [← Option.some.inj hsome]
    have hafter := h.drop 1
    split
    · rename_i heq
      rw [heq] at hafter
      exact hafter.tail
    · exact tracked_fail _ (hafter.drop 1)
  · simp at hsome

theorem postfixedFrom_tracks (hnested : Tracks P σ nestedP) (fuel : Nat) (target : RawExpr) :
    Tracks P σ (postfixedFrom σ nestedP fuel target) := by
  induction fuel generalizing target with
  | zero =>
    intro ls h
    exact h
  | succ fuel ih =>
    intro ls h
    rw [postfixedFrom]
    split
    · exact h
    · rename_i result hsome
      exact (postfix?_tracked hnested h hsome).bind fun extended rest hrest => ih _ rest hrest

/-! ## Operands -/

theorem dottedName_tracks (fuel : Nat) (name : String) : Tracks P σ (dottedName σ fuel name) := by
  induction fuel generalizing name with
  | zero =>
    intro ls h
    exact h
  | succ fuel ih =>
    intro ls h
    rw [dottedName]
    split
    · have hafter := h.drop 1
      split
      · rename_i heq
        rw [heq] at hafter
        exact ih _ _ hafter.tail
      · exact tracked_fail _ (hafter.drop 1)
    · exact h

theorem typeOfOperand_tracks (start : Nat) : Tracks P σ (typeOfOperand σ start) := by
  intro ls h
  refine (expect_tracks .lparen ls h).bind fun opening rest hrest => ?_
  dsimp only
  split
  · refine (dottedName_tracks _ _ _ hrest.tail).bind fun name rest hrest => ?_
    exact (expect_tracks .rparen rest hrest).bind fun closing rest hrest => hrest
  · exact tracked_fail _ (hrest.drop 1)

/-- What is created other than an array is reported from the keyword to the lexeme after it. -/
theorem newArray_tracked (hnested : Tracks P σ nestedP) {keyword : Span} {token : Token}
    {ls : List Lexeme} (h : Remains P σ (⟨token, keyword⟩ :: ls)) :
    Tracked P σ (newArray σ nestedP keyword.start ls) := by
  unfold newArray
  split
  · refine (expect_tracks .lbrace _ (h.tail.drop 2)).bind fun opening rest hrest => ?_
    exact (listed_tracks .rbrace hnested rest hrest).bind fun list rest hrest => hrest
  · -- a lexeme or the end of the input follows, and neither ends before the keyword begins
    have hle : keyword.start ≤ (σ.here ls).stop := by
      obtain ⟨lo, hlo, hkeyword, hls⟩ := h.inOrder
      have hlt := hkeyword.start_lt_stop
      cases ls with
      | nil => exact Nat.le_trans (Nat.le_of_lt hlt) hls
      | cons next rest =>
        obtain ⟨hnext, hsits, -⟩ := hls
        have hlt' := hsits.start_lt_stop
        exact Nat.le_of_lt (Nat.lt_trans hlt (Nat.lt_of_le_of_lt hnext hlt'))
    exact ⟨hle, h.head.start, h.tail.here.stop⟩

theorem atom_tracks (hnested : Tracks P σ nestedP) : Tracks P σ (atom σ nestedP) := by
  intro ls h
  unfold atom
  split
  · exact tracked_fail _ h
  rename_i token span rest
  have hrest := h.tail
  split
  -- a literal, a name
  case h_1 | h_2 => exact hrest
  -- `typeof`, `new`
  case h_3 => exact typeOfOperand_tracks span.start rest hrest
  case h_4 => exact newArray_tracked hnested h
  -- `(`, `[`
  case h_6 =>
    refine (hnested rest hrest).bind fun inner rest hrest => ?_
    exact (expect_tracks .rparen rest hrest).bind fun closing rest hrest => hrest
  case h_7 => exact (listed_tracks .rbracket hnested rest hrest).bind fun list rest hrest => hrest
  -- every other token is reported where it stands
  all_goals exact h.head.lies

theorem unary_tracks (hnested : Tracks P σ nestedP) (hoperand : Tracks P σ operandP) :
    Tracks P σ (unary σ nestedP operandP) := by
  intro ls h
  have hplain : Tracked P σ (atom σ nestedP ls >>= fun start =>
      postfixedFrom σ nestedP start.2.length start.1 start.2) :=
    (atom_tracks hnested ls h).bind fun target rest hrest =>
      postfixedFrom_tracks hnested _ target rest hrest
  unfold unary
  split
  · split
    · exact (hoperand _ h.tail).bind fun inner rest hrest => hrest
    · exact hplain
  · exact hplain

/-! ## Expressions -/

theorem lambdaHead?_remains {ls rest : List Lexeme} {start : Nat} {param : String}
    (h : Remains P σ ls) (hhead : lambdaHead? ls = some (start, param, rest)) :
    Remains P σ rest := by
  unfold lambdaHead? at hhead
  split at hhead
  · simp only [Option.some.injEq, Prod.mk.injEq] at hhead
    obtain ⟨-, -, rfl⟩ := hhead
    exact h.tail.tail
  · simp only [Option.some.injEq, Prod.mk.injEq] at hhead
    obtain ⟨-, -, rfl⟩ := hhead
    exact h.tail.tail.tail.tail
  · simp at hhead

theorem conditional_tracks (hnested : Tracks P σ nestedP) (hoperand : Tracks P σ operandP) :
    Tracks P σ (conditional σ nestedP operandP) := by
  intro ls h
  have hcond := infixes_tracks (unary_tracks hnested hoperand) ls h
  unfold conditional
  refine hcond.bind fun cond rest hrest => ?_
  dsimp only
  split
  · refine (hnested _ (hrest.drop 1)).bind fun onTrue rest hrest => ?_
    refine (expect_tracks .colon rest hrest).bind fun colon rest hrest => ?_
    exact (hnested rest hrest).bind fun onFalse rest hrest => hrest
  · exact hrest

theorem expression_tracks (hnested : Tracks P σ nestedP) (hoperand : Tracks P σ operandP) :
    Tracks P σ (expression σ nestedP operandP) := by
  intro ls h
  unfold expression
  split
  · rename_i start param rest hhead
    exact (hnested rest (lambdaHead?_remains h hhead)).bind fun body rest hrest => hrest
  · exact conditional_tracks hnested hoperand ls h

/-- The two recursive productions, by induction on the depth that is left. -/
theorem nested_operand_tracks (P : Nat → Prop) (σ : Setting) (d : Nat) :
    Tracks P σ (nested σ d) ∧ Tracks P σ (operand σ d) := by
  induction d with
  | zero =>
    refine ⟨fun ls h => ?_, fun ls h => ?_⟩
    · rw [nested]
      exact tracked_fail _ h
    · rw [operand]
      exact tracked_fail _ h
  | succ d ih =>
    obtain ⟨hnested, hoperand⟩ := ih
    refine ⟨fun ls h => ?_, fun ls h => ?_⟩
    · rw [nested]
      exact expression_tracks hnested hoperand ls h
    · rw [operand]
      exact unary_tracks hnested hoperand ls h

/-! ## Whole inputs -/

/-- Any tree is numbered and comes from a placed one, and any error lies in the text. -/
structure Parsed.Tracked (P : Nat → Prop) (parsed : Parsed) : Prop where
  tree : ∀ tree, parsed.tree? = some tree →
    ∃ (e : RawExpr) (lo hi : Nat), tree = e.number ∧ Placed P lo hi [e]
  error : ∀ e ∈ parsed.errors, e.span.Lies P

namespace Parsed.Tracked

variable {lo hi : Nat} {e : RawExpr} {error : SyntaxError}

theorem complete (he : Placed P lo hi [e]) : Parsed.Tracked P (.complete e.number) := by
  refine ⟨fun _ htree => ⟨e, lo, hi, (Option.some.inj htree).symm, he⟩, fun e' he' => ?_⟩
  cases he'

theorem flawed (he : Placed P lo hi [e]) (herror : error.span.Lies P) :
    Parsed.Tracked P (.flawed e.number error) := by
  refine ⟨fun _ htree => ⟨e, lo, hi, (Option.some.inj htree).symm, he⟩, fun e' he' => ?_⟩
  rw [List.mem_singleton.mp he']
  exact herror

theorem rejected (herror : error.span.Lies P) : Parsed.Tracked P (.rejected error) := by
  refine ⟨fun _ htree => ?_, fun e' he' => ?_⟩
  · cases htree
  · rw [List.mem_singleton.mp he']
    exact herror

end Parsed.Tracked

/-- Lexemes in order are parsed to placed trees and errors in the text. -/
theorem parseLexemes_tracked {lo hi : Nat} (maxDepth : Nat) {input : List Lexeme} (hzero : P 0)
    (hinput : InOrder P lo hi input) : (parseLexemes maxDepth input).Tracked P := by
  -- semicolons at the end are gone before anything is read, so the end of the input is before them
  have hls : InOrder P lo hi (dropTrailingSemicolons input) := by
    obtain ⟨tail, heq, -⟩ := dropTrailingSemicolons_eq input
    rw [heq] at hinput
    exact hinput.left
  rw [parseLexemes_eq]
  split
  · -- an input without lexemes has its error at the start of the text
    exact .rejected ⟨Nat.le_refl 0, hzero, hzero⟩
  rename_i last hlast
  have hspans : ((dropTrailingSemicolons input).map Lexeme.span).getLast? = some last.span := by
    rw [List.getLast?_map, hlast]
    rfl
  have hstop : P last.span.stop := (hls.sits _ (List.mem_of_getLast? hspans)).2.2.stop
  have hremains : Remains P ⟨last.span.stop, maxDepth⟩ (dropTrailingSemicolons input) :=
    ⟨⟨lo, hls.upToLast hspans⟩, hstop⟩
  have htracked := (nested_operand_tracks P ⟨last.span.stop, maxDepth⟩ maxDepth).1 _ hremains
  have hplaced : ∀ e rest, nested ⟨last.span.stop, maxDepth⟩ maxDepth
      (dropTrailingSemicolons input) = .ok (e, rest) → Placed P lo hi [e] := by
    intro e rest hnested
    obtain ⟨used, heq, he⟩ := (nested_operand_reads _ maxDepth).1 _ _ _ hnested
    rw [heq] at hls
    exact he.placed hls.left
  split
  · rename_i e hnested
    rw [hnested] at htracked
    exact .rejected htracked
  · -- input after the expression is reported at the first lexeme that is left
    rename_i e next rest hnested
    rw [hnested] at htracked
    exact .flawed (hplaced e _ hnested) htracked.head.lies
  · rename_i e hnested
    have he := hplaced e _ hnested
    split
    · exact .flawed he he.sits.lies
    · exact .complete he

/-- The nodes of the tree of a text carry the numbers `1, 2, …` in post-order, and ranges that are
not empty and begin and end between characters. Each child is numbered before its parent and stands
inside it, and of two children the first ends before the second begins. -/
structure Expr.WellMarked (source : String) (tree : Expr Mark) : Prop where
  ids : idsOf tree.nodes = List.range' 1 tree.nodes.length
  root : tree.mark.id = tree.nodes.length
  range : ∀ n ∈ tree.nodes, n.mark.span.Sits (IsBoundary source)
  child_id : ∀ n ∈ tree.nodes, ∀ c ∈ n.children, c.mark.id < n.mark.id
  child_range : ∀ n ∈ tree.nodes, ∀ c ∈ n.children,
    n.mark.span.start ≤ c.mark.span.start ∧ c.mark.span.stop ≤ n.mark.span.stop
  siblings : ∀ n ∈ tree.nodes,
    n.children.Pairwise fun a b => a.mark.span.stop ≤ b.mark.span.start

/-- A placed tree is well marked once it is numbered. -/
theorem number_wellMarked {source : String} {e : RawExpr} {lo hi : Nat}
    (h : Placed (IsBoundary source) lo hi [e]) : e.number.WellMarked source := by
  -- numbering leaves the range of every node and those of its children as they were
  have hencloses : ∀ n ∈ e.number.nodes, n.mark.span.Encloses (IsBoundary source)
      (n.children.map fun c => c.mark.span) := by
    intro n hn
    obtain ⟨m, hm, k, rfl⟩ := mem_nodes_numberFrom hn
    rw [numberFrom_mark, numberFrom_children, numberAll_spans]
    exact h.nodes m (mem_nodesAll.mpr ⟨e, List.mem_singleton_self e, hm⟩)
  constructor
  case ids => exact number_ids e
  case root => exact number_root e
  case range => exact fun n hn => (hencloses n hn).sits
  case child_id => exact fun n hn c hc => number_child_lt e hn hc
  case child_range =>
    intro n hn c hc
    obtain ⟨hstart, hstop, -⟩ := (hencloses n hn).inner.sits _ (List.mem_map_of_mem hc)
    exact ⟨hstart, hstop⟩
  case siblings => exact fun n hn => List.pairwise_map.mp (hencloses n hn).inner.pairwise

/-- Every tree that a text is parsed to is well marked, also beside an error. There is at most one
error, and it is reported between characters of the text. -/
theorem parse_marks (maxDepth : Nat) (source : String) :
    (∀ tree, (parse maxDepth source).tree? = some tree → tree.WellMarked source) ∧
      (parse maxDepth source).errors.length ≤ 1 ∧
        ∀ e ∈ (parse maxDepth source).errors, e.span.Lies (IsBoundary source) := by
  have htracked : (parse maxDepth source).Tracked (IsBoundary source) := by
    have hcovers := covers_source source
    unfold parse
    split
    · rename_i ls hlex
      exact parseLexemes_tracked maxDepth hcovers.first (lexFrom_inOrder hcovers hlex)
    · rename_i e hlex
      exact .rejected (lexFrom_fault hcovers hlex).lies
  refine ⟨fun tree htree => ?_, Option.length_toList_le, htracked.error⟩
  obtain ⟨e, lo, hi, rfl, he⟩ := htracked.tree tree htree
  exact number_wellMarked he

/-- An array of a text of two bytes and a name in parentheses, which are no part of any range. The
input goes on after it, so its tree stands beside an error. -/
theorem parse_marks_array :
    let source := "[\"é\", (a)] x"
    let tree : Expr Mark := .array ⟨3, ⟨0, 11⟩⟩
      [.literal ⟨1, ⟨1, 5⟩⟩ (.string "é"), .ident ⟨2, ⟨8, 9⟩⟩ "a"]
    (parse 3 source).tree? = some tree ∧ tree.WellMarked source ∧
      (parse 3 source).errors = [⟨.afterExpression (.ident "x"), ⟨12, 13⟩⟩] := by
  intro source tree
  let ls : List Lexeme :=
    [⟨.symbol .lbracket, ⟨0, 1⟩⟩, ⟨.literal (.string "é"), ⟨1, 5⟩⟩, ⟨.symbol .comma, ⟨5, 6⟩⟩,
      ⟨.symbol .lparen, ⟨7, 8⟩⟩, ⟨.ident "a", ⟨8, 9⟩⟩, ⟨.symbol .rparen, ⟨9, 10⟩⟩,
      ⟨.symbol .rbracket, ⟨10, 11⟩⟩, ⟨.ident "x", ⟨12, 13⟩⟩]
  have hlex : lex source = .ok ls := by decide +kernel
  have hparse : parse 3 source = .flawed tree ⟨.afterExpression (.ident "x"), ⟨12, 13⟩⟩ := by
    rw [parse, hlex]
    rfl
  have htree : (parse 3 source).tree? = some tree := by rw [hparse]; rfl
  exact ⟨htree, (parse_marks 3 source).1 tree htree, by rw [hparse]; rfl⟩

end GatedPredicate.Syntax
