import GatedPredicate.Proofs.Syntax.Identifiers
import Mathlib.Data.List.Forall2

/-!
# What the parser reads is derived

Whatever a parser takes from the front of its input is a phrase of the grammar with the tree that
the parser gives. `Reads p R` says so of one parser; each function of the parser has one lemma of
this form, stated for arbitrary parsers of the nested parts, and `nested_operand_reads` puts them
together by induction on the depth that is left.

- `Reads`: a parser takes phrases of a relation
- `tables_match_levels`: the operators of the parser are those of the grammar
- `nested_operand_reads`: the two recursive productions
- `derives_of_parseLexemes`: whole inputs
-/

namespace GatedPredicate.Syntax

/-- Whatever `p` takes from the front of its input is related to its result by `R`. -/
def Reads {α : Type} (p : Reader α) (R : List Lexeme → α → Prop) : Prop :=
  ∀ ls x rest, p ls = .ok (x, rest) → ∃ used, ls = used ++ rest ∧ R used x

variable {σ : Setting} {d : Nat} {inner nestedP operandP : Reader RawExpr}

/-- A parser that takes nothing reads the empty phrase. -/
theorem reads_nothing {α : Type} {R : List Lexeme → α → Prop} {x y : α} {ls rest : List Lexeme}
    (hx : R [] x) (h : (Except.ok (x, ls) : Except SyntaxError (α × List Lexeme)) = .ok (y, rest)) :
    ∃ used, ls = used ++ rest ∧ R used y := by
  obtain ⟨rfl, rfl⟩ := Prod.mk.inj (Except.ok.inj h)
  exact ⟨[], rfl, hx⟩

/-! ## The next lexeme -/

theorem nextIs_eq_true {s : Symbol} {ls : List Lexeme} (h : nextIs s ls = true) :
    ∃ span rest, ls = ⟨.symbol s, span⟩ :: rest := by
  cases ls with
  | nil => simp [nextIs] at h
  | cons l rest =>
    obtain ⟨token, span⟩ := l
    cases token <;> simp [nextIs, Token.isSymbol] at h
    subst h
    exact ⟨span, rest, rfl⟩

theorem expect_eq_ok {s : Symbol} {ls rest : List Lexeme} {span : Span}
    (h : σ.expect s ls = .ok (span, rest)) : ls = ⟨.symbol s, span⟩ :: rest := by
  cases ls with
  | nil => simp [Setting.expect, Setting.fail] at h
  | cons l more =>
    obtain ⟨token, at_⟩ := l
    simp only [Setting.expect] at h
    split at h
    · rename_i hs
      have hnext : nextIs s (⟨token, at_⟩ :: more) = true := hs
      obtain ⟨_, _, heq⟩ := nextIs_eq_true hnext
      simp_all
    · simp at h

theorem nextOperator?_eq_some {table : OperatorTable} {ls : List Lexeme} {op : BinaryOp}
    (h : nextOperator? table ls = some op) :
    ∃ s span rest, ls = ⟨.symbol s, span⟩ :: rest ∧ table s = some op := by
  unfold nextOperator? at h
  split at h
  · rename_i s span rest
    exact ⟨s, span, rest, rfl, h⟩
  · simp at h

/-! ## Operators -/

/-- The table gives the operators of the level, and no others. -/
def SameOperators (table : OperatorTable) (level : Level) : Prop :=
  ∀ s op, table s = some op ↔ (s, op) ∈ level

/-- The tables of the parser are the levels of the grammar, in the same order. -/
theorem tables_match_levels : List.Forall₂ SameOperators
    [orTable, andTable, equalityTable, relationTable, additionTable, multiplicationTable]
    operatorLevels := by
  simp only [operatorLevels, List.forall₂_cons, List.forall₂_nil_left_iff, and_true]
  refine ⟨?_, ?_, ?_, ?_, ?_, ?_⟩
  all_goals
    intro s op
    cases s <;> simp [orTable, andTable, equalityTable, relationTable, additionTable,
      multiplicationTable, eq_comm]

theorem prefixOperator?_eq_some {s : Symbol} {op : UnaryOp} :
    prefixOperator? s = some op ↔ (s, op) ∈ prefixOperators := by
  cases s <;> simp [prefixOperator?, prefixOperators, eq_comm]

/-- A chain of levels, each over the next, follows the levels of the grammar if each link does. -/
theorem infixes_of_links (P : Reader RawExpr → List Level → Prop)
    (link : ∀ {table level inner levels}, SameOperators table level → P inner levels →
      P (chain table inner) (level :: levels))
    (equality : ∀ {inner levels}, P (chain equalityTable inner) levels →
      P (equalities σ inner) levels)
    (hunary : P operandP []) : P (infixes σ operandP) operatorLevels := by
  obtain ⟨hor, hand, heq, hrel, hadd, hmul⟩ := by simpa [operatorLevels] using tables_match_levels
  exact link hor <| link hand <| equality <| link heq <| link hrel <| link hadd <| link hmul hunary

/-! ## Infix operators -/

/-- The loop of a level extends a phrase of that level. -/
theorem chainFrom_reads {table : OperatorTable} {level : Level} {levels : List Level}
    (hsame : SameOperators table level) (hinner : Reads inner (Derives d (.infixes levels)))
    (fuel : Nat) {front : List Lexeme} {left : RawExpr}
    (hleft : Derives d (.infixes (level :: levels)) front left) :
    Reads (chainFrom table inner fuel left)
      fun used e => Derives d (.infixes (level :: levels)) (front ++ used) e := by
  -- the phrase before the loop grows with each operator, so the induction is for all of them
  induction fuel generalizing front left with
  | zero =>
    intro ls e rest h
    simp only [chainFrom] at h
    exact reads_nothing (by simpa using hleft) h
  | succ fuel ih =>
    intro ls e rest h
    simp only [chainFrom] at h
    split at h
    · exact reads_nothing (by simpa using hleft) h
    · -- one operator and its right operand, then the loop goes on from the longer phrase
      rename_i op hop
      obtain ⟨s, span, more, rfl, hs⟩ := nextOperator?_eq_some hop
      obtain ⟨⟨right, after⟩, hright, h⟩ := except_seq_eq_ok.mp h
      obtain ⟨rs, hrs, hderiv⟩ := hinner _ _ _ hright
      obtain ⟨used, rfl, he⟩ := ih (.binary hleft ((hsame s op).mp hs) hderiv) _ _ _ h
      simp only [List.drop_succ_cons, List.drop_zero] at hrs
      refine ⟨⟨.symbol s, span⟩ :: rs ++ used, by simp [hrs], ?_⟩
      simpa using he

theorem chain_reads {table : OperatorTable} {level : Level} {levels : List Level}
    (hsame : SameOperators table level) (hinner : Reads inner (Derives d (.infixes levels))) :
    Reads (chain table inner) (Derives d (.infixes (level :: levels))) := by
  intro ls e rest h
  unfold chain at h
  obtain ⟨⟨left, after⟩, hleft, hloop⟩ := except_seq_eq_ok.mp h
  obtain ⟨front, rfl, hfront⟩ := hinner _ _ _ hleft
  obtain ⟨used, rfl, he⟩ :=
    chainFrom_reads hsame hinner after.length (.tighter hfront) _ _ _ hloop
  exact ⟨front ++ used, by simp, he⟩

/-- The level of `==` refuses a `=` after the phrase and takes no more than the level itself. -/
theorem equalities_reads {R : List Lexeme → RawExpr → Prop}
    (hlevel : Reads (chain equalityTable inner) R) : Reads (equalities σ inner) R := by
  intro ls e rest h
  unfold equalities at h
  obtain ⟨⟨left, after⟩, hleft, h⟩ := except_seq_eq_ok.mp h
  dsimp only at h
  split at h
  · simp [Setting.fail] at h
  · simp only [Except.ok.injEq, Prod.mk.injEq] at h
    obtain ⟨rfl, rfl⟩ := h
    exact hlevel _ _ _ hleft

theorem infixes_reads (hoperand : Reads operandP (Derives d .operand)) :
    Reads (infixes σ operandP) (Derives d (.infixes operatorLevels)) := by
  have hsingle : Reads operandP (Derives d (.infixes [])) := by
    intro ls e rest h
    obtain ⟨used, rfl, he⟩ := hoperand _ _ _ h
    exact ⟨used, rfl, .single he⟩
  exact infixes_of_links (fun p levels => Reads p (Derives d (.infixes levels)))
    chain_reads equalities_reads hsingle

/-! ## Lists and postfix operators -/

/-- The loop of a list extends the items before it; it stops after a trailing comma. -/
theorem moreItems_reads {close : Symbol} (hnested : Reads nestedP (Derives d .expression))
    (fuel : Nat) {front : List Lexeme} {items : List RawExpr}
    (hitems : DerivesItems d front items) :
    Reads (moreItems σ nestedP close fuel items)
      fun used all => DerivesList d (front ++ used) all := by
  induction fuel generalizing front items with
  | zero =>
    intro ls all rest h
    simp only [moreItems] at h
    exact reads_nothing (by simpa using .items hitems) h
  | succ fuel ih =>
    intro ls all rest h
    simp only [moreItems] at h
    split at h
    · rename_i hcomma
      obtain ⟨comma, more, rfl⟩ := nextIs_eq_true hcomma
      split at h
      · simp only [List.drop_succ_cons, List.drop_zero, Except.ok.injEq, Prod.mk.injEq] at h
        obtain ⟨rfl, rfl⟩ := h
        exact ⟨[⟨.symbol .comma, comma⟩], rfl, .trailing hitems⟩
      · obtain ⟨⟨item, after⟩, hitem, h⟩ := except_seq_eq_ok.mp h
        obtain ⟨rs, hrs, hderiv⟩ := hnested _ _ _ hitem
        obtain ⟨used, rfl, hall⟩ := ih (.more hitems hderiv) _ _ _ h
        simp only [List.drop_succ_cons, List.drop_zero] at hrs
        refine ⟨⟨.symbol .comma, comma⟩ :: rs ++ used, by simp [hrs], ?_⟩
        simpa using hall
    · exact reads_nothing (by simpa using .items hitems) h

theorem listed_reads (close : Symbol) (hnested : Reads nestedP (Derives d .expression)) :
    Reads (listed σ nestedP close) fun used x =>
      ∃ ls, used = ls ++ [⟨.symbol close, x.2⟩] ∧ DerivesList d ls x.1 := by
  intro ls x rest h
  -- an empty list and a list with items differ only in what stands before the closing symbol
  have hparts : ∃ items after closing final,
      (∃ used, ls = used ++ after ∧ DerivesList d used items) ∧
      σ.expect close after = .ok (closing, final) ∧ ((items, closing), final) = (x, rest) := by
    unfold listed at h
    split at h
    · obtain ⟨⟨items, after⟩, hempty, htail⟩ := except_seq_eq_ok.mp h
      obtain ⟨⟨closing, final⟩, hclose, hresult⟩ := except_seq_eq_ok.mp htail
      obtain ⟨rfl, rfl⟩ := Prod.mk.inj (Except.ok.inj hempty)
      exact ⟨[], ls, closing, final, ⟨[], rfl, .nil⟩, hclose, Except.ok.inj hresult⟩
    · obtain ⟨⟨first, more⟩, hfirst, hloop⟩ := except_seq_eq_ok.mp h
      obtain ⟨⟨items, after⟩, hitems, htail⟩ := except_seq_eq_ok.mp hloop
      obtain ⟨⟨closing, final⟩, hclose, hresult⟩ := except_seq_eq_ok.mp htail
      obtain ⟨front, rfl, hfront⟩ := hnested _ _ _ hfirst
      obtain ⟨used, rfl, hlist⟩ := moreItems_reads hnested _ (.one hfront) _ _ _ hitems
      exact ⟨items, after, closing, final, ⟨front ++ used, by simp, hlist⟩, hclose,
        Except.ok.inj hresult⟩
  obtain ⟨items, after, closing, final, ⟨used, rfl, hlist⟩, hclose, hresult⟩ := hparts
  obtain ⟨rfl, rfl⟩ := Prod.mk.inj hresult
  rw [expect_eq_ok hclose]
  exact ⟨used ++ [⟨.symbol close, closing⟩], by simp, used, rfl, hlist⟩

/-- One postfix operator extends the phrase of its target. -/
theorem postfix?_reads (hnested : Reads nestedP (Derives d .expression))
    {front ls : List Lexeme} {target : RawExpr} (htarget : Derives d .postfixed front target)
    {result : Except SyntaxError (RawExpr × List Lexeme)}
    (hsome : postfix? σ nestedP target ls = some result) {e : RawExpr} {rest : List Lexeme}
    (h : result = .ok (e, rest)) :
    ∃ used, ls = used ++ rest ∧ Derives d .postfixed (front ++ used) e := by
  unfold postfix? at hsome
  split at hsome
  · -- `(`: a call
    rename_i hnext
    obtain ⟨opening, more, rfl⟩ := nextIs_eq_true hnext
    rw [Option.some.injEq] at hsome
    rw [← hsome] at h
    obtain ⟨⟨⟨args, closing⟩, after⟩, hlist, h⟩ := except_seq_eq_ok.mp h
    simp only [Except.ok.injEq, Prod.mk.injEq] at h
    obtain ⟨rfl, rfl⟩ := h
    obtain ⟨_, hused, as, rfl, hargs⟩ := listed_reads .rparen hnested _ _ _ hlist
    simp only [List.drop_succ_cons, List.drop_zero] at hused
    refine ⟨⟨.symbol .lparen, opening⟩ :: as ++ [⟨.symbol .rparen, closing⟩], by simp [hused], ?_⟩
    simpa using Derives.call htarget hargs
  · split at hsome
    · -- `[`: an index
      rename_i hnext
      obtain ⟨opening, more, rfl⟩ := nextIs_eq_true hnext
      rw [Option.some.injEq] at hsome
      rw [← hsome] at h
      obtain ⟨⟨position, after⟩, hposition, h⟩ := except_seq_eq_ok.mp h
      obtain ⟨⟨closing, final⟩, hclose, h⟩ := except_seq_eq_ok.mp h
      simp only [Except.ok.injEq, Prod.mk.injEq] at h
      obtain ⟨rfl, rfl⟩ := h
      obtain ⟨ps, hps, hderiv⟩ := hnested _ _ _ hposition
      simp only [List.drop_succ_cons, List.drop_zero] at hps
      rw [expect_eq_ok hclose] at hps
      refine ⟨⟨.symbol .lbracket, opening⟩ :: ps ++ [⟨.symbol .rbracket, closing⟩],
        by simp [hps], ?_⟩
      simpa using Derives.index htarget hderiv
    · split at hsome
      · -- `.`: a member, which needs a name
        rename_i hnext
        obtain ⟨dot, more, rfl⟩ := nextIs_eq_true hnext
        rw [Option.some.injEq] at hsome
        rw [← hsome] at h
        split at h
        · rename_i name span after heq
          simp only [List.drop_succ_cons, List.drop_zero] at heq
          simp only [Except.ok.injEq, Prod.mk.injEq] at h
          obtain ⟨rfl, rfl⟩ := h
          exact ⟨[⟨.symbol .dot, dot⟩, ⟨.ident name, span⟩], by simp [heq], .member htarget⟩
        · simp [Setting.fail] at h
      · simp at hsome

/-- The loop of postfix operators extends the phrase of its target. -/
theorem postfixedFrom_reads (hnested : Reads nestedP (Derives d .expression)) (fuel : Nat)
    {front : List Lexeme} {target : RawExpr} (htarget : Derives d .postfixed front target) :
    Reads (postfixedFrom σ nestedP fuel target)
      fun used e => Derives d .postfixed (front ++ used) e := by
  induction fuel generalizing front target with
  | zero =>
    intro ls e rest h
    simp only [postfixedFrom] at h
    exact reads_nothing (by simpa using htarget) h
  | succ fuel ih =>
    intro ls e rest h
    simp only [postfixedFrom] at h
    split at h
    · exact reads_nothing (by simpa using htarget) h
    · rename_i result hsome
      obtain ⟨⟨extended, after⟩, hextended, h⟩ := except_seq_eq_ok.mp h
      obtain ⟨one, rfl, hone⟩ := postfix?_reads hnested htarget hsome hextended
      obtain ⟨used, rfl, he⟩ := ih hone _ _ _ h
      exact ⟨one ++ used, by simp, by simpa using he⟩

/-! ## Operands -/

/-- The loop of a dotted name extends the segments before it. -/
theorem dottedName_reads (fuel : Nat) {front : List Lexeme} {name : String}
    (hname : DottedName front name) :
    Reads (dottedName σ fuel name) fun used whole => DottedName (front ++ used) whole := by
  induction fuel generalizing front name with
  | zero =>
    intro ls whole rest h
    simp only [dottedName] at h
    exact reads_nothing (by simpa using hname) h
  | succ fuel ih =>
    intro ls whole rest h
    simp only [dottedName] at h
    split at h
    · rename_i hdot
      obtain ⟨dot, more, rfl⟩ := nextIs_eq_true hdot
      split at h
      · rename_i segment span after heq
        simp only [List.drop_succ_cons, List.drop_zero] at heq
        subst heq
        obtain ⟨used, rfl, hwhole⟩ := ih (.more hname) _ _ _ h
        refine ⟨⟨.symbol .dot, dot⟩ :: ⟨.ident segment, span⟩ :: used, by simp, ?_⟩
        simpa using hwhole
      · simp [Setting.fail] at h
    · exact reads_nothing (by simpa using hname) h

theorem typeOfOperand_reads (keyword : Span) :
    Reads (typeOfOperand σ keyword.start) fun used e =>
      Derives d .atom (⟨.typeOf, keyword⟩ :: used) e := by
  intro ls e rest h
  obtain ⟨⟨opening, after⟩, hopen, hbody⟩ := except_seq_eq_ok.mp h
  rw [expect_eq_ok hopen]
  dsimp only at hbody
  split at hbody
  · rename_i first span more
    obtain ⟨⟨name, final⟩, hname, htail⟩ := except_seq_eq_ok.mp hbody
    obtain ⟨⟨closing, last⟩, hclose, hresult⟩ := except_seq_eq_ok.mp htail
    obtain ⟨rfl, rfl⟩ := Prod.mk.inj (Except.ok.inj hresult)
    obtain ⟨used, rfl, hdotted⟩ := dottedName_reads _ (@DottedName.one first span) _ _ _ hname
    have hfinal : final = ⟨.symbol .rparen, closing⟩ :: last := expect_eq_ok hclose
    subst hfinal
    refine ⟨⟨.symbol .lparen, opening⟩ :: ⟨.ident first, span⟩ :: used ++
      [⟨.symbol .rparen, closing⟩], by simp, ?_⟩
    simpa using Derives.typeOf hdotted
  · simp [Setting.fail] at hbody

theorem newArray_reads (hnested : Reads nestedP (Derives d .expression)) (keyword : Span) :
    Reads (newArray σ nestedP keyword.start) fun used e =>
      Derives d .atom (⟨.new, keyword⟩ :: used) e := by
  intro ls e rest h
  unfold newArray at h
  split at h
  · rename_i hnext
    rw [Bool.and_eq_true] at hnext
    obtain ⟨left, more, rfl⟩ := nextIs_eq_true hnext.1
    obtain ⟨right, inside, heq⟩ := nextIs_eq_true hnext.2
    simp only [List.drop_succ_cons, List.drop_zero] at heq
    subst heq
    obtain ⟨⟨opening, after⟩, hopen, hbody⟩ := except_seq_eq_ok.mp h
    obtain ⟨⟨⟨items, closing⟩, final⟩, hlist, hresult⟩ := except_seq_eq_ok.mp hbody
    obtain ⟨rfl, rfl⟩ := Prod.mk.inj (Except.ok.inj hresult)
    obtain ⟨_, rfl, ls, rfl, hitems⟩ := listed_reads .rbrace hnested _ _ _ hlist
    have hinside := expect_eq_ok hopen
    simp only [List.drop_succ_cons, List.drop_zero] at hinside
    subst hinside
    refine ⟨⟨.symbol .lbracket, left⟩ :: ⟨.symbol .rbracket, right⟩ ::
      ⟨.symbol .lbrace, opening⟩ :: ls ++ [⟨.symbol .rbrace, closing⟩], by simp, ?_⟩
    simpa using Derives.newArray hitems
  · simp at h

theorem atom_reads (hnested : Reads nestedP (Derives d .expression)) :
    Reads (atom σ nestedP) (Derives d .atom) := by
  intro ls e rest h
  unfold atom at h
  split at h
  · simp [Setting.fail] at h
  rename_i token span more
  split at h
  case h_1 value =>
    -- a literal
    obtain ⟨rfl, rfl⟩ := Prod.mk.inj (Except.ok.inj h)
    exact ⟨[⟨.literal value, span⟩], rfl, .literal⟩
  case h_2 name =>
    -- a name
    obtain ⟨rfl, rfl⟩ := Prod.mk.inj (Except.ok.inj h)
    exact ⟨[⟨.ident name, span⟩], rfl, .ident⟩
  case h_3 =>
    -- `typeof`
    obtain ⟨used, rfl, he⟩ := typeOfOperand_reads span _ _ _ h
    exact ⟨⟨.typeOf, span⟩ :: used, rfl, he⟩
  case h_4 =>
    -- `new`
    obtain ⟨used, rfl, he⟩ := newArray_reads hnested span _ _ _ h
    exact ⟨⟨.new, span⟩ :: used, rfl, he⟩
  case h_6 =>
    -- `(`: the tree is that of the expression inside
    obtain ⟨⟨inside, after⟩, hinside, htail⟩ := except_seq_eq_ok.mp h
    obtain ⟨⟨closing, final⟩, hclose, hresult⟩ := except_seq_eq_ok.mp htail
    obtain ⟨rfl, rfl⟩ := Prod.mk.inj (Except.ok.inj hresult)
    obtain ⟨used, rfl, he⟩ := hnested _ _ _ hinside
    rw [expect_eq_ok hclose]
    exact ⟨⟨.symbol .lparen, span⟩ :: used ++ [⟨.symbol .rparen, closing⟩], by simp, .parens he⟩
  case h_7 =>
    -- `[`
    obtain ⟨⟨⟨items, closing⟩, final⟩, hlist, hresult⟩ := except_seq_eq_ok.mp h
    obtain ⟨rfl, rfl⟩ := Prod.mk.inj (Except.ok.inj hresult)
    obtain ⟨_, rfl, ls, rfl, hitems⟩ := listed_reads .rbracket hnested _ _ _ hlist
    exact ⟨⟨.symbol .lbracket, span⟩ :: ls ++ [⟨.symbol .rbracket, closing⟩], by simp,
      .array hitems⟩
  -- no other token starts an operand
  all_goals simp at h

/-- The operand of a prefix operator uses up one level. -/
theorem unary_reads (hnested : Reads nestedP (Derives d .expression))
    (hoperand : Reads operandP fun used e => ∃ k, d = k + 1 ∧ Derives k .operand used e) :
    Reads (unary σ nestedP operandP) (Derives d .operand) := by
  -- shared by two branches: a first lexeme that is no symbol, and a symbol that is no prefix
  have hplain : ∀ ls e rest,
      (atom σ nestedP ls >>= fun start =>
        postfixedFrom σ nestedP start.2.length start.1 start.2) = .ok (e, rest) →
      ∃ used, ls = used ++ rest ∧ Derives d .operand used e := by
    intro ls e rest h
    obtain ⟨⟨target, after⟩, htarget, hloop⟩ := except_seq_eq_ok.mp h
    obtain ⟨front, rfl, hfront⟩ := atom_reads hnested _ _ _ htarget
    obtain ⟨used, rfl, he⟩ := postfixedFrom_reads hnested _ (.atomic hfront) _ _ _ hloop
    exact ⟨front ++ used, by simp, .unprefixed he⟩
  intro ls e rest h
  unfold unary at h
  split at h
  · rename_i s span more
    split at h
    · rename_i op hop
      obtain ⟨⟨inner, after⟩, hinner, hresult⟩ := except_seq_eq_ok.mp h
      obtain ⟨rfl, rfl⟩ := Prod.mk.inj (Except.ok.inj hresult)
      obtain ⟨used, rfl, k, rfl, he⟩ := hoperand _ _ _ hinner
      exact ⟨⟨.symbol s, span⟩ :: used, rfl, .unary (prefixOperator?_eq_some.mp hop) he⟩
    · exact hplain _ _ _ h
  · exact hplain _ _ _ h

/-! ## Expressions -/

theorem conditional_reads (hnested : Reads nestedP (Derives d .expression))
    (hoperand : Reads operandP fun used e => ∃ k, d = k + 1 ∧ Derives k .operand used e) :
    Reads (conditional σ nestedP operandP) (Derives d .conditional) := by
  intro ls e rest h
  unfold conditional at h
  obtain ⟨⟨cond, after⟩, hcond, htail⟩ := except_seq_eq_ok.mp h
  obtain ⟨front, rfl, hfront⟩ := infixes_reads (unary_reads hnested hoperand) _ _ _ hcond
  dsimp only at htail
  split at htail
  · rename_i hnext
    obtain ⟨question, more, rfl⟩ := nextIs_eq_true hnext
    obtain ⟨⟨onTrue, afterTrue⟩, htrue, hrest⟩ := except_seq_eq_ok.mp htail
    obtain ⟨⟨colon, afterColon⟩, hcolon, hlast⟩ := except_seq_eq_ok.mp hrest
    obtain ⟨⟨onFalse, final⟩, hfalse, hresult⟩ := except_seq_eq_ok.mp hlast
    obtain ⟨rfl, rfl⟩ := Prod.mk.inj (Except.ok.inj hresult)
    obtain ⟨ts, hts, ht⟩ := hnested _ _ _ htrue
    obtain ⟨fs, hfs, hf⟩ := hnested _ _ _ hfalse
    have hafter : afterTrue = ⟨.symbol .colon, colon⟩ :: afterColon := expect_eq_ok hcolon
    simp only [List.drop_succ_cons, List.drop_zero] at hts
    dsimp only at hfs
    rw [hafter, hfs] at hts
    refine ⟨front ++ ⟨.symbol .question, question⟩ :: ts ++ ⟨.symbol .colon, colon⟩ :: fs,
      by simp [hts], .conditional hfront ht hf⟩
  · obtain ⟨rfl, rfl⟩ := Prod.mk.inj (Except.ok.inj htail)
    exact ⟨front, rfl, .unconditional hfront⟩

theorem expression_reads (hnested : Reads nestedP (Derives d .expression))
    (hoperand : Reads operandP fun used e => ∃ k, d = k + 1 ∧ Derives k .operand used e) :
    Reads (expression σ nestedP operandP) (Derives (d + 1) .expression) := by
  intro ls e rest h
  unfold expression at h
  split at h
  · rename_i start param after hhead
    obtain ⟨⟨body, final⟩, hbody, hresult⟩ := except_seq_eq_ok.mp h
    obtain ⟨rfl, rfl⟩ := Prod.mk.inj (Except.ok.inj hresult)
    obtain ⟨used, rfl, hderiv⟩ := hnested _ _ _ hbody
    unfold lambdaHead? at hhead
    split at hhead
    · rename_i name span arrow more
      simp only [Option.some.injEq, Prod.mk.injEq] at hhead
      obtain ⟨rfl, rfl, rfl⟩ := hhead
      exact ⟨⟨.ident name, span⟩ :: ⟨.symbol .arrow, arrow⟩ :: used, rfl, .lambda hderiv⟩
    · rename_i opening name span closing arrow more
      simp only [Option.some.injEq, Prod.mk.injEq] at hhead
      obtain ⟨rfl, rfl, rfl⟩ := hhead
      exact ⟨⟨.symbol .lparen, opening⟩ :: ⟨.ident name, span⟩ :: ⟨.symbol .rparen, closing⟩ ::
        ⟨.symbol .arrow, arrow⟩ :: used, rfl, .parenLambda hderiv⟩
    · simp at hhead
  · obtain ⟨used, rfl, he⟩ := conditional_reads hnested hoperand _ _ _ h
    exact ⟨used, rfl, .plain he⟩

/-- The two recursive productions, by induction on the depth that is left. -/
theorem nested_operand_reads (σ : Setting) (d : Nat) :
    Reads (nested σ d) (Derives d .expression) ∧
      Reads (operand σ d) fun used e => ∃ k, d = k + 1 ∧ Derives k .operand used e := by
  induction d with
  | zero =>
    refine ⟨fun ls e rest h => ?_, fun ls e rest h => ?_⟩
    · simp [nested, Setting.fail] at h
    · simp [operand, Setting.fail] at h
  | succ d ih =>
    obtain ⟨hnested, hoperand⟩ := ih
    refine ⟨fun ls e rest h => ?_, fun ls e rest h => ?_⟩
    · exact expression_reads hnested hoperand _ _ _ (by simpa [nested] using h)
    · obtain ⟨used, rfl, he⟩ := unary_reads hnested hoperand ls e rest (by simpa [operand] using h)
      exact ⟨used, rfl, d, rfl, he⟩

/-! ## Whole inputs -/

/-- An input without errors is a phrase from its first lexeme to the last before the semicolons
at its end. -/
theorem derives_of_parseLexemes {maxDepth : Nat} {input : List Lexeme} {tree : Expr Mark}
    (h : parseLexemes maxDepth input = .complete tree) :
    ∃ e, tree = e.number ∧
      Derives maxDepth .expression (dropTrailingSemicolons input) e := by
  rw [parseLexemes_eq] at h
  split at h
  · simp at h
  split at h
  · simp at h
  · simp at h
  · rename_i e hnested
    split at h
    · simp at h
    · obtain ⟨used, hused, he⟩ := (nested_operand_reads _ maxDepth).1 _ _ _ hnested
      rw [List.append_nil] at hused
      refine ⟨e, (Parsed.complete.inj h).symm, ?_⟩
      rwa [hused]

end GatedPredicate.Syntax
