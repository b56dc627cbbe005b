import GatedPredicate.Proofs.Syntax.Soundness

/-!
# What is derived is read

The converse of soundness: every phrase of the grammar is taken by the parser of its form, as a
whole and with its own tree. A parser takes as much as it can, so this needs to know what follows:
nothing that would make the phrase longer. Loops are the delicate part. Their phrases grow to the
left, so what is shown by induction on a phrase is that the loop comes past its end, with at least
as much fuel left as there are lexemes.

- `Form.begins`, `Form.extendedBy`: how a phrase begins and what makes it longer
- `Completes`: a parser takes all phrases of a form
- `lambdaHead?_eq_none`: no other expression looks like the head of a lambda
- `nested_operand_complete`: the two recursive productions
-/

namespace GatedPredicate.Syntax

variable {σ : Setting} {d : Nat} {inner nestedP operandP : Reader RawExpr}

/-! ## How a phrase begins -/

/-- Whether an operand without a prefix operator may begin with the token. -/
def Token.opensOperand : Token → Bool
  | .literal _ | .ident _ | .typeOf | .new => true
  | .symbol s => s == .lparen || s == .lbracket
  | .reserved _ => false

def Token.isPrefix : Token → Bool
  | .symbol s => prefixOperators.any fun x => x.1 == s
  | _ => false

/-- Whether phrases of the form may begin with a prefix operator. -/
def Form.mayBePrefixed : Form → Bool
  | .postfixed | .atom => false
  | _ => true

/-- Whether a phrase of the form may begin with the token. -/
def Form.begins (form : Form) (t : Token) : Bool :=
  t.opensOperand || (form.mayBePrefixed && t.isPrefix)

theorem Form.begins_of_opensOperand {form : Form} {t : Token} (h : t.opensOperand = true) :
    form.begins t = true := by
  simp [Form.begins, h]

/-- Every phrase begins with a token that its form allows. -/
theorem Derives.begins {d : Nat} {form : Form} {ls : List Lexeme} {e : RawExpr}
    (h : Derives d form ls e) : ∃ l rest, ls = l :: rest ∧ form.begins l.token = true := by
  match h with
  | .lambda _ | .parenLambda _ => exact ⟨_, _, rfl, rfl⟩
  | .literal | .ident | .typeOf _ | .newArray _ | .array _ | .parens _ => exact ⟨_, _, rfl, rfl⟩
  -- a phrase that starts with another phrase begins as that one does
  | .conditional he _ _ | .binary he _ _ | .call he _ | .index he _ | .member he =>
    obtain ⟨l, rest, rfl, hl⟩ := he.begins
    exact ⟨l, _, rfl, hl⟩
  | .plain he | .unconditional he | .tighter he | .single he | .atomic he =>
    obtain ⟨l, rest, rfl, hl⟩ := he.begins
    exact ⟨l, rest, rfl, hl⟩
  | .unprefixed he =>
    obtain ⟨l, rest, rfl, hl⟩ := he.begins
    have hoperand : l.token.opensOperand = true := by
      simpa [Form.begins, Form.mayBePrefixed] using hl
    exact ⟨l, rest, rfl, Form.begins_of_opensOperand hoperand⟩
  | @Derives.unary _ _ _ s op _ hop _ =>
    have hany : (prefixOperators.any fun x => x.1 == s) = true :=
      List.any_eq_true.mpr ⟨(s, op), hop, beq_self_eq_true s⟩
    have hprefix : Form.operand.begins (.symbol s) = true := by
      simp [Form.begins, Form.mayBePrefixed, Token.isPrefix, hany]
    exact ⟨_, _, rfl, hprefix⟩

/-! ## What follows a phrase -/

/-- Whether the symbol is the start of a postfix operator. -/
def Symbol.opensPostfix (s : Symbol) : Bool :=
  s == .lparen || s == .lbracket || s == .dot

/-- Whether the symbol is an operator of the level. -/
def Symbol.isOperator (level : Level) (s : Symbol) : Bool :=
  level.any fun x => x.1 == s

theorem isOperator_of_mem {level : Level} {s : Symbol} {op : BinaryOp} (h : (s, op) ∈ level) :
    s.isOperator level = true :=
  List.any_eq_true.mpr ⟨(s, op), h, beq_self_eq_true s⟩

/-- Whether a phrase with operators of the given levels goes on with the symbol, or is refused for
it. -/
def Symbol.extendsInfixes (levels : List Level) (s : Symbol) : Bool :=
  s.opensPostfix || s == .assign || levels.any s.isOperator

/-- Whether a phrase of the form is taken for a longer one, or refused, if the symbol follows. -/
def Form.extendedBy : Form → Symbol → Bool
  | .atom, _ => false
  | .operand, s | .postfixed, s => s.opensPostfix
  | .infixes levels, s => s.extendsInfixes levels
  -- a single name at the end, also in parentheses, may be the head of a lambda
  | .expression, s | .conditional, s =>
    s == .arrow || s == .question || s.extendsInfixes operatorLevels

/-- Nothing follows that extends a phrase of the form. -/
def Form.EndsBefore (form : Form) (rest : List Lexeme) : Prop :=
  ∀ s, nextIs s rest = true → form.extendedBy s = false

namespace Form.EndsBefore

variable {form : Form} {rest : List Lexeme} {s : Symbol}

theorem nil : form.EndsBefore [] := nofun

theorem cons {span : Span} (h : form.extendedBy s = false) :
    form.EndsBefore (⟨.symbol s, span⟩ :: rest) := by
  intro t ht
  have hst : s = t := by simpa [nextIs, Token.isSymbol] using ht
  rwa [← hst]

/-- What extends a phrase does not follow it. -/
theorem nextIs_eq_false (h : form.EndsBefore rest) (hs : form.extendedBy s = true) :
    nextIs s rest = false := by
  rw [Bool.eq_false_iff]
  intro hnext
  rw [h s hnext] at hs
  cases hs

/-- What does not extend a phrase does not extend it as part of a tighter form. -/
theorem tighten {tight : Form} (h : form.EndsBefore rest)
    (hle : ∀ s, form.extendedBy s = false → tight.extendedBy s = false) :
    tight.EndsBefore rest :=
  fun s hs => hle s (h s hs)

theorem infixes (h : Form.conditional.EndsBefore rest) :
    (Form.infixes operatorLevels).EndsBefore rest :=
  h.tighten fun s hs => by simp_all [Form.extendedBy]

theorem tail {level : Level} {levels : List Level}
    (h : (Form.infixes (level :: levels)).EndsBefore rest) :
    (Form.infixes levels).EndsBefore rest :=
  h.tighten fun s hs => by simp_all [Form.extendedBy, Symbol.extendsInfixes]

theorem operand (h : (Form.infixes []).EndsBefore rest) : Form.operand.EndsBefore rest :=
  h.tighten fun s hs => by simp_all [Form.extendedBy, Symbol.extendsInfixes]

/-- No operator of a level follows a phrase of that level. -/
theorem nextOperator?_eq_none {table : OperatorTable} {level : Level} {levels : List Level}
    (hsame : SameOperators table level) (h : (Form.infixes (level :: levels)).EndsBefore rest) :
    nextOperator? table rest = none := by
  by_contra hsome
  obtain ⟨op, hop⟩ := Option.ne_none_iff_exists'.mp hsome
  obtain ⟨s, span, more, rfl, hs⟩ := nextOperator?_eq_some hop
  have hoperator : s.isOperator level = true := isOperator_of_mem ((hsame s op).mp hs)
  have hnext : nextIs s (⟨.symbol s, span⟩ :: more) = false :=
    h.nextIs_eq_false (by simp [Form.extendedBy, Symbol.extendsInfixes, hoperator])
  simp [nextIs, Token.isSymbol] at hnext

end Form.EndsBefore

/-- A parser takes every phrase of a form before something that does not extend it. -/
def Completes (p : Reader RawExpr) (d : Nat) (form : Form) : Prop :=
  ∀ ls e rest, Derives d form ls e → form.EndsBefore rest → p (ls ++ rest) = .ok (e, rest)

/-- A loop that goes on has one round less before it and no more lexemes than rounds. -/
theorem exists_round {fuel : Nat} {longer : List Lexeme} (rest : List Lexeme)
    (h : longer.length ≤ fuel) (hlt : rest.length < longer.length) :
    ∃ less, fuel = less + 1 ∧ rest.length ≤ less :=
  ⟨fuel - 1, by omega, by omega⟩

/-! ## Infix operators -/

/-- No operator of a level goes on with a phrase of the tighter levels. -/
def LevelsApart : List Level → Prop
  | [] => True
  | level :: levels => (∀ x ∈ level, x.1.extendsInfixes levels = false) ∧ LevelsApart levels

/-- No symbol is an operator of two levels. -/
theorem operatorLevels_apart : LevelsApart operatorLevels := by
  simp only [operatorLevels, LevelsApart, and_true]
  decide

/-- The loop of a level comes past the end of each phrase of that level. -/
theorem chain_past {d : Nat} {table : OperatorTable} {level : Level} {levels : List Level}
    (hsame : SameOperators table level) (hapart : LevelsApart (level :: levels))
    (hinner : Completes inner d (.infixes levels)) {ls : List Lexeme} {e : RawExpr}
    (h : Derives d (.infixes (level :: levels)) ls e) (rest : List Lexeme)
    (hrest : (Form.infixes levels).EndsBefore rest) :
    ∃ fuel, rest.length ≤ fuel ∧
      chain table inner (ls ++ rest) = chainFrom table inner fuel e rest := by
  match h with
  | .tighter he =>
    refine ⟨rest.length, Nat.le_refl _, ?_⟩
    unfold chain
    rw [hinner _ _ _ he hrest, except_ok_seq]
  | @Derives.binary _ left right l r _ _ s op span hleft hop hright =>
    -- the loop stands before the operator, which leaves fuel for at least one more round
    have hs : (Form.infixes levels).extendedBy s = false := hapart.1 (s, op) hop
    obtain ⟨fuel, hfuel, hloop⟩ := chain_past hsame hapart hinner hleft
      (⟨.symbol s, span⟩ :: right ++ rest) (.cons hs)
    obtain ⟨less, rfl, hless⟩ := exists_round rest hfuel (by grind)
    have hop' : table s = some op := (hsame s op).mpr hop
    refine ⟨less, hless, ?_⟩
    rw [List.append_assoc, hloop]
    simp only [chainFrom, nextOperator?, List.cons_append, hop', List.drop_succ_cons,
      List.drop_zero, hinner _ _ _ hright hrest, except_ok_seq]

theorem chain_complete {d : Nat} {table : OperatorTable} {level : Level} {levels : List Level}
    (hsame : SameOperators table level) (hapart : LevelsApart (level :: levels))
    (hinner : Completes inner d (.infixes levels)) :
    Completes (chain table inner) d (.infixes (level :: levels)) := by
  intro ls e rest h hrest
  obtain ⟨fuel, -, hloop⟩ := chain_past hsame hapart hinner h rest hrest.tail
  rw [hloop]
  cases fuel with
  | zero => rfl
  | succ fuel => simp only [chainFrom, hrest.nextOperator?_eq_none hsame]

/-- The level of `==` refuses a `=`, which never follows a phrase that has ended. -/
theorem equalities_complete {d : Nat} {levels : List Level}
    (hlevel : Completes (chain equalityTable inner) d (.infixes levels)) :
    Completes (equalities σ inner) d (.infixes levels) := by
  intro ls e rest h hrest
  have hassign : nextIs .assign rest = false :=
    hrest.nextIs_eq_false (by simp [Form.extendedBy, Symbol.extendsInfixes])
  unfold equalities
  rw [hlevel _ _ _ h hrest]
  simp [bind, Except.bind, hassign]

theorem infixes_complete {d : Nat} (hoperand : Completes operandP d .operand) :
    Completes (infixes σ operandP) d (.infixes operatorLevels) := by
  have hsingle : Completes operandP d (.infixes []) := by
    intro ls e rest h hrest
    cases h with
    | single he => exact hoperand _ _ _ he hrest.operand
  exact infixes_of_links (fun p levels => LevelsApart levels → Completes p d (.infixes levels))
    (fun hsame hinner hapart => chain_complete hsame hapart (hinner hapart.2))
    (fun hlevel hapart => equalities_complete (hlevel hapart)) (fun _ => hsingle)
    operatorLevels_apart

/-! ## Lists -/

/-- What closes a list neither begins an item nor goes on after one. -/
structure Symbol.Closes (s : Symbol) : Prop where
  begins : Form.expression.begins (.symbol s) = false
  extendedBy : Form.expression.extendedBy s = false
  ne_comma : s ≠ .comma

theorem closes_rparen : Symbol.Closes .rparen := ⟨rfl, rfl, by decide⟩

theorem closes_rbracket : Symbol.Closes .rbracket := ⟨rfl, rfl, by decide⟩

theorem closes_rbrace : Symbol.Closes .rbrace := ⟨rfl, rfl, by decide⟩

theorem nextIs_symbol (s t : Symbol) (span : Span) (rest : List Lexeme) :
    nextIs s (⟨.symbol t, span⟩ :: rest) = (t == s) := rfl

theorem expect_symbol (s : Symbol) (span : Span) (rest : List Lexeme) :
    σ.expect s (⟨.symbol s, span⟩ :: rest) = .ok (span, rest) := by
  simp [Setting.expect, Token.isSymbol]

/-- No item is taken for the end of its list. -/
theorem Derives.nextIs_close {d : Nat} {ls : List Lexeme} {e : RawExpr} {close : Symbol}
    (h : Derives d .expression ls e) (hclose : close.Closes) (rest : List Lexeme) :
    nextIs close (ls ++ rest) = false := by
  obtain ⟨l, more, rfl, hl⟩ := h.begins
  rw [Bool.eq_false_iff]
  intro hnext
  obtain ⟨span, tail, heq⟩ := nextIs_eq_true hnext
  obtain ⟨rfl, -⟩ := List.cons.inj heq
  rw [hclose.begins] at hl
  cases hl

/-- One or more items, as far as the loop takes them. -/
def someItems (σ : Setting) (nestedP : Reader RawExpr) (close : Symbol) :
    Reader (List RawExpr) := fun ls => do
  let (first, rest) ← nestedP ls
  moreItems σ nestedP close rest.length [first] rest

/-- One round of the loop takes a comma and the item after it. -/
theorem moreItems_round {close : Symbol} {fuel : Nat} {items : List RawExpr} {item : RawExpr}
    {comma : Span} {ls rest : List Lexeme} (hnext : nextIs close ls = false)
    (hitem : nestedP ls = .ok (item, rest)) :
    moreItems σ nestedP close (fuel + 1) items (⟨.symbol .comma, comma⟩ :: ls) =
      moreItems σ nestedP close fuel (items ++ [item]) rest := by
  simp only [moreItems, nextIs_symbol, beq_self_eq_true, if_true, List.drop_succ_cons,
    List.drop_zero, hnext, Bool.false_eq_true, if_false, hitem, except_ok_seq]

/-- The loop of a list comes past each item. -/
theorem someItems_past {d : Nat} {close : Symbol} (hclose : close.Closes)
    (hnested : Completes nestedP d .expression) {ls : List Lexeme} {items : List RawExpr}
    (h : DerivesItems d ls items) (rest : List Lexeme)
    (hrest : Form.expression.EndsBefore rest) :
    nextIs close (ls ++ rest) = false ∧ ∃ fuel, rest.length ≤ fuel ∧
      someItems σ nestedP close (ls ++ rest) = moreItems σ nestedP close fuel items rest := by
  match h with
  | .one he =>
    refine ⟨he.nextIs_close hclose rest, rest.length, Nat.le_refl _, ?_⟩
    unfold someItems
    rw [hnested _ _ _ he hrest, except_ok_seq]
  | @DerivesItems.more _ front last items item comma hitems hitem =>
    obtain ⟨hnext, fuel, hfuel, hloop⟩ := someItems_past hclose hnested hitems
      (⟨.symbol .comma, comma⟩ :: last ++ rest) (.cons rfl)
    obtain ⟨less, rfl, hless⟩ := exists_round rest hfuel (by grind)
    refine ⟨by rwa [List.append_assoc], less, hless, ?_⟩
    have hitem' : nextIs close (last ++ rest) = false := hitem.nextIs_close hclose rest
    rw [List.append_assoc, hloop]
    exact moreItems_round hitem' (hnested _ _ _ hitem hrest)

/-- A list with items ends where the loop stands before the symbol that closes it. -/
theorem listed_of_someItems {close : Symbol} {ls rest : List Lexeme} {items : List RawExpr}
    {span : Span} (hnext : nextIs close ls = false)
    (h : someItems σ nestedP close ls = .ok (items, ⟨.symbol close, span⟩ :: rest)) :
    listed σ nestedP close ls = .ok ((items, span), rest) := by
  obtain ⟨⟨first, after⟩, hfirst, hmore⟩ := except_seq_eq_ok.1 h
  dsimp only at hmore
  simp only [listed, hnext, Bool.false_eq_true, if_false, hfirst, hmore, except_ok_seq,
    expect_symbol]

theorem listed_complete {d : Nat} {close : Symbol} (hclose : close.Closes)
    (hnested : Completes nestedP d .expression) {ls : List Lexeme} {items : List RawExpr}
    (h : DerivesList d ls items) (span : Span) (rest : List Lexeme) :
    listed σ nestedP close (ls ++ ⟨.symbol close, span⟩ :: rest) = .ok ((items, span), rest) := by
  have hcomma : (close == Symbol.comma) = false := by simpa using hclose.ne_comma
  cases h with
  | nil =>
    simp only [listed, List.nil_append, nextIs_symbol, beq_self_eq_true, if_true, except_ok_seq,
      expect_symbol]
  | items hitems =>
    obtain ⟨hnext, fuel, -, hloop⟩ := someItems_past (σ := σ) hclose hnested hitems
      (⟨.symbol close, span⟩ :: rest) (.cons hclose.extendedBy)
    refine listed_of_someItems hnext (hloop.trans ?_)
    -- no comma, so the loop stops
    cases fuel with
    | zero => rfl
    | succ fuel => simp [moreItems, nextIs_symbol, hcomma]
  | @trailing _ front items comma hitems =>
    obtain ⟨hnext, fuel, hfuel, hloop⟩ := someItems_past (σ := σ) hclose hnested hitems
      (⟨.symbol .comma, comma⟩ :: ⟨.symbol close, span⟩ :: rest) (.cons rfl)
    rw [List.append_assoc]
    refine listed_of_someItems hnext (hloop.trans ?_)
    -- the loop sees the comma and what closes the list behind it
    cases fuel with
    | zero => simp at hfuel
    | succ fuel => simp [moreItems, nextIs_symbol]

/-! ## Atoms -/

/-- The loop of a dotted name comes past each segment. -/
theorem dottedName_past {ls : List Lexeme} {name : String} (h : DottedName ls name) :
    ∃ first span more, ls = ⟨.ident first, span⟩ :: more ∧
      ∀ rest, ∃ fuel, rest.length ≤ fuel ∧
        dottedName σ (more ++ rest).length first (more ++ rest) = dottedName σ fuel name rest := by
  induction h with
  | @one name span => exact ⟨name, span, [], rfl, fun rest => ⟨rest.length, Nat.le_refl _, rfl⟩⟩
  | @more ls name segment dot span _ ih =>
    obtain ⟨first, start, more, rfl, hloop⟩ := ih
    refine ⟨first, start, more ++ [⟨.symbol .dot, dot⟩, ⟨.ident segment, span⟩], rfl,
      fun rest => ?_⟩
    obtain ⟨fuel, hfuel, hdotted⟩ := hloop (⟨.symbol .dot, dot⟩ :: ⟨.ident segment, span⟩ :: rest)
    obtain ⟨less, rfl, hless⟩ := exists_round rest hfuel (by grind)
    refine ⟨less, hless, ?_⟩
    rw [List.append_assoc]
    exact hdotted.trans rfl

theorem typeOfOperand_complete {ls : List Lexeme} {name : String} (h : DottedName ls name)
    (start : Nat) (opening closing : Span) (rest : List Lexeme) :
    typeOfOperand σ start
        (⟨.symbol .lparen, opening⟩ :: ls ++ ⟨.symbol .rparen, closing⟩ :: rest) =
      .ok (.typeOf ⟨start, closing.stop⟩ name, rest) := by
  obtain ⟨first, span, more, rfl, hloop⟩ := dottedName_past (σ := σ) h
  obtain ⟨fuel, -, hdotted⟩ := hloop (⟨.symbol .rparen, closing⟩ :: rest)
  have hend : dottedName σ fuel name (⟨.symbol .rparen, closing⟩ :: rest) =
      .ok (name, ⟨.symbol .rparen, closing⟩ :: rest) := by
    cases fuel <;> rfl
  simp only [typeOfOperand, List.cons_append, expect_symbol, except_ok_seq, hdotted, hend]

theorem newArray_complete {d : Nat} (hnested : Completes nestedP d .expression)
    {ls : List Lexeme} {items : List RawExpr} (h : DerivesList d ls items) (start : Nat)
    (left right opening closing : Span) (rest : List Lexeme) :
    newArray σ nestedP start (⟨.symbol .lbracket, left⟩ :: ⟨.symbol .rbracket, right⟩ ::
        ⟨.symbol .lbrace, opening⟩ :: ls ++ ⟨.symbol .rbrace, closing⟩ :: rest) =
      .ok (.array ⟨start, closing.stop⟩ items, rest) := by
  have hlist := listed_complete (σ := σ) closes_rbrace hnested h closing rest
  simp only [newArray, List.cons_append, nextIs_symbol, beq_self_eq_true, List.drop_succ_cons,
    List.drop_zero, Bool.and_self, if_true, expect_symbol, except_ok_seq, hlist]

theorem atom_complete {d : Nat} (hnested : Completes nestedP d .expression) :
    Completes (atom σ nestedP) d .atom := by
  intro ls e rest h _
  cases h with
  | literal => rfl
  | ident => rfl
  | @typeOf _ ls name keyword opening closing hname =>
    have htype := typeOfOperand_complete (σ := σ) hname keyword.start opening closing rest
    simpa [atom] using htype
  | @newArray _ ls items keyword opening closing left right hitems =>
    have hnew := newArray_complete (σ := σ) hnested hitems keyword.start left right opening
      closing rest
    simpa [atom] using hnew
  | @array _ ls items opening closing hitems =>
    have hlist := listed_complete (σ := σ) closes_rbracket hnested hitems closing rest
    simp only [atom, List.cons_append, List.append_assoc, List.nil_append, hlist, except_ok_seq]
  | @parens _ ls _ opening closing he =>
    have hinside := hnested _ _ (⟨.symbol .rparen, closing⟩ :: rest) he (.cons rfl)
    simp only [atom, List.cons_append, List.append_assoc, List.nil_append, hinside, except_ok_seq,
      expect_symbol]

/-! ## Operands -/

/-- An atom with its postfix operators, as far as the loop takes them. -/
def postfixes (σ : Setting) (nestedP : Reader RawExpr) : Reader RawExpr := fun ls => do
  let (target, rest) ← atom σ nestedP ls
  postfixedFrom σ nestedP rest.length target rest

theorem postfix?_eq_none {rest : List Lexeme} (h : Form.operand.EndsBefore rest)
    (target : RawExpr) : postfix? σ nestedP target rest = none := by
  have hparen : nextIs .lparen rest = false := h.nextIs_eq_false rfl
  have hbracket : nextIs .lbracket rest = false := h.nextIs_eq_false rfl
  have hdot : nextIs .dot rest = false := h.nextIs_eq_false rfl
  simp [postfix?, hparen, hbracket, hdot]

/-- The loop of postfix operators comes past each of them. -/
theorem postfixes_past {d : Nat} (hnested : Completes nestedP d .expression) {ls : List Lexeme}
    {e : RawExpr} (h : Derives d .postfixed ls e) (rest : List Lexeme) :
    ∃ fuel, rest.length ≤ fuel ∧
      postfixes σ nestedP (ls ++ rest) = postfixedFrom σ nestedP fuel e rest := by
  match h with
  | .atomic he =>
    refine ⟨rest.length, Nat.le_refl _, ?_⟩
    unfold postfixes
    rw [atom_complete hnested _ _ _ he fun _ _ => rfl, except_ok_seq]
  | @Derives.call _ front as target args opening closing htarget hargs =>
    have hlist := listed_complete (σ := σ) closes_rparen hnested hargs closing rest
    obtain ⟨fuel, hfuel, hloop⟩ := postfixes_past hnested htarget
      (⟨.symbol .lparen, opening⟩ :: as ++ ⟨.symbol .rparen, closing⟩ :: rest)
    obtain ⟨less, rfl, hless⟩ := exists_round rest hfuel (by grind)
    refine ⟨less, hless, ?_⟩
    simp only [List.append_assoc, List.cons_append, List.nil_append] at hloop ⊢
    rw [hloop]
    simp [postfixedFrom, postfix?, nextIs_symbol, hlist, except_ok_seq]
  | @Derives.index _ front ps target position opening closing htarget hposition =>
    have hinside := hnested _ _ (⟨.symbol .rbracket, closing⟩ :: rest) hposition (.cons rfl)
    obtain ⟨fuel, hfuel, hloop⟩ := postfixes_past hnested htarget
      (⟨.symbol .lbracket, opening⟩ :: ps ++ ⟨.symbol .rbracket, closing⟩ :: rest)
    obtain ⟨less, rfl, hless⟩ := exists_round rest hfuel (by grind)
    refine ⟨less, hless, ?_⟩
    simp only [List.append_assoc, List.cons_append, List.nil_append] at hloop ⊢
    rw [hloop]
    simp [postfixedFrom, postfix?, nextIs_symbol, hinside, except_ok_seq, expect_symbol]
  | @Derives.member _ front target name dot span htarget =>
    obtain ⟨fuel, hfuel, hloop⟩ := postfixes_past hnested htarget
      (⟨.symbol .dot, dot⟩ :: ⟨.ident name, span⟩ :: rest)
    obtain ⟨less, rfl, hless⟩ := exists_round rest hfuel (by grind)
    refine ⟨less, hless, ?_⟩
    simp only [List.append_assoc, List.cons_append, List.nil_append] at hloop ⊢
    rw [hloop]
    simp [postfixedFrom, postfix?, nextIs_symbol, except_ok_seq]

/-- A phrase with a prefix operator is read by the loop of prefix operators, any other by that of
postfix operators. -/
theorem unary_complete {d : Nat} (hnested : Completes nestedP d .expression)
    (hoperand : ∀ k, d = k + 1 → Completes operandP k .operand) :
    Completes (unary σ nestedP operandP) d .operand := by
  intro ls e rest h hrest
  cases h with
  | @unary k ls e s op span hop he =>
    have hop' : prefixOperator? s = some op := prefixOperator?_eq_some.mpr hop
    simp only [GatedPredicate.Syntax.unary, List.cons_append, hop', hoperand k rfl _ _ _ he hrest,
      except_ok_seq]
  | unprefixed he =>
    obtain ⟨fuel, -, hloop⟩ := postfixes_past (σ := σ) hnested he rest
    have hend : postfixedFrom σ nestedP fuel e rest = .ok (e, rest) := by
      cases fuel with
      | zero => rfl
      | succ fuel => simp [postfixedFrom, postfix?_eq_none hrest]
    obtain ⟨⟨token, span⟩, more, rfl, hbegins⟩ := he.begins
    -- the first token decides, and it is no prefix operator
    have hplain : GatedPredicate.Syntax.unary σ nestedP operandP (⟨token, span⟩ :: more ++ rest) =
        postfixes σ nestedP (⟨token, span⟩ :: more ++ rest) := by
      cases token with
      | symbol s =>
        have hopens : s = .lparen ∨ s = .lbracket := by
          simpa [Form.begins, Form.mayBePrefixed, Token.opensOperand] using hbegins
        rcases hopens with rfl | rfl <;> rfl
      | _ => rfl
    rw [hplain, hloop, hend]

/-! ## Expressions -/

theorem conditional_complete {d : Nat} (hnested : Completes nestedP d .expression)
    (hoperand : ∀ k, d = k + 1 → Completes operandP k .operand) :
    Completes (conditional σ nestedP operandP) d .conditional := by
  have hinfixes := infixes_complete (σ := σ) (unary_complete (σ := σ) hnested hoperand)
  intro ls e rest h hrest
  cases h with
  | @conditional _ ls ts fs cond onTrue onFalse question colon hcond htrue hfalse =>
    have hcond' := hinfixes _ _ (⟨.symbol .question, question⟩ :: ts ++
      ⟨.symbol .colon, colon⟩ :: fs ++ rest) hcond (.cons (by decide))
    have htrue' := hnested _ _ (⟨.symbol .colon, colon⟩ :: fs ++ rest) htrue (.cons (by decide))
    have hfalse' := hnested _ _ rest hfalse hrest
    simp only [List.append_assoc, List.cons_append] at hcond' htrue' ⊢
    simp only [conditional, hcond', except_ok_seq, nextIs_symbol, beq_self_eq_true, if_true,
      List.drop_succ_cons, List.drop_zero, htrue', expect_symbol, hfalse']
  | unconditional he =>
    have hquestion : nextIs .question rest = false := hrest.nextIs_eq_false rfl
    simp only [conditional, hinfixes _ _ _ he hrest.infixes, except_ok_seq, hquestion,
      Bool.false_eq_true, if_false]

/-- An atom is a phrase of each looser form but the loosest. -/
theorem Derives.infixes_of_atom {d : Nat} {ls : List Lexeme} {e : RawExpr}
    (h : Derives d .atom ls e) : Derives d (.infixes operatorLevels) ls e :=
  .tighter <| .tighter <| .tighter <| .tighter <| .tighter <| .tighter <| .single <|
    .unprefixed <| .atomic h

/-- The condition with which a conditional expression starts is read up to something other than an
arrow. -/
theorem Derives.reads_condition {d : Nat} {p : Reader RawExpr} {ls rest : List Lexeme} {e : RawExpr}
    (h : Derives d .conditional ls e) (hinfixes : Completes p d (.infixes operatorLevels))
    (hrest : Form.expression.EndsBefore rest) :
    ∃ cond after, p (ls ++ rest) = .ok (cond, after) ∧ nextIs .arrow after = false := by
  cases h with
  | @conditional _ front ts fs cond _ _ question colon hcond =>
    have hfront := hinfixes _ _ (⟨.symbol .question, question⟩ :: ts ++
      ⟨.symbol .colon, colon⟩ :: fs ++ rest) hcond (.cons (by decide))
    exact ⟨cond, _, by simpa using hfront, rfl⟩
  | unconditional he => exact ⟨e, rest, hinfixes _ _ _ he hrest.infixes, hrest.nextIs_eq_false rfl⟩

/-- Only a lambda looks like one. -/
theorem lambdaHead?_eq_none {d : Nat} {ls rest : List Lexeme} {e : RawExpr}
    (hinfixes : Completes (infixes σ (unary σ (nested σ d) (operand σ d))) d
      (.infixes operatorLevels))
    (h : Derives d .conditional ls e) (hrest : Form.expression.EndsBefore rest) :
    lambdaHead? (ls ++ rest) = none := by
  obtain ⟨cond, after, hcond, hafter⟩ := h.reads_condition hinfixes hrest
  -- a name before an arrow, also in parentheses, is read as the condition
  have hname : ∀ head x arrow tail, Derives d .atom head x →
      ls ++ rest ≠ head ++ ⟨.symbol .arrow, arrow⟩ :: tail := by
    intro head x arrow tail hx heq
    have hhead := hinfixes _ _ (⟨.symbol .arrow, arrow⟩ :: tail) hx.infixes_of_atom
      (.cons (by decide))
    rw [heq, hhead] at hcond
    obtain ⟨-, rfl⟩ := Prod.mk.inj (Except.ok.inj hcond)
    cases hafter
  unfold lambdaHead?
  split
  · rename_i name span arrow tail heq
    exact absurd heq (hname [⟨.ident name, span⟩] _ arrow tail .ident)
  · rename_i opening name span closing arrow tail heq
    cases d with
    | zero =>
      -- the expression in parentheses would be too deep
      rw [heq] at hcond
      cases hcond
    | succ d =>
      have hinside : Derives d .atom [⟨.ident name, span⟩] (.ident span name) := .ident
      exact absurd heq (hname _ _ arrow tail
        (.parens (.plain (.unconditional hinside.infixes_of_atom))))
  · rfl

/-- The two recursive productions, by induction on the depth that is left. -/
theorem nested_operand_complete (σ : Setting) (d : Nat) :
    Completes (nested σ d) d .expression ∧
      ∀ k, d = k + 1 → Completes (operand σ d) k .operand := by
  induction d with
  | zero =>
    refine ⟨fun ls e rest h _ => ?_, fun k hk => ?_⟩
    · cases h
    · cases hk
  | succ d ih =>
    obtain ⟨hnested, hoperand⟩ := ih
    have hinfixes := infixes_complete (σ := σ) (unary_complete (σ := σ) hnested hoperand)
    refine ⟨fun ls e rest h hrest => ?_, fun k hk => ?_⟩
    · cases h with
      | lambda hbody =>
        have hbody' := hnested _ _ rest hbody hrest
        simp only [nested, expression, lambdaHead?, List.cons_append, hbody', except_ok_seq]
      | parenLambda hbody =>
        have hbody' := hnested _ _ rest hbody hrest
        simp only [nested, expression, lambdaHead?, List.cons_append, hbody', except_ok_seq]
      | plain he =>
        have hhead := lambdaHead?_eq_none hinfixes he hrest
        simp only [nested, expression, hhead]
        exact conditional_complete hnested hoperand _ _ _ he hrest
    · obtain rfl : d = k := Nat.succ.inj hk
      intro ls e rest h hrest
      simp only [operand]
      exact unary_complete hnested hoperand _ _ _ h hrest

end GatedPredicate.Syntax
