import GatedPredicate.Proofs.Syntax.Completeness
import GatedPredicate.Proofs.Syntax.Prompt

/-!
# The parts of an expression decide by the next lexeme

Each function of the parser keeps the contract of `Prompt` from the parsers of the nested parts. The
predicate of the contract is that the lexemes begin a phrase of the function's own form, so each
lemma also says how a phrase that has been read halfway could go on: a list by the symbol that
closes it, a conditional expression by a colon and what stands before it once more. The heads of
lambdas are all that needs more than one lexeme, and they are left to the whole expression.

- `closing_prompt`: a symbol that comes last
- `chainRound`, `itemRound`, `postfixRound`, `segmentRound`: one round of each loop
- `infixes_prompt`, `listed_prompt`, `postfixes_prompt`: what the loops make of it
- `atom_prompt`, `unary_prompt`, `conditional_prompt`
-/

namespace GatedPredicate.Syntax

variable {α : Type} {σ : Setting} {d : Nat} {inner nestedP operandP : Reader RawExpr}
  {V : List Lexeme → Prop}

/-! ## Symbols -/

theorem expect_prompt {D : List Lexeme → Prop} (s : Symbol) (hV : V []) :
    PromptOn D σ (σ.expect s) V := by
  refine .byHead (.atEnd (.expected s none) rfl hV rfl) fun l => ?_
  cases hs : l.token.isSymbol s with
  | true =>
    exact .skip (q := fun rest => .ok (l.span, rest)) (fun rest => if_pos hs) (.ok _)
  | false =>
    exact .refuses (.expected s (some l.token)) rfl hV fun rest => if_neg (by simp [hs])

/-- A symbol that comes last. -/
theorem closing_prompt {D : List Lexeme → Prop} (s : Symbol) (g : Span → α) (hV : V []) :
    PromptOn D σ (fun ls => σ.expect s ls >>= fun closing => .ok (g closing.1, closing.2)) V :=
  (PromptOn.map g (fun _ _ => rfl) (expect_prompt s hV)).anywhere

theorem expect_reads (s : Symbol) :
    Reads (σ.expect s) fun used span => used = [⟨.symbol s, span⟩] := by
  intro ls span rest h
  exact ⟨[⟨.symbol s, span⟩], expect_eq_ok h, rfl⟩

/-! ## Infix operators -/

/-- A round of a level: an operator of the level, then its right operand. -/
def chainRound (table : OperatorTable) (inner : Reader RawExpr) (l : Lexeme) :
    Option (RawExpr → Reader (RawExpr ⊕ RawExpr)) :=
  match l.token with
  | .symbol s => (table s).map fun op left rest =>
    inner rest >>= fun out =>
      .ok (.inl (.binary ⟨left.mark.start, out.1.mark.stop⟩ op left out.1), out.2)
  | _ => none

theorem chainRound_eq_some {table : OperatorTable} {l : Lexeme}
    {r : RawExpr → Reader (RawExpr ⊕ RawExpr)} (h : chainRound table inner l = some r) :
    ∃ s span op, l = ⟨.symbol s, span⟩ ∧ table s = some op ∧ r = fun left rest =>
      inner rest >>= fun out =>
        .ok (.inl (.binary ⟨left.mark.start, out.1.mark.stop⟩ op left out.1), out.2) := by
  obtain ⟨token, span⟩ := l
  cases token with
  | symbol s =>
    obtain ⟨op, hop, rfl⟩ := Option.map_eq_some_iff.mp h
    exact ⟨s, span, op, rfl, hop, rfl⟩
  | _ => cases h

theorem chain_loops (table : OperatorTable) (inner : Reader RawExpr) :
    Loops (chainFrom table inner) (chainRound table inner) := by
  constructor
  case zero => exact fun _ _ => rfl
  case atEnd =>
    intro fuel left
    cases fuel <;> rfl
  case stop =>
    intro l h fuel left rest
    have hnone : nextOperator? table (l :: rest) = none := by
      obtain ⟨token, span⟩ := l
      cases token with
      | symbol s => exact Option.map_eq_none_iff.mp h
      | _ => rfl
    cases fuel with
    | zero => rfl
    | succ fuel => rw [chainFrom, hnone]
  case next =>
    intro l r h fuel left rest
    obtain ⟨s, span, op, rfl, hop, rfl⟩ := chainRound_eq_some h
    have hsome : nextOperator? table (⟨.symbol s, span⟩ :: rest) = some op := hop
    rw [chainFrom, hsome]
    simp only [List.drop_succ_cons, List.drop_zero]
    cases inner rest <;> rfl

theorem chain_keeps {table : OperatorTable} {level : Level} {levels : List Level}
    (hsame : SameOperators table level)
    (hreads : Reads inner (Derives d (.infixes levels)))
    (hinner : Prompt σ inner (Begins (Derives d (.infixes levels)))) :
    Loops.Keeps σ (chainRound table inner) (Derives d (.infixes (level :: levels)))
      (Begins (Derives d (.infixes (level :: levels)))) := by
  constructor
  case reads =>
    intro l r front left h hleft ls o rest ho
    obtain ⟨s, span, op, rfl, hop, rfl⟩ := chainRound_eq_some h
    obtain ⟨⟨right, after⟩, hright, ho⟩ := except_seq_eq_ok.mp ho
    obtain ⟨rfl, rfl⟩ := Prod.mk.inj (Except.ok.inj ho)
    obtain ⟨used, rfl, hderives⟩ := hreads _ _ _ hright
    refine ⟨used, rfl, fun b hb => ?_⟩
    obtain rfl := Sum.inl.inj hb
    exact .binary hleft ((hsame s op).mp hop) hderives
  case prompt =>
    intro l r front left h hleft
    obtain ⟨s, span, op, rfl, hop, rfl⟩ := chainRound_eq_some h
    refine .map (fun right => .inl (.binary ⟨left.mark.start, right.mark.stop⟩ op left right))
      (fun _ _ => rfl) (hinner.mono fun ls hls => ?_)
    obtain ⟨more, right, hright⟩ := hls
    exact ⟨more, _, by simpa using Derives.binary hleft ((hsame s op).mp hop) hright⟩

theorem chain_prompt {table : OperatorTable} {level : Level} {levels : List Level}
    (hsame : SameOperators table level)
    (hreads : Reads inner (Derives d (.infixes levels)))
    (hinner : Prompt σ inner (Begins (Derives d (.infixes levels)))) :
    Prompt σ (chain table inner) (Begins (Derives d (.infixes (level :: levels)))) :=
  .bind hreads (hinner.mono fun _ hls => hls.imp .tighter) fun _ _ hleft =>
    ((chain_loops table inner).prompt (chain_keeps hsame hreads hinner) (.tighter hleft)).anywhere

/-- The refusal of a `=` does not speak of the lexeme as one that was found. -/
theorem equalities_prompt {levels : List Level}
    (hreads : Reads (chain equalityTable inner) (Derives d (.infixes levels)))
    (hlevel : Prompt σ (chain equalityTable inner) (Begins (Derives d (.infixes levels)))) :
    Prompt σ (equalities σ inner) (Begins (Derives d (.infixes levels))) := by
  refine .bind hreads hlevel fun used left hleft => ?_
  exact .byNext .assign (.ok left) fun span => .silent fun ls _ => ⟨_, rfl, rfl⟩

theorem infixes_prompt (hreads : Reads operandP (Derives d .operand))
    (hoperand : Prompt σ operandP (Begins (Derives d .operand))) :
    Prompt σ (infixes σ operandP) (Begins (Derives d (.infixes operatorLevels))) := by
  have hsingle : Reads operandP (Derives d (.infixes [])) := by
    intro ls e rest h
    obtain ⟨used, rfl, he⟩ := hreads _ _ _ h
    exact ⟨used, rfl, .single he⟩
  have hbegins : Prompt σ operandP (Begins (Derives d (.infixes []))) :=
    hoperand.mono fun ls hls => hls.imp .single
  -- a level needs of the next one that it reads as well as that it is prompt
  have hboth : Reads (infixes σ operandP) _ ∧ Prompt σ (infixes σ operandP) _ := infixes_of_links
    (fun p levels => Reads p (Derives d (.infixes levels)) ∧
      Prompt σ p (Begins (Derives d (.infixes levels))))
    (fun hsame hinner => ⟨chain_reads hsame hinner.1, chain_prompt hsame hinner.1 hinner.2⟩)
    (fun hlevel => ⟨equalities_reads hlevel.1, equalities_prompt hlevel.1 hlevel.2⟩)
    ⟨hsingle, hbegins⟩
  exact hboth.2

/-! ## Lists -/

/-- A round of a list: a comma, then an item or what closes the list. -/
def itemRound (nestedP : Reader RawExpr) (close : Symbol) (l : Lexeme) :
    Option (List RawExpr → Reader (List RawExpr ⊕ List RawExpr)) :=
  if l.token.isSymbol .comma then some fun items rest =>
    if nextIs close rest then .ok (.inr items, rest)
    else nestedP rest >>= fun out => .ok (.inl (items ++ [out.1]), out.2)
  else none

theorem itemRound_eq_some {close : Symbol} {l : Lexeme}
    {r : List RawExpr → Reader (List RawExpr ⊕ List RawExpr)}
    (h : itemRound nestedP close l = some r) :
    ∃ comma, l = ⟨.symbol .comma, comma⟩ ∧ r = fun items rest =>
      if nextIs close rest then .ok (.inr items, rest)
      else nestedP rest >>= fun out => .ok (.inl (items ++ [out.1]), out.2) := by
  obtain ⟨hcomma, hr⟩ := Option.ite_none_right_eq_some.mp h
  obtain ⟨comma, hl⟩ := eq_of_isSymbol hcomma
  exact ⟨comma, hl, (Option.some.inj hr).symm⟩

theorem item_loops (close : Symbol) :
    Loops (moreItems σ nestedP close) (itemRound nestedP close) := by
  constructor
  case zero => exact fun _ _ => rfl
  case atEnd =>
    intro fuel items
    cases fuel <;> rfl
  case stop =>
    intro l h fuel items rest
    have hcomma : ¬ nextIs .comma (l :: rest) = true := by
      intro hnext
      rw [itemRound, if_pos (show l.token.isSymbol .comma = true from hnext)] at h
      cases h
    cases fuel with
    | zero => rfl
    | succ fuel => rw [moreItems, if_neg hcomma]
  case next =>
    intro l r h fuel items rest
    obtain ⟨comma, rfl, rfl⟩ := itemRound_eq_some h
    rw [moreItems, nextIs_symbol]
    simp only [beq_self_eq_true, if_true, List.drop_succ_cons, List.drop_zero]
    split
    · rfl
    · cases nestedP rest <;> rfl

theorem someItems_reads (close : Symbol) (hreads : Reads nestedP (Derives d .expression)) :
    Reads (someItems σ nestedP close) (DerivesList d) := by
  intro ls items rest h
  obtain ⟨⟨first, after⟩, hfirst, hloop⟩ := except_seq_eq_ok.mp h
  obtain ⟨front, rfl, hfront⟩ := hreads _ _ _ hfirst
  obtain ⟨used, rfl, hitems⟩ := moreItems_reads hreads _ (.one hfront) _ _ _ hloop
  exact ⟨front ++ used, (List.append_assoc _ _ _).symm, hitems⟩

theorem item_keeps (close : Symbol) (hreads : Reads nestedP (Derives d .expression))
    (hnested : Prompt σ nestedP (Begins (Derives d .expression))) :
    Loops.Keeps σ (itemRound nestedP close) (DerivesItems d) (Begins (DerivesList d)) := by
  constructor
  case reads =>
    intro l r front items h hitems ls o rest ho
    obtain ⟨comma, rfl, rfl⟩ := itemRound_eq_some h
    dsimp only at ho
    split at ho
    · obtain ⟨rfl, rfl⟩ := Prod.mk.inj (Except.ok.inj ho)
      exact ⟨[], rfl, nofun⟩
    · obtain ⟨⟨item, after⟩, hitem, ho⟩ := except_seq_eq_ok.mp ho
      obtain ⟨rfl, rfl⟩ := Prod.mk.inj (Except.ok.inj ho)
      obtain ⟨used, rfl, hderives⟩ := hreads _ _ _ hitem
      refine ⟨used, rfl, fun all hall => ?_⟩
      obtain rfl := Sum.inl.inj hall
      exact .more hitems hderives
  case prompt =>
    intro l r front items h hitems
    obtain ⟨comma, rfl, rfl⟩ := itemRound_eq_some h
    -- what closes the list is seen behind the comma but not taken
    refine .byNext close ?_ fun span => .ok (Sum.inr items)
    refine .map (fun item => Sum.inl (items ++ [item])) (fun _ _ => rfl)
      (hnested.mono fun ls hls => ?_)
    obtain ⟨more, item, hderives⟩ := hls
    exact ⟨more, _, by simpa using DerivesList.items (.more hitems hderives)⟩

theorem someItems_prompt (close : Symbol) (hreads : Reads nestedP (Derives d .expression))
    (hnested : Prompt σ nestedP (Begins (Derives d .expression))) :
    Prompt σ (someItems σ nestedP close) (Begins (DerivesList d)) := by
  refine .bind hreads (hnested.mono fun ls hls => ?_) fun used first hfirst => ?_
  · obtain ⟨more, e, he⟩ := hls
    exact ⟨more, [e], .items (.one he)⟩
  · have hkeeps := item_keeps close hreads hnested
    exact ((item_loops close).prompt hkeeps (.one hfirst)).anywhere

/-- An empty list and a list with items differ only in what stands before the closing symbol. -/
theorem listed_eq (close : Symbol) : listed σ nestedP close = fun ls =>
    if nextIs close ls then
      σ.expect close ls >>= fun closing => .ok (([], closing.1), closing.2)
    else
      someItems σ nestedP close ls >>= fun items =>
        σ.expect close items.2 >>= fun closing => .ok ((items.1, closing.1), closing.2) := by
  funext ls
  unfold listed someItems
  split
  · rfl
  · cases nestedP ls <;> rfl

theorem listed_prompt (close : Symbol) (hreads : Reads nestedP (Derives d .expression))
    (hnested : Prompt σ nestedP (Begins (Derives d .expression))) :
    Prompt σ (listed σ nestedP close) (Begins (DerivesList d)) := by
  rw [listed_eq]
  refine .byNext close ?_ fun span => closing_prompt close (([], ·)) (.whole .nil)
  exact .bind (someItems_reads close hreads) (someItems_prompt close hreads hnested)
    fun used items hitems => closing_prompt close ((items, ·)) (.whole_append_nil hitems)

/-! ## Postfix operators -/

/-- The name of a member. What stands in its place has been taken when the error is reported. -/
def memberName (σ : Setting) (target : RawExpr) : Reader RawExpr := fun ls =>
  match ls with
  | ⟨.ident name, span⟩ :: rest =>
    .ok (.member ⟨target.mark.start, span.stop⟩ target name, rest)
  | other => σ.fail (.expectedMemberName (nextToken? other)) (other.drop 1)

theorem memberName_prompt (target : RawExpr) (hV : V []) : Prompt σ (memberName σ target) V := by
  refine .byHead (.atEnd (.expectedMemberName none) rfl hV rfl) fun l => ?_
  obtain ⟨token, span⟩ := l
  cases token with
  | ident name => exact .skip (fun rest => rfl) (.ok _)
  | _ => exact .refuses (.expectedMemberName (some _)) rfl hV fun rest => rfl

/-- A round of postfix operators: what follows the lexeme that opens one. -/
def postfixRound (σ : Setting) (nestedP : Reader RawExpr) (l : Lexeme) :
    Option (RawExpr → Reader (RawExpr ⊕ RawExpr)) :=
  match l.token with
  | .symbol .lparen => some fun target rest => listed σ nestedP .rparen rest >>= fun list =>
    .ok (.inl (.call ⟨target.mark.start, list.1.2.stop⟩ target list.1.1), list.2)
  | .symbol .lbracket => some fun target rest => nestedP rest >>= fun position =>
    σ.expect .rbracket position.2 >>= fun closing =>
      .ok (.inl (.index ⟨target.mark.start, closing.1.stop⟩ target position.1), closing.2)
  | .symbol .dot => some fun target rest => memberName σ target rest >>= fun member =>
    .ok (.inl member.1, member.2)
  | _ => none

/-- There are three kinds of rounds. -/
theorem postfixRound_eq_some {l : Lexeme} {r : RawExpr → Reader (RawExpr ⊕ RawExpr)}
    (h : postfixRound σ nestedP l = some r) :
    ∃ s span, l = ⟨.symbol s, span⟩ ∧ (s = .lparen ∨ s = .lbracket ∨ s = .dot) := by
  obtain ⟨token, span⟩ := l
  unfold postfixRound at h
  split at h
  case h_1 heq => exact ⟨_, span, congrArg (Lexeme.mk · span) heq, .inl rfl⟩
  case h_2 heq => exact ⟨_, span, congrArg (Lexeme.mk · span) heq, .inr (.inl rfl)⟩
  case h_3 heq => exact ⟨_, span, congrArg (Lexeme.mk · span) heq, .inr (.inr rfl)⟩
  case h_4 => cases h

/-- A round is one postfix operator. -/
theorem postfix?_of_round {l : Lexeme} {r : RawExpr → Reader (RawExpr ⊕ RawExpr)}
    (h : postfixRound σ nestedP l = some r) (target : RawExpr) (rest : List Lexeme) :
    ∃ result, postfix? σ nestedP target (l :: rest) = some result ∧
      r target rest = result >>= fun out => .ok (.inl out.1, out.2) := by
  obtain ⟨s, span, rfl, rfl | rfl | rfl⟩ := postfixRound_eq_some h <;>
    obtain rfl := Option.some.inj h
  · refine ⟨_, rfl, ?_⟩
    simp only [List.drop_succ_cons, List.drop_zero]
    cases listed σ nestedP .rparen rest <;> rfl
  · refine ⟨_, rfl, ?_⟩
    simp only [List.drop_succ_cons, List.drop_zero]
    rcases nestedP rest with e | ⟨position, after⟩
    · rfl
    · simp only [except_ok_seq]
      cases σ.expect .rbracket after <;> rfl
  · exact ⟨memberName σ target rest, rfl, rfl⟩

theorem postfix?_of_stop {l : Lexeme} (h : postfixRound σ nestedP l = none) (target : RawExpr)
    (rest : List Lexeme) : postfix? σ nestedP target (l :: rest) = none := by
  obtain ⟨token, span⟩ := l
  cases token with
  | symbol s =>
    cases s with
    -- these three open a round
    | lparen | lbracket | dot => cases h
    | _ => rfl
  | _ => rfl

theorem postfix_loops : Loops (postfixedFrom σ nestedP) (postfixRound σ nestedP) := by
  constructor
  case zero => exact fun _ _ => rfl
  case atEnd =>
    intro fuel target
    cases fuel <;> rfl
  case stop =>
    intro l h fuel target rest
    cases fuel with
    | zero => rfl
    | succ fuel => rw [postfixedFrom, postfix?_of_stop h]
  case next =>
    intro l r h fuel target rest
    obtain ⟨result, hsome, hr⟩ := postfix?_of_round h target rest
    rw [postfixedFrom, hsome, hr]
    cases result <;> rfl

/-- What a round has taken when it fails goes on from its target to a longer one. -/
theorem postfixRound_prompt (hreads : Reads nestedP (Derives d .expression))
    (hnested : Prompt σ nestedP (Begins (Derives d .expression))) {l : Lexeme}
    {r : RawExpr → Reader (RawExpr ⊕ RawExpr)} {front : List Lexeme} {target : RawExpr}
    (h : postfixRound σ nestedP l = some r) (htarget : Derives d .postfixed front target) :
    Prompt σ (r target) fun ls => Begins (Derives d .postfixed) (front ++ l :: ls) := by
  obtain ⟨s, opening, rfl, rfl | rfl | rfl⟩ := postfixRound_eq_some h <;>
    obtain rfl := Option.some.inj h
  · -- a call
    refine .map (fun list => Sum.inl (.call ⟨target.mark.start, list.2.stop⟩ target list.1))
      (fun _ _ => rfl) ((listed_prompt .rparen hreads hnested).mono fun ls hls => ?_)
    obtain ⟨more, args, hargs⟩ := hls
    exact ⟨more ++ [⟨.symbol .rparen, opening⟩], _, by simpa using Derives.call htarget hargs⟩
  · -- an index
    have hbegins : ∀ ls, Begins (Derives d .expression) ls →
        Begins (Derives d .postfixed) (front ++ ⟨.symbol .lbracket, opening⟩ :: ls) := by
      intro ls hls
      obtain ⟨more, position, hposition⟩ := hls
      exact ⟨more ++ [⟨.symbol .rbracket, opening⟩], _,
        by simpa using Derives.index htarget hposition⟩
    refine .bind hreads (hnested.mono hbegins) fun used position hposition => ?_
    refine closing_prompt .rbracket
      (fun closing => Sum.inl (Expr.index ⟨target.mark.start, closing.stop⟩ target position)) ?_
    exact hbegins _ (.whole_append_nil hposition)
  · -- a member
    refine .map Sum.inl (fun _ _ => rfl) (memberName_prompt target ?_)
    exact ⟨[⟨.ident "x", opening⟩], _, by simpa using Derives.member htarget⟩

theorem postfix_keeps (hreads : Reads nestedP (Derives d .expression))
    (hnested : Prompt σ nestedP (Begins (Derives d .expression))) :
    Loops.Keeps σ (postfixRound σ nestedP) (Derives d .postfixed)
      (Begins (Derives d .postfixed)) := by
  refine ⟨fun {l r front target} h htarget ls o rest ho => ?_, postfixRound_prompt hreads hnested⟩
  obtain ⟨used, hused⟩ := (postfixRound_prompt hreads hnested h htarget).takes trivial ho
  obtain ⟨result, hsome, hr⟩ := postfix?_of_round h target ls
  rw [hr] at ho
  obtain ⟨⟨e, after⟩, he, ho⟩ := except_seq_eq_ok.mp ho
  obtain ⟨rfl, rfl⟩ := Prod.mk.inj (Except.ok.inj ho)
  obtain ⟨all, hall, hderives⟩ := postfix?_reads hreads htarget hsome he
  -- the phrase is that of the whole round, its first lexeme included
  obtain rfl : l :: used = all := by
    rw [← hused, ← List.cons_append] at hall
    exact List.append_cancel_right hall
  refine ⟨used, hused.symm, fun b hb => ?_⟩
  obtain rfl := Sum.inl.inj hb
  exact hderives

/-- An atom with its postfix operators. -/
theorem postfixes_prompt (hreads : Reads nestedP (Derives d .expression))
    (hnested : Prompt σ nestedP (Begins (Derives d .expression)))
    (hatom : Prompt σ (atom σ nestedP) (Begins (Derives d .atom))) :
    Prompt σ (postfixes σ nestedP) (Begins (Derives d .postfixed)) :=
  .bind (atom_reads hreads) (hatom.mono fun _ hls => hls.imp .atomic) fun _ _ htarget =>
    (postfix_loops.prompt (postfix_keeps hreads hnested) (.atomic htarget)).anywhere

/-! ## Operands -/

/-- A name that must come first, where the error does not say what was found instead. -/
theorem typeName_prompt {D : List Lexeme → Prop} (named : String → Span → Reader α)
    (h : ∀ name span, PromptOn (fun ls => D (⟨.ident name, span⟩ :: ls)) σ (named name span)
      fun ls => V (⟨.ident name, span⟩ :: ls)) :
    PromptOn D σ (fun ls =>
      match ls with
      | ⟨.ident name, span⟩ :: rest => named name span rest
      | other => σ.fail .expectedTypeName (other.drop 1)) V := by
  refine .byHead (.silentNil ⟨_, rfl, rfl⟩) fun l => ?_
  obtain ⟨token, span⟩ := l
  cases token with
  | ident name => exact .skip (fun rest => rfl) (h name span)
  | _ => exact .silentCons fun rest => ⟨_, rfl, rfl⟩

/-- A round of a dotted name: a dot and a segment. -/
def segmentRound (σ : Setting) (l : Lexeme) : Option (String → Reader (String ⊕ String)) :=
  if l.token.isSymbol .dot then some fun name rest =>
    match rest with
    | ⟨.ident segment, _⟩ :: rest => .ok (.inl (name ++ "." ++ segment), rest)
    | other => σ.fail .expectedTypeName (other.drop 1)
  else none

theorem segmentRound_eq_some {l : Lexeme} {r : String → Reader (String ⊕ String)}
    (h : segmentRound σ l = some r) : ∃ dot, l = ⟨.symbol .dot, dot⟩ := by
  obtain ⟨hdot, -⟩ := Option.ite_none_right_eq_some.mp h
  exact eq_of_isSymbol hdot

theorem segment_loops : Loops (dottedName σ) (segmentRound σ) := by
  constructor
  case zero => exact fun _ _ => rfl
  case atEnd =>
    intro fuel name
    cases fuel <;> rfl
  case stop =>
    intro l h fuel name rest
    have hdot : ¬ nextIs .dot (l :: rest) = true := by
      intro hnext
      rw [segmentRound, if_pos (show l.token.isSymbol .dot = true from hnext)] at h
      cases h
    cases fuel with
    | zero => rfl
    | succ fuel => rw [dottedName, if_neg hdot]
  case next =>
    intro l r h fuel name rest
    obtain ⟨dot, rfl⟩ := segmentRound_eq_some h
    obtain rfl := Option.some.inj h
    rw [dottedName, nextIs_symbol]
    simp only [beq_self_eq_true, if_true, List.drop_succ_cons, List.drop_zero]
    rcases rest with _ | ⟨⟨token, span⟩, rest⟩
    · rfl
    · cases token <;> rfl

/-- No error of a dotted name speaks of the lexeme that was found. -/
theorem segment_keeps : Loops.Keeps σ (segmentRound σ) DottedName fun _ => False := by
  constructor
  case reads =>
    intro l r front name h hname ls o rest ho
    obtain ⟨dot, rfl⟩ := segmentRound_eq_some h
    obtain rfl := Option.some.inj h
    dsimp only at ho
    split at ho
    · rename_i segment span after
      obtain ⟨rfl, rfl⟩ := Prod.mk.inj (Except.ok.inj ho)
      refine ⟨[⟨.ident segment, span⟩], rfl, fun b hb => ?_⟩
      obtain rfl := Sum.inl.inj hb
      exact .more hname
    · cases ho
  case prompt =>
    intro l r front name h hname
    obtain ⟨dot, rfl⟩ := segmentRound_eq_some h
    obtain rfl := Option.some.inj h
    exact typeName_prompt (fun segment span rest => .ok (Sum.inl (name ++ "." ++ segment), rest))
      fun segment span => .ok _

theorem typeOfOperand_prompt (keyword : Span) :
    Prompt σ (typeOfOperand σ keyword.start)
      fun ls => Begins (Derives d .atom) (⟨.typeOf, keyword⟩ :: ls) := by
  refine .bind (expect_reads .lparen) (expect_prompt .lparen ?_) fun used opening hopening => ?_
  · exact ⟨[⟨.symbol .lparen, keyword⟩, ⟨.ident "x", keyword⟩, ⟨.symbol .rparen, keyword⟩], _,
      .typeOf .one⟩
  subst hopening
  refine typeName_prompt (fun first span rest => dottedName σ rest.length first rest >>= fun name =>
    σ.expect .rparen name.2 >>= fun closing =>
      .ok ((.typeOf ⟨keyword.start, closing.1.stop⟩ name.1 : RawExpr), closing.2))
    fun first span => ?_
  -- where a segment is missing the error does not say what was found, so only the parentheses count
  have hfirst : DottedName [⟨.ident first, span⟩] first := .one
  refine .bind (fun ls => dottedName_reads ls.length hfirst ls)
    ((segment_loops.prompt segment_keeps hfirst).mono fun _ h => h.elim).anywhere
    fun used name hname => ?_
  refine closing_prompt .rparen
    (fun closing => (.typeOf ⟨keyword.start, closing.stop⟩ name : RawExpr)) ?_
  exact ⟨[⟨.symbol .rparen, keyword⟩], _, by simpa using Derives.typeOf hname⟩

theorem newArray_prompt (hreads : Reads nestedP (Derives d .expression))
    (hnested : Prompt σ nestedP (Begins (Derives d .expression))) (keyword : Span) :
    Prompt σ (newArray σ nestedP keyword.start)
      fun ls => Begins (Derives d .atom) (⟨.new, keyword⟩ :: ls) := by
  have hitems {left right opening : Span} {ls : List Lexeme} (h : Begins (DerivesList d) ls) :
      Begins (Derives d .atom) (⟨.new, keyword⟩ :: ⟨.symbol .lbracket, left⟩ ::
        ⟨.symbol .rbracket, right⟩ :: ⟨.symbol .lbrace, opening⟩ :: ls) := by
    obtain ⟨more, items, hitems⟩ := h
    exact ⟨more ++ [⟨.symbol .rbrace, keyword⟩], _, by simpa using Derives.newArray hitems⟩
  let items : Reader RawExpr := fun ls => σ.expect .lbrace ls >>= fun opening =>
    listed σ nestedP .rbrace opening.2 >>= fun list =>
      .ok (.array ⟨keyword.start, list.1.2.stop⟩ list.1.1, list.2)
  refine .byHead (.silentNil ⟨_, rfl, rfl⟩) fun l => ?_
  cases hbracket : l.token.isSymbol .lbracket with
  | false => exact .silentCons fun rest => ⟨_, if_neg (by simp [nextIs, hbracket]), rfl⟩
  | true =>
    -- both brackets are looked at before either of them is taken
    obtain ⟨left, rfl⟩ := eq_of_isSymbol hbracket
    refine .skip (q := fun rest => if nextIs .rbracket rest then items (rest.drop 1)
      else .error ⟨.objectCreation, ⟨keyword.start, left.stop⟩⟩) (fun rest => ?_) ?_
    · rw [newArray, nextIs_symbol]
      rfl
    refine .byNext .rbracket (.silent fun ls _ => ⟨_, rfl, rfl⟩) fun right => ?_
    refine .skip (q := items) (fun rest => rfl) ?_
    refine .bind (expect_reads .lbrace) (expect_prompt .lbrace ?_)
      fun used opening hopening => .anywhere ?_
    · exact ⟨[⟨.symbol .lbrace, keyword⟩, ⟨.symbol .rbrace, keyword⟩], _, .newArray .nil⟩
    · subst hopening
      exact .map (fun list => .array ⟨keyword.start, list.2.stop⟩ list.1) (fun _ _ => rfl)
        ((listed_prompt .rbrace hreads hnested).mono fun ls hls => hitems hls)

theorem atom_prompt (hreads : Reads nestedP (Derives d .expression))
    (hnested : Prompt σ nestedP (Begins (Derives d .expression))) :
    Prompt σ (atom σ nestedP) (Begins (Derives d .atom)) := by
  -- nothing has been taken yet where a token is refused, and a name could always stand there
  have hnothing : Begins (Derives d .atom) [] := ⟨[⟨.ident "x", ⟨0, 0⟩⟩], _, .ident⟩
  refine .byHead (.atEnd .unexpectedEnd rfl hnothing rfl) fun l => ?_
  obtain ⟨token, span⟩ := l
  cases token with
  | literal value => exact .skip (fun rest => rfl) (.ok _)
  | ident name => exact .skip (fun rest => rfl) (.ok _)
  | typeOf =>
    exact .skip (fun rest => rfl) (typeOfOperand_prompt span).anywhere
  | new =>
    exact .skip (fun rest => rfl) (newArray_prompt hreads hnested span).anywhere
  | reserved word => exact .refuses (.reservedWord word) rfl hnothing fun rest => rfl
  | symbol s =>
    cases s with
    | lparen =>
      have hbegins : ∀ ls, Begins (Derives d .expression) ls →
          Begins (Derives d .atom) (⟨.symbol .lparen, span⟩ :: ls) := by
        intro ls hls
        obtain ⟨more, e, he⟩ := hls
        exact ⟨more ++ [⟨.symbol .rparen, span⟩], e, by simpa using Derives.parens he⟩
      refine .skip (q := fun ls => nestedP ls >>= fun inner =>
        σ.expect .rparen inner.2 >>= fun closing => .ok (inner.1, closing.2)) (fun rest => rfl) ?_
      refine .bind hreads (hnested.mono hbegins).anywhere fun used e he => ?_
      exact closing_prompt .rparen (fun _ => e) (hbegins _ (.whole_append_nil he))
    | lbracket =>
      refine .skip (q := fun ls => listed σ nestedP .rbracket ls >>= fun list =>
        .ok ((.array ⟨span.start, list.1.2.stop⟩ list.1.1 : RawExpr), list.2)) (fun rest => rfl) ?_
      refine .anywhere <| .map (fun list => .array ⟨span.start, list.2.stop⟩ list.1)
        (fun _ _ => rfl) ((listed_prompt .rbracket hreads hnested).mono fun ls hls => ?_)
      obtain ⟨more, items, hitems⟩ := hls
      exact ⟨more ++ [⟨.symbol .rbracket, span⟩], _, by simpa using Derives.array hitems⟩
    | semicolon => exact .silentCons fun rest => ⟨_, rfl, rfl⟩
    | _ => exact .refuses (.unexpectedToken (.symbol _)) rfl hnothing fun rest => rfl

theorem unary_prompt (hreads : Reads nestedP (Derives d .expression))
    (hnested : Prompt σ nestedP (Begins (Derives d .expression)))
    (hoperand : Prompt σ operandP
      (Begins fun used e => ∃ k, d = k + 1 ∧ Derives k .operand used e)) :
    Prompt σ (unary σ nestedP operandP) (Begins (Derives d .operand)) := by
  have hplain : Prompt σ (postfixes σ nestedP) (Begins (Derives d .operand)) :=
    (postfixes_prompt hreads hnested (atom_prompt hreads hnested)).mono
      fun ls hls => hls.imp .unprefixed
  refine .byHead (.congrNil (q := postfixes σ nestedP) rfl hplain) fun l => ?_
  obtain ⟨token, span⟩ := l
  cases token with
  | symbol s =>
    cases hop : prefixOperator? s with
    | some op =>
      refine .skip (q := fun ls => operandP ls >>= fun inner =>
        .ok (.unary ⟨span.start, inner.1.mark.stop⟩ op inner.1, inner.2)) (fun rest => ?_) ?_
      · simp only [unary, hop]
      refine .anywhere <| .map (fun inner => .unary ⟨span.start, inner.mark.stop⟩ op inner)
        (fun _ _ => rfl) (hoperand.mono fun ls hls => ?_)
      obtain ⟨more, e, k, rfl, he⟩ := hls
      exact ⟨more, _, .unary (prefixOperator?_eq_some.mp hop) he⟩
    | none =>
      refine .congrCons (q := postfixes σ nestedP) (fun rest => ?_) hplain
      simp only [unary, hop]
      rfl
  | _ => exact .congrCons (q := postfixes σ nestedP) (fun rest => rfl) hplain

/-! ## Expressions -/

theorem conditional_prompt (hreads : Reads nestedP (Derives d .expression))
    (hoperandReads : Reads operandP fun used e => ∃ k, d = k + 1 ∧ Derives k .operand used e)
    (hnested : Prompt σ nestedP (Begins (Derives d .expression)))
    (hoperand : Prompt σ operandP
      (Begins fun used e => ∃ k, d = k + 1 ∧ Derives k .operand used e)) :
    Prompt σ (conditional σ nestedP operandP) (Begins (Derives d .conditional)) := by
  have hunary := unary_reads (σ := σ) hreads hoperandReads
  have hinfixes := infixes_prompt hunary (unary_prompt hreads hnested hoperand)
  refine .bind (infixes_reads hunary) (hinfixes.mono fun ls hls => hls.imp .unconditional)
    fun front cond hcond => ?_
  refine .byNext .question (.ok cond) fun question => ?_
  -- a phrase after the question mark can stand after the colon as well
  have htrue : ∀ ls, Begins (Derives d .expression) ls →
      Begins (Derives d .conditional) (front ++ ⟨.symbol .question, question⟩ :: ls) := by
    intro ls hls
    obtain ⟨more, e, he⟩ := hls
    exact ⟨more ++ ⟨.symbol .colon, question⟩ :: (ls ++ more), _,
      by simpa using Derives.conditional hcond he he⟩
  refine .skip (q := fun ls => nestedP ls >>= fun onTrue =>
    σ.expect .colon onTrue.2 >>= fun colon => nestedP colon.2 >>= fun onFalse =>
      .ok (.conditional ⟨cond.mark.start, onFalse.1.mark.stop⟩ cond onTrue.1 onFalse.1, onFalse.2))
    (fun rest => rfl) ?_
  refine .bind hreads (hnested.mono htrue).anywhere fun ts onTrue hts => ?_
  dsimp only
  refine .bind (expect_reads .colon) (expect_prompt .colon ?_)
    fun used colon hcolon => .anywhere ?_
  · exact htrue _ (.whole_append_nil hts)
  subst hcolon
  refine .map (fun onFalse => .conditional ⟨cond.mark.start, onFalse.mark.stop⟩ cond onTrue onFalse)
    (fun _ _ => rfl) (hnested.mono fun ls hls => ?_)
  obtain ⟨more, onFalse, hfs⟩ := hls
  exact ⟨more, _, by simpa using Derives.conditional hcond hts hfs⟩

end GatedPredicate.Syntax
