import GatedPredicate.Proofs.Syntax.DepthLimit
import GatedPredicate.Proofs.Syntax.Exactness
import GatedPredicate.Proofs.Syntax.Lookahead

/-!
# Errors at the offending lexeme

An error that says what was found stands at the first lexeme with which the input is no longer the
beginning of an expression. That the lexemes before it begin one, and that the parser stops at it
whatever follows, is the contract of `Prompt`. That no expression goes on with it is completeness of
the parser, with as much depth as the expression may need. One error is reported behind its lexeme:
what stands in place of a member name has been read by then.

- `LambdaParameter`, `lambdaHead?_lookahead`: how far the parser looks ahead for a lambda
- `nested_operand_prompt`: the two recursive productions
- `StopsAt.not_begins`: no expression goes on with a lexeme that the parser stops at
- `BreaksAt`: the offending lexeme
- `errors_at_offending_token`
-/

namespace GatedPredicate.Syntax

variable {σ : Setting} {d : Nat} {nestedP operandP : Reader RawExpr}

/-! ## Heads of lambdas -/

/-- What stands before the arrow of a lambda. By itself it is an expression. -/
inductive LambdaParameter : List Lexeme → Prop where
  | bare {name : String} {span : Span} : LambdaParameter [⟨.ident name, span⟩]
  | inParens {name : String} {opening span closing : Span} : LambdaParameter
      [⟨.symbol .lparen, opening⟩, ⟨.ident name, span⟩, ⟨.symbol .rparen, closing⟩]

/-- The head of a lambda does not depend on what follows the arrow. -/
theorem lambdaHead?_eq_some {ls rest : List Lexeme} {start : Nat} {param : String}
    (h : lambdaHead? ls = some (start, param, rest)) :
    ∃ parameter arrow, ls = parameter ++ ⟨.symbol .arrow, arrow⟩ :: rest ∧
      LambdaParameter parameter ∧
      (∀ rest', lambdaHead? (parameter ++ ⟨.symbol .arrow, arrow⟩ :: rest') =
        some (start, param, rest')) ∧
      ∀ {d used body}, Derives d .expression used body →
        ∃ e, Derives (d + 1) .expression (parameter ++ ⟨.symbol .arrow, arrow⟩ :: used) e := by
  unfold lambdaHead? at h
  split at h
  · rename_i name span arrow more
    obtain ⟨rfl, rfl, rfl⟩ : span.start = start ∧ name = param ∧ more = rest := by simpa using h
    exact ⟨_, arrow, rfl, .bare, fun _ => rfl, fun hbody => ⟨_, .lambda hbody⟩⟩
  · rename_i opening name span closing arrow more
    obtain ⟨rfl, rfl, rfl⟩ : opening.start = start ∧ name = param ∧ more = rest := by
      simpa using h
    exact ⟨_, arrow, rfl, .inParens, fun _ => rfl, fun hbody => ⟨_, .parenLambda hbody⟩⟩
  · cases h

/-- Where a lambda begins only with some of what may follow, the arrow is still to come, so the
parameter alone may follow as well. -/
theorem lambdaHead?_lookahead {front after after' : List Lexeme} {l : Lexeme}
    {head : Nat × String × List Lexeme} (h : lambdaHead? (front ++ l :: after) = none)
    (h' : lambdaHead? (front ++ l :: after') = some head) :
    ∃ more, LambdaParameter (front ++ l :: more) := by
  obtain ⟨parameter, arrow, hls, hparameter, hhead, -⟩ := lambdaHead?_eq_some h'
  -- with the whole head in front the first input would have been a lambda too
  have hno : ∀ rest, front ++ l :: after ≠ parameter ++ ⟨.symbol .arrow, arrow⟩ :: rest := by
    intro rest heq
    rw [heq, hhead] at h
    cases h
  rcases List.append_eq_append_iff.mp hls with ⟨between, hfront, hl⟩ | ⟨between, rfl, hl⟩
  · cases between with
    | nil =>
      -- the arrow itself
      obtain ⟨rfl, -⟩ := List.cons.inj hl
      exact absurd (by rw [hfront, List.append_nil]) (hno after)
    | cons _ more =>
      obtain ⟨rfl, -⟩ := List.cons.inj hl
      exact ⟨more, hfront ▸ hparameter⟩
  · cases between with
    | nil =>
      obtain ⟨rfl, -⟩ := List.cons.inj hl
      exact absurd (by rw [List.append_nil]) (hno after)
    | cons _ more =>
      -- a lexeme after the arrow
      obtain ⟨rfl, -⟩ := List.cons.inj hl
      exact absurd (by simp) (hno (more ++ l :: after))

/-- A parameter by itself is taken whole, unless its parentheses already nest too deep. -/
theorem conditional_of_parameter {ls : List Lexeme} (h : LambdaParameter ls) :
    (∃ e, conditional σ (nested σ d) (operand σ d) ls = .ok (e, [])) ∨
      ∃ e, conditional σ (nested σ d) (operand σ d) ls = .error e ∧ e.fault.found? = none := by
  obtain ⟨hnested, hoperand⟩ := nested_operand_complete σ d
  have hcomplete : ∀ {ls e}, Derives d .atom ls e →
      conditional σ (nested σ d) (operand σ d) ls = .ok (e, []) := by
    intro ls e he
    have hall := conditional_complete (σ := σ) hnested hoperand ls e []
      (.unconditional he.infixes_of_atom) .nil
    rwa [List.append_nil] at hall
  cases h with
  | bare => exact .inl ⟨_, hcomplete .ident⟩
  | inParens =>
    cases d with
    | zero =>
      -- there is no depth left for the expression in parentheses
      exact .inr ⟨_, rfl, rfl⟩
    | succ d =>
      exact .inl ⟨_, hcomplete (.parens (.plain (.unconditional
        (Derives.infixes_of_atom .ident))))⟩

/-- Where a condition stops, no lambda begins with other lexemes to follow. -/
theorem StopsAt.lambdaHead?_eq_none {front after : List Lexeme} {l : Lexeme}
    (h : StopsAt (conditional σ (nested σ d) (operand σ d)) front l)
    (hhead : lambdaHead? (front ++ l :: after) = none) (after' : List Lexeme) :
    lambdaHead? (front ++ l :: after') = none := by
  by_contra hsome
  obtain ⟨head, hhead'⟩ := Option.ne_none_iff_exists'.mp hsome
  obtain ⟨more, hparameter⟩ := lambdaHead?_lookahead hhead hhead'
  obtain ⟨e, he⟩ | ⟨e, he, hnone⟩ := conditional_of_parameter (σ := σ) (d := d) hparameter
  · exact h.ne_ok he
  · exact h.found_ne_none he hnone

/-! ## Expressions -/

theorem expression_of_lambda {ls rest : List Lexeme} {start : Nat} {param : String}
    (h : lambdaHead? ls = some (start, param, rest)) :
    expression σ nestedP operandP ls = nestedP rest >>= fun body =>
      .ok (.lambda ⟨start, body.1.mark.stop⟩ param body.1, body.2) := by
  simp only [expression, h]

theorem expression_of_none {ls : List Lexeme} (h : lambdaHead? ls = none) :
    expression σ nestedP operandP ls = conditional σ nestedP operandP ls := by
  simp only [expression, h]

theorem lambda_prompt (hnested : Prompt σ nestedP (Begins (Derives d .expression))) :
    PromptOn (fun ls => ∃ head, lambdaHead? ls = some head) σ (expression σ nestedP operandP)
      (Begins (Derives (d + 1) .expression)) := by
  have hbody (start : Nat) (param : String) : Prompt σ (fun ls => nestedP ls >>= fun body =>
      .ok ((.lambda ⟨start, body.1.mark.stop⟩ param body.1 : RawExpr), body.2))
      (Begins (Derives d .expression)) :=
    .map (fun body => .lambda ⟨start, body.mark.stop⟩ param body) (fun _ _ => rfl) hnested
  constructor
  case takes =>
    rintro ls e rest ⟨⟨start, param, after⟩, hhead⟩ h
    obtain ⟨parameter, arrow, rfl, -⟩ := lambdaHead?_eq_some hhead
    rw [expression_of_lambda hhead] at h
    have hafter : rest <:+ after := (hbody start param).takes trivial h
    exact hafter.trans ⟨parameter ++ [⟨.symbol .arrow, arrow⟩], by simp⟩
  case settles =>
    rintro front l after kept e ⟨⟨start, param, rest⟩, hhead⟩ h after'
    obtain ⟨parameter, arrow, hls, -, hhead', -⟩ := lambdaHead?_eq_some hhead
    rw [expression_of_lambda hhead] at h
    obtain ⟨more, rfl⟩ := (hbody start param).takes trivial h
    -- the lexeme comes after the head, since the body leaves it
    obtain rfl : front = parameter ++ ⟨.symbol .arrow, arrow⟩ :: (more ++ kept) := by
      have hls' : front ++ l :: after =
          (parameter ++ ⟨.symbol .arrow, arrow⟩ :: (more ++ kept)) ++ l :: after := by
        simpa using hls
      exact List.append_cancel_right hls'
    rw [List.append_assoc, List.cons_append, expression_of_lambda (hhead' _)]
    rw [← List.append_assoc] at h
    exact (hbody start param).settles trivial h after'
  case stuck =>
    rintro ls e ⟨⟨start, param, after⟩, hhead⟩ h hfound
    obtain ⟨parameter, arrow, rfl, -, hhead', hderives⟩ := lambdaHead?_eq_some hhead
    rw [expression_of_lambda hhead] at h
    obtain ⟨before, rest, rfl, hstuck⟩ := (hbody start param).stuck trivial h hfound
    obtain ⟨more, x, hx⟩ := hstuck.begins
    obtain ⟨lambda, hlambda⟩ := hderives hx
    refine ⟨parameter ++ ⟨.symbol .arrow, arrow⟩ :: before, rest, by simp, hstuck.found,
      hstuck.span, ⟨more, lambda, by simpa using hlambda⟩, fun l after hrest after' => ?_⟩
    subst hrest
    rw [List.append_assoc, List.cons_append, expression_of_lambda (hhead' _)]
    exact hstuck.refused l after rfl after'

theorem plain_prompt (h : Prompt σ (conditional σ (nested σ d) (operand σ d))
      (Begins (Derives d .conditional))) :
    PromptOn (fun ls => lambdaHead? ls = none) σ (expression σ (nested σ d) (operand σ d))
      (Begins (Derives (d + 1) .expression)) := by
  constructor
  case takes =>
    intro ls e rest hhead hp
    rw [expression_of_none hhead] at hp
    exact h.takes trivial hp
  case settles =>
    intro front l after kept e hhead hp after'
    rw [expression_of_none hhead] at hp
    rw [expression_of_none ((StopsAt.of_ok h hp).lambdaHead?_eq_none hhead after')]
    exact h.settles trivial hp after'
  case stuck =>
    intro ls e hhead hp hfound
    rw [expression_of_none hhead] at hp
    obtain ⟨before, rest, rfl, hstuck⟩ := h.stuck trivial hp hfound
    refine ⟨before, rest, rfl, hstuck.found, hstuck.span, hstuck.begins.imp .plain,
      fun l after hrest after' => ?_⟩
    subst hrest
    rw [expression_of_none ((StopsAt.of_stuck hstuck).lambdaHead?_eq_none hhead after')]
    exact hstuck.refused l after rfl after'

theorem expression_prompt (hnested : Prompt σ (nested σ d) (Begins (Derives d .expression)))
    (hconditional : Prompt σ (conditional σ (nested σ d) (operand σ d))
      (Begins (Derives d .conditional))) :
    Prompt σ (expression σ (nested σ d) (operand σ d)) (Begins (Derives (d + 1) .expression)) := by
  refine .cases (fun ls _ => ?_) (lambda_prompt hnested) (plain_prompt hconditional)
  cases hhead : lambdaHead? ls with
  | some head => exact .inl ⟨head, rfl⟩
  | none => exact .inr rfl

/-- The two recursive productions, by induction on the depth that is left. -/
theorem nested_operand_prompt (σ : Setting) (d : Nat) :
    Prompt σ (nested σ d) (Begins (Derives d .expression)) ∧
      Prompt σ (operand σ d) (Begins fun used e => ∃ k, d = k + 1 ∧ Derives k .operand used e) := by
  induction d with
  | zero =>
    refine ⟨.silent fun ls _ => ⟨⟨.tooDeep σ.limit, σ.here ls⟩, ?_, rfl⟩,
      .silent fun ls _ => ⟨⟨.tooDeep σ.limit, σ.here ls⟩, ?_, rfl⟩⟩
    · rw [nested]
      rfl
    · rw [operand]
      rfl
  | succ d ih =>
    obtain ⟨hnested, hoperand⟩ := ih
    obtain ⟨hreads, hoperandReads⟩ := nested_operand_reads σ d
    have hconditional := conditional_prompt hreads hoperandReads hnested hoperand
    constructor
    · have hnext : nested σ (d + 1) = expression σ (nested σ d) (operand σ d) := by
        funext ls
        rw [nested]
      rw [hnext]
      exact expression_prompt hnested hconditional
    · have hnext : operand σ (d + 1) = unary σ (nested σ d) (operand σ d) := by
        funext ls
        rw [operand]
      rw [hnext]
      exact (unary_prompt hreads hnested hoperand).mono
        fun ls hls => hls.imp fun he => ⟨d, rfl, he⟩

/-! ## Whole inputs -/

/-- The lexemes are an expression, however deep it nests. -/
def IsExpression (ls : List Lexeme) (e : RawExpr) : Prop :=
  ∃ d, Derives d .expression ls e

/-- No expression goes on with a lexeme that the parser stops at, with whatever depth is left. -/
theorem StopsAt.not_begins {depth : Nat} {before : List Lexeme} {l : Lexeme}
    (h : StopsAt (nested σ depth) before l) : ¬ Begins IsExpression (before ++ [l]) := by
  rintro ⟨more, e, d, he⟩
  have hderives : Derives (max d depth) .expression (before ++ l :: more) e := by
    simpa using he.mono (Nat.le_max_left d depth)
  have hwhole := (nested_operand_complete σ (max d depth)).1 _ _ [] hderives .nil
  rw [List.append_nil] at hwhole
  -- with less depth the parser gives the same, or says that there is too little
  have hcuts : Cuts σ.limit (nested σ depth) (nested σ (max d depth)) :=
    (nested_operand_cuts σ.stop (Nat.le_max_right d depth)).1
  obtain hsame | ⟨span, hdeep⟩ := hcuts (before ++ l :: more)
  · exact h.ne_ok (hsame.trans hwhole)
  · exact h.found_ne_none hdeep rfl

/-- The lexemes `before` are the beginning of an expression and, with `l` after them, no longer. -/
structure BreaksAt (ls before : List Lexeme) (l : Lexeme) (after : List Lexeme) : Prop where
  split : ls = before ++ l :: after
  begins : Begins IsExpression before
  breaks : ¬ Begins IsExpression (before ++ [l])

/-- There is at most one lexeme where the input breaks off. -/
theorem BreaksAt.unique {ls before before' after after' : List Lexeme} {l l' : Lexeme}
    (h : BreaksAt ls before l after) (h' : BreaksAt ls before' l' after') :
    before = before' ∧ l = l' ∧ after = after' := by
  have hlonger : ∀ {front back l l'}, Begins IsExpression (front ++ l :: back) →
      ¬ Begins IsExpression (front ++ [l']) → l ≠ l' := by
    rintro front back l l' ⟨more, e, he⟩ hno rfl
    exact hno ⟨back ++ more, e, by simpa using he⟩
  rcases List.append_eq_append_iff.mp (h.split.symm.trans h'.split) with
    ⟨_ | ⟨next, more⟩, rfl, heq⟩ | ⟨_ | ⟨next, more⟩, rfl, heq⟩
  · exact ⟨(List.append_nil _).symm, List.cons.inj heq⟩
  · exact absurd (List.cons.inj heq).1.symm (hlonger h'.begins h.breaks)
  · obtain ⟨hl, hafter⟩ := List.cons.inj heq
    exact ⟨List.append_nil _, hl.symm, hafter.symm⟩
  · exact absurd (List.cons.inj heq).1.symm (hlonger h.begins h'.breaks)

theorem Begins.isExpression {ls : List Lexeme} (h : Begins (Derives d .expression) ls) :
    Begins IsExpression ls :=
  h.imp fun he => ⟨d, he⟩

/-- An error that speaks of a lexeme, from within an expression. -/
theorem nested_error_breaks {depth : Nat} {ls : List Lexeme} {e : SyntaxError} {t : Token}
    (h : nested σ depth ls = .error e) (hfound : e.fault.found? = some (some t)) :
    ∃ before l after, BreaksAt ls before l after ∧ l.token = t ∧
      e.span = σ.here ((l :: after).drop e.fault.lag) := by
  obtain ⟨before, rest, hls, hstuck⟩ :=
    (nested_operand_prompt σ depth).1.stuck trivial h (by simp [hfound])
  have hnext : some (some t) = some (nextToken? rest) := hfound.symm.trans hstuck.found
  cases rest with
  | nil => cases hnext
  | cons l after =>
    have ht : t = l.token := Option.some.inj (Option.some.inj hnext)
    exact ⟨before, l, after,
      ⟨hls, hstuck.begins.isExpression, (StopsAt.of_stuck hstuck).not_begins⟩, ht.symm, hstuck.span⟩

/-- An error that speaks of the end, from within an expression. -/
theorem nested_error_atEnd {depth : Nat} {ls : List Lexeme} {e : SyntaxError}
    (h : nested σ depth ls = .error e) (hfound : e.fault.found? = some none) :
    Begins IsExpression ls ∧ e.span = ⟨σ.stop, σ.stop⟩ := by
  obtain ⟨before, rest, rfl, hstuck⟩ :=
    (nested_operand_prompt σ depth).1.stuck trivial h (by simp [hfound])
  have hnext : some none = some (nextToken? rest) := hfound.symm.trans hstuck.found
  cases rest with
  | nil =>
    have hspan := hstuck.span
    rw [List.drop_nil] at hspan
    rw [List.append_nil]
    exact ⟨hstuck.begins.isExpression, hspan⟩
  | cons l after => cases hnext

/-- What is left over after an expression does not belong to one. -/
theorem nested_left_over_breaks {depth : Nat} {ls rest : List Lexeme} {tree : RawExpr} {l : Lexeme}
    (h : nested σ depth ls = .ok (tree, l :: rest)) : ∃ before, BreaksAt ls before l rest := by
  obtain ⟨used, rfl, hused⟩ := (nested_operand_reads σ depth).1 _ _ _ h
  have hkept : nested σ depth (used ++ l :: rest) = .ok (tree, [] ++ l :: rest) := h
  exact ⟨used, rfl, (Begins.whole hused).isExpression,
    (StopsAt.of_ok (nested_operand_prompt σ depth).1 hkept).not_begins⟩

/-- The range that an error is reported at is that of the lexeme it speaks of, except where a member
name is missing: there it is that of the lexeme after. -/
theorem here_drop_lag {fault : SyntaxFault} {t : Token} {l : Lexeme} {after : List Lexeme} :
    (fault ≠ .expectedMemberName (some t) → fault.found? = some (some t) →
      σ.here ((l :: after).drop fault.lag) = l.span) ∧
    (fault = .expectedMemberName (some t) → σ.here ((l :: after).drop fault.lag) =
      (after.head?.map Lexeme.span).getD ⟨σ.stop, σ.stop⟩) := by
  constructor
  · intro hne hfound
    cases fault with
    | expectedMemberName found =>
      obtain rfl := Option.some.inj hfound
      exact absurd rfl hne
    | _ => rfl
  · rintro rfl
    cases after <;> rfl

/-- Errors that speak of the next lexeme are reported at the first one with which the input is no
longer the beginning of an expression, those for a missing member name one lexeme behind it. Where
the input ends too early they are reported at its end. -/
theorem errors_at_offending_token (maxDepth : Nat) (input : List Lexeme) (e : SyntaxError)
    (h : e ∈ (parseLexemes maxDepth input).errors) :
    let ls := dropTrailingSemicolons input
    (∀ t, e.fault.found? = some (some t) → ∃ before l after,
      BreaksAt ls before l after ∧ l.token = t ∧
      (∃ left right, e.message = left ++ quoted t.text ++ right) ∧
      (e.fault ≠ .expectedMemberName (some t) → e.span = l.span) ∧
      (e.fault = .expectedMemberName (some t) → ∃ last, ls.getLast? = some last ∧
        e.span = (after.head?.map Lexeme.span).getD ⟨last.span.stop, last.span.stop⟩)) ∧
    (e.fault.found? = some none → Begins IsExpression ls ∧ ∃ last, ls.getLast? = some last ∧
      e.span = ⟨last.span.stop, last.span.stop⟩) := by
  intro ls
  rw [parseLexemes_eq] at h
  split at h
  · -- nothing but semicolons
    obtain rfl := List.mem_singleton.mp h
    exact ⟨nofun, nofun⟩
  rename_i last hlast
  split at h
  · -- from within the expression
    rename_i e' herror
    obtain rfl := List.mem_singleton.mp h
    refine ⟨fun t hfound => ?_, fun hfound => ?_⟩
    · obtain ⟨before, l, after, hbreaks, ht, hspan⟩ := nested_error_breaks herror hfound
      refine ⟨before, l, after, hbreaks, ht, SyntaxFault.message_of_found hfound, fun hne => ?_,
        fun hmember => ⟨last, hlast, ?_⟩⟩
      · rw [hspan, here_drop_lag.1 hne hfound]
      · rw [hspan, here_drop_lag.2 hmember]
    · obtain ⟨hbegins, hspan⟩ := nested_error_atEnd herror hfound
      exact ⟨hbegins, last, hlast, hspan⟩
  · -- for what is left over after it, unless that is a semicolon
    rename_i tree next rest hok
    obtain rfl := List.mem_singleton.mp h
    obtain ⟨before, hbreaks⟩ := nested_left_over_breaks hok
    unfold trailingFault
    split
    · exact ⟨nofun, nofun⟩
    · refine ⟨fun t hfound => ⟨before, next, rest, hbreaks, ?_⟩, nofun⟩
      exact ⟨Option.some.inj (Option.some.inj hfound), SyntaxFault.message_of_found hfound,
        fun _ => rfl, nofun⟩
  · rename_i tree hok
    split at h
    · -- the tree is too high
      obtain rfl := List.mem_singleton.mp h
      exact ⟨nofun, nofun⟩
    · cases h

/-- In `a + *` the star is refused, and `a +` ends too early. -/
theorem errors_at_offending_token_sum :
    let sum : List Lexeme := [⟨.ident "a", ⟨0, 1⟩⟩, ⟨.symbol .plus, ⟨2, 3⟩⟩]
    let star : Lexeme := ⟨.symbol .star, ⟨4, 5⟩⟩
    (⟨.unexpectedToken (.symbol .star), ⟨4, 5⟩⟩ ∈ (parseLexemes 64 (sum ++ [star])).errors ∧
      ∃ before l after, BreaksAt (sum ++ [star]) before l after ∧ l.token = .symbol .star ∧
        (⟨4, 5⟩ : Span) = l.span) ∧
    (⟨.unexpectedEnd, ⟨3, 3⟩⟩ ∈ (parseLexemes 64 sum).errors ∧ Begins IsExpression sum) := by
  intro sum star
  have hstar : ⟨.unexpectedToken (.symbol .star), ⟨4, 5⟩⟩ ∈
      (parseLexemes 64 (sum ++ [star])).errors := List.mem_singleton.mpr rfl
  have hend : ⟨.unexpectedEnd, ⟨3, 3⟩⟩ ∈ (parseLexemes 64 sum).errors :=
    List.mem_singleton.mpr rfl
  obtain ⟨hbreaks, -⟩ := errors_at_offending_token 64 (sum ++ [star]) _ hstar
  obtain ⟨before, l, after, hat, ht, -, hspan, -⟩ := hbreaks (.symbol .star) rfl
  obtain ⟨-, hbegins⟩ := errors_at_offending_token 64 sum _ hend
  exact ⟨⟨hstar, before, l, after, hat, ht, hspan nofun⟩, hend, (hbegins rfl).1⟩

/-- In `a.1 + 2` the error says that `1` was found instead of a name, but it is reported at the plus
sign. -/
theorem member_name_error_behind :
    let input : List Lexeme := [⟨.ident "a", ⟨0, 1⟩⟩, ⟨.symbol .dot, ⟨1, 2⟩⟩,
      ⟨.literal (.int 1), ⟨2, 3⟩⟩, ⟨.symbol .plus, ⟨4, 5⟩⟩, ⟨.literal (.int 2), ⟨6, 7⟩⟩]
    let e : SyntaxError := ⟨.expectedMemberName (some (.literal (.int 1))), ⟨4, 5⟩⟩
    (parseLexemes 64 input).errors = [e] ∧
      e.message = "expected member name after '.', found '1'" ∧
      ∀ l ∈ input, l.token = .literal (.int 1) → e.span ≠ l.span := by
  intro input e
  refine ⟨rfl, by decide, ?_⟩
  simp [input, e]

end GatedPredicate.Syntax
