import GatedPredicate.Proofs.Syntax.Completeness
import Mathlib.Data.List.Induction

/-!
# The parser and its grammar

The parser accepts exactly the phrases of its grammar, and a phrase has one tree. The second half
needs no argument about the grammar: both trees are what the parser makes of the phrase, which it
reads to one end. It only remains to bring two derivations to the same depth and the same ranges.

- `Expr.relabel`, `Expr.shape`: trees with other marks and with none
- `Derives.mono`, `Derives.bare`: more depth and other ranges derive the same
- `derivesInput_iff`: semicolons at the end
- `parseLexemes_exact`: acceptance and uniqueness
-/

namespace GatedPredicate.Syntax

variable {α β γ : Type}

/-! ## Marks -/

mutual

/-- The tree with other marks. -/
def Expr.relabel (f : α → β) : Expr α → Expr β
  | .literal m value => .literal (f m) value
  | .ident m name => .ident (f m) name
  | .member m target name => .member (f m) (target.relabel f) name
  | .call m callee args => .call (f m) (callee.relabel f) (relabelAll f args)
  | .index m target position => .index (f m) (target.relabel f) (position.relabel f)
  | .unary m op operand => .unary (f m) op (operand.relabel f)
  | .binary m op left right => .binary (f m) op (left.relabel f) (right.relabel f)
  | .conditional m cond onTrue onFalse =>
    .conditional (f m) (cond.relabel f) (onTrue.relabel f) (onFalse.relabel f)
  | .array m items => .array (f m) (relabelAll f items)
  | .lambda m param body => .lambda (f m) param (body.relabel f)
  | .typeOf m name => .typeOf (f m) name

/-- The trees with other marks. -/
def relabelAll (f : α → β) : List (Expr α) → List (Expr β)
  | [] => []
  | e :: rest => e.relabel f :: relabelAll f rest

end

/-- The tree without its marks. -/
def Expr.shape (e : Expr α) : Expr Unit :=
  e.relabel fun _ => ()

theorem relabelAll_eq_map (f : α → β) (es : List (Expr α)) :
    relabelAll f es = es.map (Expr.relabel f) := by
  induction es with
  | nil => rfl
  | cons e rest ih => rw [relabelAll, ih, List.map_cons]

theorem Expr.mark_relabel (f : α → β) (e : Expr α) : (e.relabel f).mark = f e.mark := by
  cases e <;> rfl

mutual

theorem Expr.relabel_relabel (f : α → β) (g : β → γ) :
    ∀ e : Expr α, (e.relabel f).relabel g = e.relabel (g ∘ f)
  | .literal _ _ | .ident _ _ | .typeOf _ _ => rfl
  | .member _ target _ => by simp [Expr.relabel, target.relabel_relabel f g]
  | .call _ callee args => by
    simp [Expr.relabel, callee.relabel_relabel f g, relabelAll_relabelAll f g args]
  | .index _ target position => by
    simp [Expr.relabel, target.relabel_relabel f g, position.relabel_relabel f g]
  | .unary _ _ operand => by simp [Expr.relabel, operand.relabel_relabel f g]
  | .binary _ _ left right => by
    simp [Expr.relabel, left.relabel_relabel f g, right.relabel_relabel f g]
  | .conditional _ cond onTrue onFalse => by
    simp [Expr.relabel, cond.relabel_relabel f g, onTrue.relabel_relabel f g,
      onFalse.relabel_relabel f g]
  | .array _ items => by simp [Expr.relabel, relabelAll_relabelAll f g items]
  | .lambda _ _ body => by simp [Expr.relabel, body.relabel_relabel f g]

theorem relabelAll_relabelAll (f : α → β) (g : β → γ) :
    ∀ es : List (Expr α), relabelAll g (relabelAll f es) = relabelAll (g ∘ f) es
  | [] => rfl
  | e :: rest => by
    simp [relabelAll, e.relabel_relabel f g, relabelAll_relabelAll f g rest]

end

theorem Expr.shape_relabel (f : α → β) (e : Expr α) : (e.relabel f).shape = e.shape :=
  e.relabel_relabel f fun _ => ()

/-! ## Depth -/

mutual

/-- A phrase may also be read with more depth to spare. -/
theorem Derives.mono {d d' : Nat} {form : Form} {ls : List Lexeme} {e : RawExpr}
    (h : Derives d form ls e) (hle : d ≤ d') : Derives d' form ls e := by
  match h with
  -- what nests takes one level, on both sides
  | .lambda hbody =>
    obtain ⟨k, rfl⟩ : ∃ k, d' = k + 1 := Nat.exists_eq_add_one.mpr (by omega)
    exact .lambda (hbody.mono (Nat.le_of_succ_le_succ hle))
  | .parenLambda hbody =>
    obtain ⟨k, rfl⟩ : ∃ k, d' = k + 1 := Nat.exists_eq_add_one.mpr (by omega)
    exact .parenLambda (hbody.mono (Nat.le_of_succ_le_succ hle))
  | .plain he =>
    obtain ⟨k, rfl⟩ : ∃ k, d' = k + 1 := Nat.exists_eq_add_one.mpr (by omega)
    exact .plain (he.mono (Nat.le_of_succ_le_succ hle))
  | .unary hop he =>
    obtain ⟨k, rfl⟩ : ∃ k, d' = k + 1 := Nat.exists_eq_add_one.mpr (by omega)
    exact .unary hop (he.mono (Nat.le_of_succ_le_succ hle))
  | .conditional hcond htrue hfalse =>
    exact .conditional (hcond.mono hle) (htrue.mono hle) (hfalse.mono hle)
  | .unconditional he => exact .unconditional (he.mono hle)
  | .binary hleft hop hright => exact .binary (hleft.mono hle) hop (hright.mono hle)
  | .tighter he => exact .tighter (he.mono hle)
  | .single he => exact .single (he.mono hle)
  | .unprefixed he => exact .unprefixed (he.mono hle)
  | .call htarget hargs => exact .call (htarget.mono hle) (hargs.mono hle)
  | .index htarget hposition => exact .index (htarget.mono hle) (hposition.mono hle)
  | .member htarget => exact .member (htarget.mono hle)
  | .atomic he => exact .atomic (he.mono hle)
  | .literal => exact .literal
  | .ident => exact .ident
  | .typeOf hname => exact .typeOf hname
  | .newArray hitems => exact .newArray (hitems.mono hle)
  | .array hitems => exact .array (hitems.mono hle)
  | .parens he => exact .parens (he.mono hle)

theorem DerivesItems.mono {d d' : Nat} {ls : List Lexeme} {items : List RawExpr}
    (h : DerivesItems d ls items) (hle : d ≤ d') : DerivesItems d' ls items := by
  match h with
  | .one he => exact .one (he.mono hle)
  | .more hitems he => exact .more (hitems.mono hle) (he.mono hle)

theorem DerivesList.mono {d d' : Nat} {ls : List Lexeme} {items : List RawExpr}
    (h : DerivesList d ls items) (hle : d ≤ d') : DerivesList d' ls items := by
  match h with
  | .nil => exact .nil
  | .items hitems => exact .items (hitems.mono hle)
  | .trailing hitems => exact .trailing (hitems.mono hle)

end

/-! ## Ranges -/

/-- A range that tells nothing. -/
def Span.nowhere : Span := ⟨0, 0⟩

/-- The lexemes with nothing told of where they stand. -/
def bareAll (ls : List Lexeme) : List Lexeme :=
  ls.map fun l => ⟨l.token, Span.nowhere⟩

/-- The tree with nothing told of where its nodes stand. -/
def Expr.bare (e : RawExpr) : RawExpr :=
  e.relabel fun _ => Span.nowhere

@[simp]
theorem bareAll_nil : bareAll [] = [] := rfl

@[simp]
theorem bareAll_cons (l : Lexeme) (ls : List Lexeme) :
    bareAll (l :: ls) = ⟨l.token, Span.nowhere⟩ :: bareAll ls := rfl

@[simp]
theorem bareAll_append (xs ys : List Lexeme) : bareAll (xs ++ ys) = bareAll xs ++ bareAll ys :=
  List.map_append

theorem bareAll_congr {xs ys : List Lexeme} (h : xs.map Lexeme.token = ys.map Lexeme.token) :
    bareAll xs = bareAll ys := by
  have hbare : ∀ ls : List Lexeme,
      bareAll ls = (ls.map Lexeme.token).map fun t => ⟨t, Span.nowhere⟩ := by
    intro ls
    rw [List.map_map]
    rfl
  rw [hbare, hbare, h]

theorem DottedName.bare {ls : List Lexeme} {name : String} (h : DottedName ls name) :
    DottedName (bareAll ls) name := by
  induction h with
  | one => exact .one
  | more _ ih =>
    rw [bareAll_append]
    exact .more ih

mutual

/-- Where the lexemes stand does not matter to what is derived. -/
theorem Derives.bare {d : Nat} {form : Form} {ls : List Lexeme} {e : RawExpr}
    (h : Derives d form ls e) : Derives d form (bareAll ls) e.bare := by
  match h with
  | .lambda hbody =>
    simpa [Expr.bare, Expr.relabel, Expr.mark_relabel] using Derives.lambda hbody.bare
  | .parenLambda hbody =>
    simpa [Expr.bare, Expr.relabel, Expr.mark_relabel] using Derives.parenLambda hbody.bare
  | .plain he => exact .plain he.bare
  | .conditional hcond htrue hfalse =>
    simpa [Expr.bare, Expr.relabel, Expr.mark_relabel] using
      Derives.conditional hcond.bare htrue.bare hfalse.bare
  | .unconditional he => exact .unconditional he.bare
  | .binary hleft hop hright =>
    simpa [Expr.bare, Expr.relabel, Expr.mark_relabel] using
      Derives.binary hleft.bare hop hright.bare
  | .tighter he => exact .tighter he.bare
  | .single he => exact .single he.bare
  | .unary hop he =>
    simpa [Expr.bare, Expr.relabel, Expr.mark_relabel] using Derives.unary hop he.bare
  | .unprefixed he => exact .unprefixed he.bare
  | .call htarget hargs =>
    simpa [Expr.bare, Expr.relabel, Expr.mark_relabel] using Derives.call htarget.bare hargs.bare
  | .index htarget hposition =>
    simpa [Expr.bare, Expr.relabel, Expr.mark_relabel] using
      Derives.index htarget.bare hposition.bare
  | .member htarget =>
    simpa [Expr.bare, Expr.relabel, Expr.mark_relabel] using Derives.member htarget.bare
  | .atomic he => exact .atomic he.bare
  | .literal => exact .literal
  | .ident => exact .ident
  | .typeOf hname =>
    simpa [Expr.bare, Expr.relabel, Expr.mark_relabel] using Derives.typeOf hname.bare
  | .newArray hitems =>
    simpa [Expr.bare, Expr.relabel, Expr.mark_relabel] using Derives.newArray hitems.bare
  | .array hitems =>
    simpa [Expr.bare, Expr.relabel, Expr.mark_relabel] using Derives.array hitems.bare
  | .parens he => simpa using Derives.parens he.bare

theorem DerivesItems.bare {d : Nat} {ls : List Lexeme} {items : List RawExpr}
    (h : DerivesItems d ls items) :
    DerivesItems d (bareAll ls) (relabelAll (fun _ => Span.nowhere) items) := by
  match h with
  | .one he => exact .one he.bare
  | .more hitems he =>
    simpa [relabelAll_eq_map, Expr.bare] using DerivesItems.more hitems.bare he.bare

theorem DerivesList.bare {d : Nat} {ls : List Lexeme} {items : List RawExpr}
    (h : DerivesList d ls items) :
    DerivesList d (bareAll ls) (relabelAll (fun _ => Span.nowhere) items) := by
  match h with
  | .nil => exact .nil
  | .items hitems => exact .items hitems.bare
  | .trailing hitems => simpa using DerivesList.trailing hitems.bare

end

/-! ## One tree for a phrase -/

/-- A phrase has one tree, whatever the depth and wherever its lexemes stand. -/
theorem Derives.shape_eq {d d' : Nat} {ls ls' : List Lexeme} {e e' : RawExpr}
    (h : Derives d .expression ls e) (h' : Derives d' .expression ls' e')
    (htokens : ls.map Lexeme.token = ls'.map Lexeme.token) : e.shape = e'.shape := by
  have hleft : Derives (max d d') .expression (bareAll ls) e.bare :=
    h.bare.mono (Nat.le_max_left d d')
  have hright : Derives (max d d') .expression (bareAll ls) e'.bare := by
    rw [bareAll_congr htokens]
    exact h'.bare.mono (Nat.le_max_right d d')
  -- the parser takes the whole phrase and gives it either tree
  have hcomplete := (nested_operand_complete ⟨0, 0⟩ (max d d')).1
  have hparsed : Except.ok (e.bare, []) = Except.ok (e'.bare, []) :=
    (hcomplete _ _ [] hleft .nil).symm.trans (hcomplete _ _ [] hright .nil)
  have hbare : e.bare = e'.bare := (Prod.mk.inj (Except.ok.inj hparsed)).1
  calc e.shape = e.bare.shape := (e.shape_relabel _).symm
    _ = e'.bare.shape := by rw [hbare]
    _ = e'.shape := e'.shape_relabel _

/-! ## Semicolons at the end -/

/-- No phrase ends in a semicolon. -/
theorem Derives.ends {d : Nat} {form : Form} {ls : List Lexeme} {e : RawExpr}
    (h : Derives d form ls e) :
    ∃ l, ls.getLast? = some l ∧ l.token.isSymbol .semicolon = false := by
  match h with
  | .literal | .ident => exact ⟨_, rfl, rfl⟩
  -- what closes a phrase stands at its end, as the name of a member does
  | .typeOf _ | .newArray _ | .array _ | .parens _ | .call _ _ | .index _ _ =>
    exact ⟨_, List.getLast?_concat, rfl⟩
  | .member _ => exact ⟨_, by rw [List.getLast?_append]; rfl, rfl⟩
  -- a phrase that stops with another phrase ends as that one does
  | .lambda he | .parenLambda he | .unary _ he | .conditional _ _ he | .binary _ _ he =>
    obtain ⟨l, hlast, hl⟩ := he.ends
    exact ⟨l, by simp [List.getLast?_append, List.getLast?_cons, hlast], hl⟩
  | .plain he | .unconditional he | .tighter he | .single he | .unprefixed he | .atomic he =>
    exact he.ends

theorem dropTrailingSemicolons_concat (ls : List Lexeme) (l : Lexeme) :
    dropTrailingSemicolons (ls ++ [l]) =
      if l.token.isSymbol .semicolon then dropTrailingSemicolons ls else ls ++ [l] := by
  simp only [dropTrailingSemicolons, List.reverse_append, List.reverse_singleton,
    List.singleton_append, List.dropWhile_cons]
  split
  · rfl
  · simp

/-- The end of an input in the grammar is where the parser has it. -/
theorem derivesInput_iff {d : Nat} {ls : List Lexeme} {e : RawExpr} :
    DerivesInput d ls e ↔ Derives d .expression (dropTrailingSemicolons ls) e := by
  constructor
  · intro h
    induction h with
    | expression he =>
      obtain ⟨l, hlast, hl⟩ := he.ends
      obtain ⟨front, rfl⟩ := List.getLast?_eq_some_iff.mp hlast
      rwa [dropTrailingSemicolons_concat, if_neg (by simp [hl])]
    | semicolon _ ih =>
      rw [dropTrailingSemicolons_concat]
      exact ih
  · intro h
    induction ls using List.reverseRecOn with
    | nil => exact .expression h
    | append_singleton ls l ih =>
      rw [dropTrailingSemicolons_concat] at h
      split at h
      · rename_i hl
        have hnext : nextIs .semicolon [l] = true := hl
        obtain ⟨span, more, heq⟩ := nextIs_eq_true hnext
        obtain ⟨rfl, -⟩ := List.cons.inj heq
        exact .semicolon (ih h)
      · exact .expression h

/-! ## Whole inputs -/

/-- A phrase that fills the input is its tree, unless that is too high. -/
theorem parseLexemes_of_derives {maxDepth : Nat} {input : List Lexeme} {e : RawExpr}
    (h : Derives maxDepth .expression (dropTrailingSemicolons input) e) :
    parseLexemes maxDepth input =
      if maxDepth < e.height then .flawed e.number ⟨.tooDeep maxDepth, e.mark⟩
      else .complete e.number := by
  cases hlast : (dropTrailingSemicolons input).getLast? with
  | none =>
    obtain ⟨l, rest, hls, -⟩ := h.begins
    rw [hls] at hlast
    simp at hlast
  | some last =>
    have hnested := (nested_operand_complete ⟨last.span.stop, maxDepth⟩ maxDepth).1 _ _ [] h .nil
    rw [List.append_nil] at hnested
    rw [parseLexemes_eq, hlast]
    dsimp only
    rw [hnested]

/-- A tree is accepted for exactly the inputs that the grammar derives it from within the depth. No
list of tokens is derived with two different trees. -/
theorem parseLexemes_exact :
    (∀ (maxDepth : Nat) (input : List Lexeme) (tree : Expr Mark),
      parseLexemes maxDepth input = .complete tree ↔
        ∃ e : RawExpr, tree = e.number ∧ e.height ≤ maxDepth ∧ DerivesInput maxDepth input e) ∧
    ∀ (d d' : Nat) (ls ls' : List Lexeme) (e e' : RawExpr),
      ls.map Lexeme.token = ls'.map Lexeme.token →
        Derives d .expression ls e → Derives d' .expression ls' e' → e.shape = e'.shape := by
  constructor
  · intro maxDepth input tree
    constructor
    · intro h
      obtain ⟨e, rfl, he⟩ := derives_of_parseLexemes h
      rw [parseLexemes_of_derives he] at h
      split at h
      · cases h
      · exact ⟨e, rfl, by omega, derivesInput_iff.mpr he⟩
    · rintro ⟨e, rfl, hheight, he⟩
      rw [parseLexemes_of_derives (derivesInput_iff.mp he), if_neg (by omega)]
  · intro d d' ls ls' e e' htokens h h'
    exact h.shape_eq h' htokens

/-- The tokens of `-x` at two places, followed by a semicolon at the first. -/
theorem parseLexemes_exact_negated :
    (∃ tree, parseLexemes 2 [⟨.symbol .minus, ⟨0, 1⟩⟩, ⟨.ident "x", ⟨1, 2⟩⟩,
      ⟨.symbol .semicolon, ⟨2, 3⟩⟩] = .complete tree) ∧
    (Expr.unary (⟨0, 2⟩ : Span) .neg (.ident ⟨1, 2⟩ "x")).shape =
      (Expr.unary (⟨4, 7⟩ : Span) .neg (.ident ⟨6, 7⟩ "x")).shape := by
  have hname : ∀ d span, Derives d .operand [⟨.ident "x", span⟩] (.ident span "x") :=
    fun _ _ => .unprefixed (.atomic .ident)
  have hnegated : ∀ minus span : Span, Derives 2 .expression
      [⟨.symbol .minus, minus⟩, ⟨.ident "x", span⟩]
      (.unary ⟨minus.start, span.stop⟩ .neg (.ident span "x")) := fun minus span =>
    .plain <| .unconditional <| .tighter <| .tighter <| .tighter <| .tighter <| .tighter <|
      .tighter <| .single <| .unary (by decide) (hname 0 span)
  constructor
  · have hderives := hnegated ⟨0, 1⟩ ⟨1, 2⟩
    exact ⟨_, (parseLexemes_exact.1 2 _ _).2
      ⟨_, rfl, by decide, .semicolon (.expression hderives)⟩⟩
  · exact parseLexemes_exact.2 2 2 _ _ _ _ (by rfl) (hnegated ⟨0, 1⟩ ⟨1, 2⟩)
      (hnegated ⟨4, 5⟩ ⟨6, 7⟩)

end GatedPredicate.Syntax
