import GatedPredicate.Proofs.Syntax.Soundness
import Mathlib.Data.List.TakeWhile

/-!
# What a text mentions

A policy looks at names and at the keyword `typeof`. Both can be read off the lexemes of a text and
off its tree, and the two readings agree, order included: the parser keeps every mention that it
reads and makes up none.

The one place where this needs an argument is the operand of `typeof`, which the tree holds as one
dotted text: it falls apart into the names it was read from because no name holds a dot.

- `Mention`, `mentionsIn`, `Expr.mentions`: the two readings
- `Derives.mentions`: they agree on phrases
- `mentions_of_parse`: they agree on whole texts
-/

namespace GatedPredicate.Syntax

open GatedPredicate.Text

variable {α : Type}

/-- Something that a policy looks at. -/
inductive Mention where
  | name (n : String)
  | typeOf
deriving DecidableEq

/-! ## The two readings -/

/-- The mention that a token is, if it is one. -/
def Token.mentions : Token → List Mention
  | .ident n => [.name n]
  | .typeOf => [.typeOf]
  | _ => []

/-- The mentions in a list of lexemes, in order. -/
def mentionsIn (ls : List Lexeme) : List Mention :=
  ls.flatMap fun l => l.token.mentions

@[simp]
theorem mentionsIn_nil : mentionsIn [] = [] := rfl

@[simp]
theorem mentionsIn_cons (l : Lexeme) (ls : List Lexeme) :
    mentionsIn (l :: ls) = l.token.mentions ++ mentionsIn ls := rfl

@[simp]
theorem mentionsIn_append (xs ys : List Lexeme) :
    mentionsIn (xs ++ ys) = mentionsIn xs ++ mentionsIn ys :=
  List.flatMap_append

theorem mem_mentionsIn {m : Mention} {ls : List Lexeme} :
    m ∈ mentionsIn ls ↔ ∃ l ∈ ls, m ∈ l.token.mentions :=
  List.mem_flatMap

mutual

/-- The mentions in a tree, in the order of its text. -/
def Expr.mentions : Expr α → List Mention
  | .literal _ _ => []
  | .ident _ name => [.name name]
  | .member _ target name => target.mentions ++ [.name name]
  | .call _ callee args => callee.mentions ++ mentionsAll args
  | .index _ target position => target.mentions ++ position.mentions
  | .unary _ _ operand => operand.mentions
  | .binary _ _ left right => left.mentions ++ right.mentions
  | .conditional _ cond onTrue onFalse => cond.mentions ++ onTrue.mentions ++ onFalse.mentions
  | .array _ items => mentionsAll items
  | .lambda _ param body => .name param :: body.mentions
  | .typeOf _ name => .typeOf :: (segments name).map .name

/-- The mentions in a list of trees. -/
def mentionsAll : List (Expr α) → List Mention
  | [] => []
  | e :: rest => e.mentions ++ mentionsAll rest

end

@[simp]
theorem mentionsAll_append (xs ys : List (Expr α)) :
    mentionsAll (xs ++ ys) = mentionsAll xs ++ mentionsAll ys := by
  induction xs with
  | nil => rfl
  | cons e rest ih => simp [mentionsAll, ih]

/-! ## Names without dots -/

/-- A name that is one segment of a dotted name. -/
def IsSegment (n : String) : Prop := '.' ∉ n.toList

/-- No name among the lexemes holds a dot. -/
def PlainNames (ls : List Lexeme) : Prop :=
  ∀ l ∈ ls, ∀ n, l.token = .ident n → IsSegment n

theorem segments_go_plain (cs current : List Char) (h : '.' ∉ cs) :
    segments.go cs current = [String.ofList (current.reverse ++ cs)] := by
  induction cs generalizing current with
  | nil => simp [segments.go]
  | cons c rest ih =>
    rw [List.mem_cons, not_or] at h
    rw [segments.go]
    · rw [ih _ h.2]
      simp
    · rintro rfl
      exact h.1 rfl

/-- Segments start anew after a dot, whatever stands before it. -/
theorem segments_go_append (cs rest current : List Char) :
    segments.go (cs ++ '.' :: rest) current = segments.go cs current ++ segments.go rest [] := by
  induction cs generalizing current with
  | nil => simp [segments.go]
  | cons c cs ih =>
    by_cases hc : c = '.'
    · -- a dot inside `cs` ends the segment under way on both sides
      subst hc
      simp [segments.go, ih]
    · rw [List.cons_append, segments.go, segments.go, ih]
      · exact hc
      · exact hc

theorem segments_of_isSegment {n : String} (h : IsSegment n) : segments n = [n] := by
  rw [segments, segments_go_plain _ _ h]
  simp

theorem segments_extend (name : String) {segment : String} (h : IsSegment segment) :
    segments (name ++ "." ++ segment) = segments name ++ [segment] := by
  have hchars : (name ++ "." ++ segment).toList = name.toList ++ '.' :: segment.toList := by
    simp
  rw [segments, hchars, segments_go_append, ← segments, segments_go_plain _ _ h]
  simp

/-! ## Phrases -/

theorem DottedName.mentions {ls : List Lexeme} {name : String} (h : DottedName ls name)
    (hplain : PlainNames ls) : mentionsIn ls = (segments name).map .name := by
  induction h with
  | @one name span =>
    have hname : IsSegment name := hplain _ (List.mem_singleton_self _) name rfl
    simp [segments_of_isSegment hname, Token.mentions]
  | @more ls name segment dot span _ ih =>
    have hsegment : IsSegment segment := hplain ⟨.ident segment, span⟩ (by simp) segment rfl
    have hls : PlainNames ls := fun l hl => hplain l (List.mem_append_left _ hl)
    simp [segments_extend name hsegment, ih hls, Token.mentions]

theorem PlainNames.left {xs ys : List Lexeme} (h : PlainNames (xs ++ ys)) : PlainNames xs :=
  fun l hl => h l (List.mem_append_left _ hl)

theorem PlainNames.right {xs ys : List Lexeme} (h : PlainNames (xs ++ ys)) : PlainNames ys :=
  fun l hl => h l (List.mem_append_right _ hl)

theorem PlainNames.tail {l : Lexeme} {ls : List Lexeme} (h : PlainNames (l :: ls)) :
    PlainNames ls :=
  fun k hk => h k (List.mem_cons_of_mem _ hk)

mutual

/-- A phrase and its tree mention the same, in the same order. -/
theorem Derives.mentions {d : Nat} {form : Form} {ls : List Lexeme} {e : RawExpr}
    (h : Derives d form ls e) (hplain : PlainNames ls) : mentionsIn ls = e.mentions := by
  match h with
  | .lambda hbody =>
    have ih := hbody.mentions hplain.tail.tail
    simp [Token.mentions, Expr.mentions, ih]
  | .parenLambda hbody =>
    have ih := hbody.mentions hplain.tail.tail.tail.tail
    simp [Token.mentions, Expr.mentions, ih]
  | .plain he => exact he.mentions hplain
  | .conditional hcond htrue hfalse =>
    have ihc := hcond.mentions hplain.left.left
    have iht := htrue.mentions hplain.left.right.tail
    have ihf := hfalse.mentions hplain.right.tail
    simp [Token.mentions, Expr.mentions, ihc, iht, ihf]
  | .unconditional he => exact he.mentions hplain
  | .binary hleft _ hright =>
    have ihl := hleft.mentions hplain.left
    have ihr := hright.mentions hplain.right.tail
    simp [Token.mentions, Expr.mentions, ihl, ihr]
  | .tighter he => exact he.mentions hplain
  | .single he => exact he.mentions hplain
  | .unary _ he =>
    have ih := he.mentions hplain.tail
    simp [Token.mentions, Expr.mentions, ih]
  | .unprefixed he => exact he.mentions hplain
  | .call htarget hargs =>
    have iht := htarget.mentions hplain.left.left
    have iha := hargs.mentions hplain.left.right.tail
    simp [Token.mentions, Expr.mentions, iht, iha]
  | .index htarget hposition =>
    have iht := htarget.mentions hplain.left.left
    have ihp := hposition.mentions hplain.left.right.tail
    simp [Token.mentions, Expr.mentions, iht, ihp]
  | .member htarget =>
    have ih := htarget.mentions hplain.left
    simp [Token.mentions, Expr.mentions, ih]
  | .atomic he => exact he.mentions hplain
  | .literal => simp [Token.mentions, Expr.mentions]
  | .ident => simp [Token.mentions, Expr.mentions]
  | .typeOf hname =>
    have ih := hname.mentions hplain.left.tail.tail
    simp [Token.mentions, Expr.mentions, ih]
  | .newArray hitems =>
    have ih := hitems.mentions hplain.left.tail.tail.tail.tail
    simp [Token.mentions, Expr.mentions, ih]
  | .array hitems =>
    have ih := hitems.mentions hplain.left.tail
    simp [Token.mentions, Expr.mentions, ih]
  | .parens he =>
    have ih := he.mentions hplain.left.tail
    simp [Token.mentions, ih]

theorem DerivesItems.mentions {d : Nat} {ls : List Lexeme} {items : List RawExpr}
    (h : DerivesItems d ls items) (hplain : PlainNames ls) :
    mentionsIn ls = mentionsAll items := by
  match h with
  | .one he =>
    have ih := he.mentions hplain
    simp [mentionsAll, ih]
  | .more hitems he =>
    have ihs := hitems.mentions hplain.left
    have ih := he.mentions hplain.right.tail
    simp [Token.mentions, mentionsAll, ihs, ih]

theorem DerivesList.mentions {d : Nat} {ls : List Lexeme} {items : List RawExpr}
    (h : DerivesList d ls items) (hplain : PlainNames ls) :
    mentionsIn ls = mentionsAll items := by
  match h with
  | .nil => rfl
  | .items hitems => exact hitems.mentions hplain
  | .trailing hitems =>
    have ih := hitems.mentions hplain.left
    simp [Token.mentions, ih]

end

/-! ## Numbering -/

mutual

theorem numberFrom_mentions (next : Nat) :
    ∀ e : Expr Span, (e.numberFrom next).1.mentions = e.mentions
  | .literal _ _ | .ident _ _ | .typeOf _ _ => by simp [Expr.numberFrom, Expr.mentions]
  | .member _ target _ => by
    simp [Expr.numberFrom, Expr.mentions, numberFrom_mentions next target]
  | .call _ callee args => by
    simp [Expr.numberFrom, Expr.mentions, numberFrom_mentions _ callee, numberAll_mentions _ args]
  | .index _ target position => by
    simp [Expr.numberFrom, Expr.mentions, numberFrom_mentions _ target,
      numberFrom_mentions _ position]
  | .unary _ _ operand => by
    simp [Expr.numberFrom, Expr.mentions, numberFrom_mentions next operand]
  | .binary _ _ left right => by
    simp [Expr.numberFrom, Expr.mentions, numberFrom_mentions _ left, numberFrom_mentions _ right]
  | .conditional _ cond onTrue onFalse => by
    simp [Expr.numberFrom, Expr.mentions, numberFrom_mentions _ cond,
      numberFrom_mentions _ onTrue, numberFrom_mentions _ onFalse]
  | .array _ items => by
    simp [Expr.numberFrom, Expr.mentions, numberAll_mentions next items]
  | .lambda _ _ body => by
    simp [Expr.numberFrom, Expr.mentions, numberFrom_mentions next body]

theorem numberAll_mentions (next : Nat) :
    ∀ es : List (Expr Span), mentionsAll (numberAll next es).1 = mentionsAll es
  | [] => rfl
  | e :: rest => by
    simp [numberAll, mentionsAll, numberFrom_mentions _ e, numberAll_mentions _ rest]

end

/-- Identifiers change no mention. -/
theorem number_mentions (e : Expr Span) : e.number.mentions = e.mentions :=
  numberFrom_mentions 1 e

/-! ## Names that come from a text -/

theorem isSegment_ofList {cs : List Char} (h : ∀ c ∈ cs, isNamePart c = true) :
    IsSegment (String.ofList cs) := by
  intro hdot
  rw [String.toList_ofList] at hdot
  have hpart := h _ hdot
  revert hpart
  decide

theorem isSegment_takeWhile (cs : List Char) :
    IsSegment (String.ofList (cs.takeWhile isNamePart)) :=
  isSegment_ofList fun _ hc => (List.mem_takeWhile_imp hc)

theorem isNamePart_of_isNameStart {c : Char} (h : isNameStart c = true) : isNamePart c = true := by
  simp only [isNameStart, isNamePart, Char.isAlphanum, Bool.or_eq_true] at h ⊢
  exact h.imp_left .inl

theorem wordToken_eq_ident {word n : String} (h : wordToken word = .ident n) : n = word := by
  unfold wordToken at h
  repeat' split at h
  all_goals simp_all

theorem scanVerbatim_name {rest : List Char} {n : String} {taken : Nat}
    (h : scanVerbatim rest = .ok (.ident n, taken)) : IsSegment n := by
  unfold scanVerbatim at h
  split at h
  · split at h
    · simp at h
    · simp at h
  · split at h
    · simp only [Except.ok.injEq, Prod.mk.injEq, Token.ident.injEq] at h
      rw [← h.1]
      exact isSegment_takeWhile _
    · simp at h

/-- No name that the lexer reads holds a dot. -/
theorem scan_name {c : Char} {rest : List Char} {n : String} {taken : Nat}
    (h : scan c rest = .ok (.ident n, taken)) : IsSegment n := by
  -- only a word and a verbatim name become names; every other branch gives another token
  unfold scan at h
  split at h
  · unfold scanNumber at h
    split at h
    split at h
    · simp at h
    · simp at h
  split at h
  · rename_i hstart
    simp only [Except.ok.injEq, Prod.mk.injEq] at h
    rw [wordToken_eq_ident h.1]
    refine isSegment_ofList fun x hx => ?_
    rcases List.mem_cons.mp hx with rfl | hx
    · exact isNamePart_of_isNameStart hstart
    · exact List.mem_takeWhile_imp hx
  split at h
  · exact scanVerbatim_name h
  split at h
  · split at h
    · simp at h
    · simp at h
  split at h
  · split at h
    · simp at h
    · simp at h
  split at h
  · simp at h
  · simp at h

theorem lexFrom_plain (pos : Nat) (cs : List Char) {ls : List Lexeme}
    (h : lexFrom pos cs = .ok ls) : PlainNames ls := by
  fun_induction lexFrom pos cs generalizing ls with
  | case1 =>
    rw [← Except.ok.inj h]
    intro l hl
    simp at hl
  -- blanks and comments leave no lexeme
  | case2 _ _ _ _ ih => exact ih h
  | case3 =>
    rename_i ih
    exact ih h
  -- one token, then the rest
  | case4 =>
    rename_i token taken hscan stop ih
    obtain ⟨more, hmore, rfl⟩ := except_map_eq_ok.mp h
    intro l hl n hn
    rcases List.mem_cons.mp hl with rfl | hl
    · subst hn
      exact scan_name hscan
    · exact ih hmore l hl n hn
  | case5 => simp at h

theorem lex_plain {source : String} {ls : List Lexeme} (h : lex source = .ok ls) :
    PlainNames ls :=
  lexFrom_plain 0 _ h

/-! ## Whole texts -/

theorem dropTrailingSemicolons_eq (ls : List Lexeme) :
    ∃ tail, ls = dropTrailingSemicolons ls ++ tail ∧
      ∀ l ∈ tail, l.token.isSymbol .semicolon = true := by
  refine ⟨(ls.reverse.takeWhile fun l => l.token.isSymbol .semicolon).reverse, ?_, ?_⟩
  · rw [dropTrailingSemicolons, ← List.reverse_append, List.takeWhile_append_dropWhile,
      List.reverse_reverse]
  · intro l hl
    rw [List.mem_reverse] at hl
    simpa using List.mem_takeWhile_imp hl

theorem mentions_of_isSymbol {t : Token} {s : Symbol} (h : t.isSymbol s = true) :
    t.mentions = [] := by
  cases t <;> simp_all [Token.isSymbol, Token.mentions]

/-- Semicolons mention nothing, so dropping them loses nothing. -/
theorem mentionsIn_dropTrailingSemicolons (ls : List Lexeme) :
    mentionsIn (dropTrailingSemicolons ls) = mentionsIn ls := by
  obtain ⟨tail, hls, htail⟩ := dropTrailingSemicolons_eq ls
  have hnone : mentionsIn tail = [] :=
    List.flatMap_eq_nil_iff.mpr fun l hl => mentions_of_isSymbol (htail l hl)
  conv => rhs; rw [hls, mentionsIn_append, hnone, List.append_nil]

/-- The tree of a text mentions what the text mentions, in the same order. -/
theorem mentions_of_parse {maxDepth : Nat} {source : String} {ls : List Lexeme}
    {tree : Expr Mark} (hlex : lex source = .ok ls) (h : parse maxDepth source = .complete tree) :
    tree.mentions = mentionsIn ls := by
  simp only [parse, hlex] at h
  obtain ⟨e, rfl, hderives⟩ := derives_of_parseLexemes h
  obtain ⟨tail, hls, _⟩ := dropTrailingSemicolons_eq ls
  -- what is left of plain names is plain
  have hplain : PlainNames (dropTrailingSemicolons ls) := by
    have hall := lex_plain hlex
    rw [hls] at hall
    exact hall.left
  calc e.number.mentions = e.mentions := number_mentions e
    _ = mentionsIn (dropTrailingSemicolons ls) := (hderives.mentions hplain).symm
    _ = mentionsIn ls := mentionsIn_dropTrailingSemicolons ls

end GatedPredicate.Syntax
