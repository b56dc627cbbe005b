import GatedPredicate.Proofs.Policy.Forbidden
import GatedPredicate.Proofs.Syntax.Mention
import GatedPredicate.Proofs.Syntax.Numbering

/-!
# Nothing forbidden slips through

A source text with a denied name among its tokens is never compiled, wherever the name stands, and
neither is one with a `typeof` or the name of an operation that inspects types. The parser keeps
every mention, and each mention in a tree makes some node of it offend.

- `Mention.Draws`: the violation that a mention leads to
- `Policy.forbids_of_mention`: a mention in a tree is an offence of one of its nodes
- `Gate.RefusesFor`: a text is no expression, or a violation is among the reasons of its refusal
- `Gate.refuses_forbidden_tokens`
-/

namespace GatedPredicate

open GatedPredicate.Syntax GatedPredicate.Text

variable {α : Type} {p : Policy} {schema : Schema} {v : Violation}

/-! ## Mentions of a node -/

namespace Syntax

/-- What a node mentions, apart from its subexpressions. -/
def Expr.ownMentions : Expr α → List Mention
  | .typeOf _ name => .typeOf :: (segments name).map .name
  | e => e.ownNames.map .name

theorem mem_mentionsAll {m : Mention} {es : List (Expr α)} :
    m ∈ mentionsAll es ↔ ∃ e ∈ es, m ∈ e.mentions := by
  induction es with
  | nil => simp [mentionsAll]
  | cons e rest ih => simp [mentionsAll, ih]

theorem Expr.mem_mentions {m : Mention} {e : Expr α} :
    m ∈ e.mentions ↔ m ∈ e.ownMentions ∨ ∃ c ∈ e.children, m ∈ c.mentions := by
  cases e <;>
    simp [Expr.mentions, Expr.ownMentions, Expr.ownNames, Expr.children, mem_mentionsAll, or_comm]

end Syntax

/-! ## From mentions to offences -/

/-- The violation that a mention leads to. -/
inductive Syntax.Mention.Draws (p : Policy) : Mention → Violation → Prop
  | deniedName {n : String} : p.isDenied n = true → Draws p (.name n) (.deniedName n)
  | reflectionName {n : String} : isReflectionName n = true → Draws p (.name n) .reflection
  | typeOf : Draws p .typeOf .reflection

/-- Every subexpression has its place. -/
theorem Place.exists_inner {x : Place} {c : Expr Mark} (h : c ∈ x.expr.children) :
    ∃ z ∈ x.inner, z.expr = c := by
  obtain ⟨scope, accessed, e⟩ := x
  cases e with
  | member _ target name =>
    obtain rfl : c = target := List.mem_singleton.1 h
    exact ⟨_, List.mem_singleton_self _, rfl⟩
  | lambda _ param body =>
    obtain rfl : c = body := List.mem_singleton.1 h
    exact ⟨_, List.mem_singleton_self _, rfl⟩
  | _ => exact ⟨_, List.mem_map_of_mem h, rfl⟩

namespace Policy

theorem offends_of_ownMention {x : Place} {m : Mention} (hm : m ∈ x.expr.ownMentions)
    (hv : m.Draws p v) : p.Offends schema x v := by
  cases htype : x.expr with
  | typeOf mark operand =>
    rw [htype] at hm
    rcases List.mem_cons.1 hm with rfl | hm
    · cases hv
      exact .typeOf htype
    · obtain ⟨n, hn, rfl⟩ := List.mem_map.1 hm
      cases hv with
      | deniedName hdenied => exact .deniedSegment htype hn hdenied
      -- a name inside `typeof` stands beside a `typeof`
      | reflectionName => exact .typeOf htype
  | _ =>
    obtain ⟨n, hn, rfl⟩ : ∃ n ∈ x.expr.ownNames, Mention.name n = m := by
      rw [htype] at hm ⊢
      exact List.mem_map.1 hm
    cases hv with
    | deniedName hdenied => exact .deniedName hn hdenied
    | reflectionName hname => exact .reflectionName hn hname

/-- What a tree mentions is an offence of one of its nodes, in whatever context it stands. -/
theorem forbids_of_mention {x : Place} {m : Mention} (hm : m ∈ x.expr.mentions)
    (hv : m.Draws p v) : p.Forbids schema x v := by
  rw [forbids_iff]
  rcases Expr.mem_mentions.1 hm with hown | ⟨c, hc, hm⟩
  · exact .inl (offends_of_ownMention hown hv)
  · obtain ⟨z, hz, rfl⟩ := Place.exists_inner hc
    exact .inr ⟨z, hz, forbids_of_mention hm hv⟩
termination_by x.expr.size
decreasing_by
  exact Expr.size_lt_of_mem_children hc

end Policy

/-! ## From texts to refusals -/

/-- Whether an error says that a text is no expression, or too long to be looked at. -/
def CompileError.isSyntax : CompileError → Bool
  | .tooLong _ | .syntaxError _ => true
  | _ => false

namespace Gate

/-- A text that is not compiled, as it is no expression or with `v` among the violations. -/
def RefusesFor (g : Gate) (text : String) (v : Violation) : Prop :=
  ∃ e, g.compile text = .error e ∧
    (e.isSyntax = true ∨ ∃ vs, e = .violations vs ∧ v ∈ vs)

/-- What is not blank is no expression, or has a tree that is checked first and then resolved. -/
theorem compile_cases (g : Gate) (text : String) (h : (trim text).isEmpty = false) :
    (∃ e, g.compile text = .error e ∧ e.isSyntax = true) ∨
      ∃ tree, Syntax.parse g.options.maxDepth.toNat (trim text) = .complete tree ∧
        g.compile text = (g.check tree).bind fun _ => (g.bindPredicate tree).map fun t =>
          ⟨trim text, tree, t.tree, t.type, g.schema, g.policy⟩ := by
  unfold compile
  simp only [h, Bool.false_eq_true, if_false]
  split
  · exact .inl ⟨_, rfl, rfl⟩
  · unfold parse
    cases hparse : Syntax.parse g.options.maxDepth.toNat (trim text) with
    | complete tree =>
      refine .inr ⟨tree, rfl, ?_⟩
      simp only [Parsed.toExcept]
      cases g.check tree with
      | error e => rfl
      | ok u => cases hb : g.bindPredicate tree <;> rfl
    | flawed tree e => exact .inl ⟨_, rfl, rfl⟩
    | rejected e => exact .inl ⟨_, rfl, rfl⟩

/-- A text that mentions anything is not blank. -/
theorem trim_ne_empty {text : String} {ls : List Lexeme} (hlex : lex (trim text) = .ok ls)
    {m : Mention} (hm : m ∈ mentionsIn ls) : (trim text).isEmpty = false := by
  rw [Bool.eq_false_iff]
  intro hempty
  rw [String.isEmpty_iff.1 hempty, lex, String.toList_empty, lexFrom] at hlex
  rw [← Except.ok.inj hlex] at hm
  cases hm

/-- One mention among the tokens of a text is enough for its refusal. -/
theorem refusesFor_of_mention (g : Gate) {text : String} {ls : List Lexeme}
    (hlex : lex (trim text) = .ok ls) {m : Mention} (hm : m ∈ mentionsIn ls)
    (hv : m.Draws g.policy v) (hr : g.policy.Reports v) : g.RefusesFor text v := by
  rcases g.compile_cases text (trim_ne_empty hlex hm) with ⟨e, he, hsyntax⟩ | ⟨tree, htree, he⟩
  · exact ⟨e, he, .inl hsyntax⟩
  · -- the mention survives parsing, and the check finds it wherever the tree has it
    rw [← mentions_of_parse hlex htree] at hm
    have hforbids : g.policy.Forbids g.schema (.root tree) v := Policy.forbids_of_mention hm hv
    have hreported := (Policy.mem_check hr tree).2 hforbids
    rw [g.check_of_ne_nil tree (List.ne_nil_of_mem hreported)] at he
    exact ⟨_, he, .inr ⟨_, rfl, hreported⟩⟩

/-- A text is refused for each denied name among its tokens. Under a policy that can be built it
is refused for inspection of types as soon as a token is `typeof` or the name of an operation
that inspects types. -/
theorem refuses_forbidden_tokens (g : Gate) (text : String) (ls : List Lexeme)
    (hlex : lex (trim text) = .ok ls) :
    (∀ l ∈ ls, ∀ n, l.token = .ident n → g.policy.isDenied n = true →
        g.RefusesFor text (.deniedName n)) ∧
      (g.policy.Built → ∀ l ∈ ls,
        (l.token = .typeOf ∨ ∃ n, l.token = .ident n ∧ isReflectionName n = true) →
          g.RefusesFor text .reflection) := by
  have hmention : ∀ l ∈ ls, ∀ m ∈ l.token.mentions, m ∈ mentionsIn ls :=
    fun l hl m hm => mem_mentionsIn.2 ⟨l, hl, hm⟩
  refine ⟨?_, ?_⟩
  · intro l hl n hn hdenied
    refine g.refusesFor_of_mention hlex (hmention l hl (.name n) ?_) (.deniedName hdenied) nofun
    simp [hn, Token.mentions]
  · rintro hbuilt l hl (htype | ⟨n, hn, hname⟩)
    · refine g.refusesFor_of_mention hlex (hmention l hl .typeOf ?_) .typeOf
        fun _ => hbuilt.reflectionAllowed
      simp [htype, Token.mentions]
    · refine g.refusesFor_of_mention hlex (hmention l hl (.name n) ?_) (.reflectionName hname)
        fun _ => hbuilt.reflectionAllowed
      simp [hn, Token.mentions]

theorem refuses_forbidden_tokens_typeOf :
    let ls : List Lexeme := [⟨.typeOf, ⟨0, 6⟩⟩, ⟨.symbol .lparen, ⟨6, 7⟩⟩,
      ⟨.ident "File", ⟨7, 11⟩⟩, ⟨.symbol .rparen, ⟨11, 12⟩⟩]
    lex (trim " typeof(File)") = .ok ls ∧
      Gate.standard.RefusesFor " typeof(File)" (.deniedName "File") ∧
      Gate.standard.RefusesFor " typeof(File)" .reflection := by
  intro ls
  have hlex : lex (trim " typeof(File)") = .ok ls := by decide +kernel
  have hdenied : Policy.standard.isDenied "File" = true := by
    rw [Policy.standard_isDenied]
    decide
  obtain ⟨hnames, hreflection⟩ := refuses_forbidden_tokens .standard " typeof(File)" ls hlex
  refine ⟨hlex, hnames ⟨.ident "File", ⟨7, 11⟩⟩ (by simp [ls]) "File" rfl hdenied, ?_⟩
  exact hreflection .standard ⟨.typeOf, ⟨0, 6⟩⟩ (by simp [ls]) (.inl rfl)

end Gate

end GatedPredicate
