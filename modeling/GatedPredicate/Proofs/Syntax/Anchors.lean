import GatedPredicate.Proofs.Syntax.Mention
import GatedPredicate.Proofs.Syntax.Reports

/-!
# The lexemes of a node

A tree keeps the range of each node and not the lexemes that it was read from. For names this
matters, since the range of a member access says where its name ends and not where it begins, and
the range of a lambda may begin with a parenthesis. Here the nodes of a tree are brought together
with their lexemes again.

- `NamedBy`: the lexeme that a node has its name from
- `Expr.Anchored`, `Derives.anchored`: every node has the lexemes that it needs
- `Reading`, `reading_of_parse`: the lexemes and the tree of one text
- `Reading.start_le_of_namedBy`, `Reading.parameter_le`: where the lexeme of a name stands
-/

namespace GatedPredicate.Syntax

open GatedPredicate.Text

variable {α : Type} {range : α → Span} {ls : List Lexeme}

/-! ## Nodes and lexemes -/

/-- The node has its name from the lexeme: it is a name itself, or a member access that ends with
the lexeme, or a lambda with that parameter. -/
inductive NamedBy (range : α → Span) (ls : List Lexeme) : Expr α → Lexeme → Prop where
  | ident {m : α} {name : String} :
      ⟨.ident name, range m⟩ ∈ ls → NamedBy range ls (.ident m name) ⟨.ident name, range m⟩
  | member {m : α} {target : Expr α} {name : String} {span : Span} :
      ⟨.ident name, span⟩ ∈ ls → span.stop = (range m).stop →
      NamedBy range ls (.member m target name) ⟨.ident name, span⟩
  /-- `x => body` -/
  | parameter {m : α} {param : String} {body : Expr α} {span : Span} :
      ⟨.ident param, span⟩ ∈ ls → span.start = (range m).start →
      NamedBy range ls (.lambda m param body) ⟨.ident param, span⟩
  /-- `(x) => body` -/
  | parenParameter {m : α} {param : String} {body : Expr α} {opening span : Span} :
      [⟨.symbol .lparen, opening⟩, ⟨.ident param, span⟩] <:+: ls →
      opening.start = (range m).start →
      NamedBy range ls (.lambda m param body) ⟨.ident param, span⟩

/-- The lexemes of a node itself: its keyword, or the one that it has its name from. A member access
has no further lexeme in front of its target. -/
def Expr.HasLexemes (range : α → Span) (ls : List Lexeme) (e : Expr α) : Prop :=
  match e with
  | .typeOf m _ => ∃ l ∈ ls, l.token = .typeOf ∧ l.span.start = (range m).start
  | .ident _ _ | .lambda _ _ _ => ∃ l, NamedBy range ls e l
  | .member m target _ =>
    (range m).start = (range target.mark).start ∧ ∃ l, NamedBy range ls e l
  | _ => True

/-- A node begins where a lexeme begins and has its own lexemes. -/
structure Expr.Anchored (range : α → Span) (ls : List Lexeme) (e : Expr α) : Prop where
  start : ∃ l ∈ ls, l.span.start = (range e.mark).start
  own : e.HasLexemes range ls

/-- A `typeof` begins with its keyword. -/
theorem Expr.Anchored.keyword {e : Expr α} {m : α} {operand : String} (h : e.Anchored range ls)
    (he : e = .typeOf m operand) :
    ∃ l ∈ ls, l.token = .typeOf ∧ l.span.start = (range m).start := by
  subst he
  exact h.own

theorem NamedBy.mem {e : Expr α} {l : Lexeme} (h : NamedBy range ls e l) : l ∈ ls := by
  cases h with
  | ident hl => exact hl
  | member hl => exact hl
  | parameter hl => exact hl
  | parenParameter hl => exact hl.subset (by simp)

/-- A name is mentioned. -/
theorem NamedBy.mentions_ne_nil {e : Expr α} {l : Lexeme} (h : NamedBy range ls e l) :
    l.token.mentions ≠ [] := by
  cases h <;> simp [Token.mentions]

theorem NamedBy.mono {more : List Lexeme} {e : Expr α} {l : Lexeme} (h : NamedBy range ls e l)
    (hmore : ls <:+: more) : NamedBy range more e l := by
  cases h with
  | ident hl => exact .ident (hmore.subset hl)
  | member hl hstop => exact .member (hmore.subset hl) hstop
  | parameter hl hstart => exact .parameter (hmore.subset hl) hstart
  | parenParameter hl hstart => exact .parenParameter (hl.trans hmore) hstart

/-- What a node needs may stand anywhere in a longer text. -/
theorem Expr.Anchored.mono {more : List Lexeme} {e : Expr α} (h : e.Anchored range ls)
    (hmore : ls <:+: more) : e.Anchored range more := by
  obtain ⟨⟨l, hl, hstart⟩, hown⟩ := h
  refine ⟨⟨l, hmore.subset hl, hstart⟩, ?_⟩
  cases e with
  | typeOf =>
    obtain ⟨k, hk, hkeyword⟩ := hown
    exact ⟨k, hmore.subset hk, hkeyword⟩
  | ident =>
    obtain ⟨k, hk⟩ := hown
    exact ⟨k, hk.mono hmore⟩
  | lambda =>
    obtain ⟨k, hk⟩ := hown
    exact ⟨k, hk.mono hmore⟩
  | member =>
    obtain ⟨htarget, k, hk⟩ := hown
    exact ⟨htarget, k, hk.mono hmore⟩
  | _ => trivial

/-! ## Phrases -/

/-- All nodes of a tree have their lexemes in `ls`. -/
def AllAnchored (range : α → Span) (ls : List Lexeme) (e : Expr α) : Prop :=
  ∀ n ∈ e.nodes, n.Anchored range ls

namespace AllAnchored

variable {e c : Expr α} {cs : List (Expr α)}

theorem self (h : AllAnchored range ls e) : e.Anchored range ls :=
  h e e.self_mem_nodes

theorem below (h : AllAnchored range ls e) (hc : c ∈ e.nodes) : AllAnchored range ls c :=
  fun n hn => h n ((Expr.nodes_sublist hc).subset hn)

theorem child (h : AllAnchored range ls e) (hc : c ∈ e.children) : AllAnchored range ls c :=
  h.below (Expr.mem_nodes.2 (.inl ⟨c, hc, c.self_mem_nodes⟩))

theorem mono {more : List Lexeme} (h : AllAnchored range ls e) (hmore : ls <:+: more) :
    AllAnchored range more e :=
  fun n hn => (h n hn).mono hmore

theorem tail (l : Lexeme) (h : AllAnchored range ls e) : AllAnchored range (l :: ls) e :=
  h.mono (List.suffix_cons l ls).isInfix

theorem left (more : List Lexeme) (h : AllAnchored range ls e) : AllAnchored range (ls ++ more) e :=
  h.mono (List.prefix_append ls more).isInfix

theorem right (more : List Lexeme) (h : AllAnchored range ls e) :
    AllAnchored range (more ++ ls) e :=
  h.mono (List.suffix_append more ls).isInfix

/-- A node is anchored together with its children. -/
theorem node (hstart : ∃ l ∈ ls, l.span.start = (range e.mark).start)
    (hown : e.HasLexemes range ls) (hchildren : ∀ c ∈ e.children, AllAnchored range ls c) :
    AllAnchored range ls e := by
  intro n hn
  rcases Expr.mem_nodes.1 hn with ⟨c, hc, hn⟩ | rfl
  · exact hchildren c hc n hn
  · exact ⟨hstart, hown⟩

/-- A node begins with the first lexeme of its phrase. -/
theorem first {l : Lexeme} (hstart : l.span.start = (range e.mark).start)
    (hown : e.HasLexemes range (l :: ls))
    (hchildren : ∀ c ∈ e.children, AllAnchored range (l :: ls) c) :
    AllAnchored range (l :: ls) e :=
  node ⟨l, List.mem_cons_self, hstart⟩ hown hchildren

/-- A node begins with its first child. -/
theorem firstChild (hchildren : e.children = c :: cs)
    (hstart : (range e.mark).start = (range c.mark).start) (hown : e.HasLexemes range ls)
    (hc : AllAnchored range ls c) (hcs : ∀ c ∈ cs, AllAnchored range ls c) :
    AllAnchored range ls e := by
  refine node (hstart ▸ hc.self.start) hown ?_
  rw [hchildren]
  exact List.forall_mem_cons.2 ⟨hc, hcs⟩

/-- A chain of names begins with a name. -/
theorem exists_chainStart {e : Expr α} {path : List String} (h : AllAnchored range ls e)
    (hpath : e.dottedPath? = some path) :
    ∃ l ∈ ls, l.token.mentions ≠ [] ∧ l.span.start = (range e.mark).start := by
  match e with
  | .ident m name =>
    obtain ⟨l, hl⟩ := h.self.own
    cases hl with
    | ident hl => exact ⟨_, hl, by simp [Token.mentions], rfl⟩
  | .member m target name =>
    obtain ⟨init, hinit, -⟩ := Option.map_eq_some_iff.1 hpath
    obtain ⟨hstart, -⟩ := h.self.own
    obtain ⟨l, hl, hmention, hle⟩ := exists_chainStart (h.child (List.mem_singleton_self _)) hinit
    exact ⟨l, hl, hmention, hle.trans hstart.symm⟩

end AllAnchored

mutual

/-- The nodes of a phrase have their lexemes in the phrase. -/
theorem Derives.anchored {d : Nat} {form : Form} {ls : List Lexeme} {e : RawExpr}
    (h : Derives d form ls e) : AllAnchored id ls e := by
  match h with
  -- a form that is also a tighter one, and parentheses, which leave no node behind
  | .plain he | .unconditional he | .tighter he | .single he | .unprefixed he | .atomic he =>
    exact he.anchored
  | .parens he => exact (he.anchored.tail _).left _
  -- the first lexeme is the node's own
  | .literal => exact .first rfl trivial nofun
  | .ident => exact .first rfl ⟨_, .ident List.mem_cons_self⟩ nofun
  | .typeOf _ => exact .first rfl ⟨_, List.mem_cons_self, rfl, rfl⟩ nofun
  | .lambda hbody =>
    exact .first rfl ⟨_, .parameter List.mem_cons_self rfl⟩
      (List.forall_mem_singleton.2 ((hbody.anchored.tail _).tail _))
  | .parenLambda hbody =>
    exact .first rfl ⟨_, .parenParameter (List.prefix_append [_, _] _).isInfix rfl⟩
      (List.forall_mem_singleton.2 ((((hbody.anchored.tail _).tail _).tail _).tail _))
  | .unary _ he =>
    exact .first rfl trivial (List.forall_mem_singleton.2 (he.anchored.tail _))
  | .newArray hitems =>
    exact .first rfl trivial fun c hc =>
      ((((hitems.anchored c hc).tail _).tail _).tail _).tail _ |>.left _
  | .array hitems =>
    exact .first rfl trivial fun c hc => ((hitems.anchored c hc).tail _).left _
  -- the first lexeme is that of the first child
  | .conditional hcond htrue hfalse =>
    exact .firstChild rfl rfl trivial ((hcond.anchored.left _).left _)
      (List.forall_mem_cons.2 ⟨((htrue.anchored.tail _).right _).left _,
        List.forall_mem_singleton.2 ((hfalse.anchored.tail _).right _)⟩)
  | .binary hleft _ hright =>
    exact .firstChild rfl rfl trivial (hleft.anchored.left _)
      (List.forall_mem_singleton.2 ((hright.anchored.tail _).right _))
  | .call htarget hargs =>
    exact .firstChild rfl rfl trivial ((htarget.anchored.left _).left _)
      fun c hc => (((hargs.anchored c hc).tail _).right _).left _
  | .index htarget hposition =>
    exact .firstChild rfl rfl trivial ((htarget.anchored.left _).left _)
      (List.forall_mem_singleton.2 (((hposition.anchored.tail _).right _).left _))
  | .member htarget =>
    exact .firstChild rfl rfl
      ⟨rfl, _, .member (List.mem_append_right _ (.tail _ (.head _))) rfl⟩
      (htarget.anchored.left _) nofun

theorem DerivesItems.anchored {d : Nat} {ls : List Lexeme} {items : List RawExpr}
    (h : DerivesItems d ls items) : ∀ e ∈ items, AllAnchored id ls e := by
  match h with
  | .one he => exact List.forall_mem_singleton.2 he.anchored
  | .more hitems he =>
    have hbefore := hitems.anchored
    have hlast := he.anchored
    intro c hc
    rcases List.mem_append.1 hc with hc | hc
    · exact (hbefore c hc).left _
    · obtain rfl := List.mem_singleton.1 hc
      exact (hlast.tail _).right _

theorem DerivesList.anchored {d : Nat} {ls : List Lexeme} {items : List RawExpr}
    (h : DerivesList d ls items) : ∀ e ∈ items, AllAnchored id ls e := by
  match h with
  | .nil => exact nofun
  | .items hitems => exact hitems.anchored
  | .trailing hitems => exact fun e he => (hitems.anchored e he).left _

end

/-! ## Numbering -/

theorem NamedBy.number {e : Expr Span} {l : Lexeme} (h : NamedBy id ls e l) (next : Nat) :
    NamedBy Mark.span ls (e.numberFrom next).1 l := by
  cases h with
  | ident hl => exact .ident hl
  | member hl hstop => exact .member hl hstop
  | parameter hl hstart => exact .parameter hl hstart
  | parenParameter hl hstart => exact .parenParameter hl hstart

/-- Numbers change nothing about where a node stands. -/
theorem Expr.Anchored.number {e : Expr Span} (h : e.Anchored id ls) (next : Nat) :
    (e.numberFrom next).1.Anchored Mark.span ls := by
  obtain ⟨hstart, hown⟩ := h
  refine ⟨by rwa [numberFrom_mark], ?_⟩
  cases e with
  | typeOf => exact hown
  | ident =>
    obtain ⟨k, hk⟩ := hown
    exact ⟨k, hk.number next⟩
  | lambda =>
    obtain ⟨k, hk⟩ := hown
    exact ⟨k, hk.number next⟩
  | member m target name =>
    obtain ⟨htarget, k, hk⟩ := hown
    refine ⟨htarget.trans ?_, k, hk.number next⟩
    rw [numberFrom_mark]
    rfl
  | _ => trivial

/-! ## Texts -/

/-- The lexemes and the tree of one text. The lexemes are not empty and stand one after another, and
the nodes have theirs among them. -/
structure Reading (ls : List Lexeme) (tree : Expr Mark) : Prop where
  nonempty : ∀ l ∈ ls, l.span.start < l.span.stop
  ordered : ls.Pairwise fun k l => k.span.stop ≤ l.span.start
  range : ∀ n ∈ tree.nodes, n.mark.span.start < n.mark.span.stop
  anchored : AllAnchored Mark.span ls tree

theorem reading_of_parse {maxDepth : Nat} {source : String} {ls : List Lexeme} {tree : Expr Mark}
    (hlex : lex source = .ok ls) (h : parse maxDepth source = .complete tree) :
    Reading ls tree := by
  have hlaid := lexFrom_inOrder (covers_source source) hlex
  have hmarked := (parse_marks maxDepth source).1 tree (by rw [h]; rfl)
  constructor
  case nonempty => exact fun l hl => (hlaid.sits _ (List.mem_map_of_mem hl)).2.2.start_lt_stop
  case ordered => exact List.pairwise_map.1 hlaid.pairwise
  case range => exact fun n hn => (hmarked.range n hn).start_lt_stop
  case anchored =>
    simp only [parse, hlex] at h
    obtain ⟨e, rfl, hderives⟩ := derives_of_parseLexemes h
    obtain ⟨tail, hls, -⟩ := dropTrailingSemicolons_eq ls
    have hprefix : dropTrailingSemicolons ls <+: ls := ⟨tail, hls.symm⟩
    intro n hn
    obtain ⟨m, hm, k, rfl⟩ := mem_nodes_numberFrom hn
    exact ((hderives.anchored m hm).mono hprefix.isInfix).number k

namespace Reading

variable {tree : Expr Mark} {k l : Lexeme}

/-- A lexeme that begins before another ends begins no later. -/
theorem start_le (h : Reading ls tree) (hk : k ∈ ls) (hl : l ∈ ls)
    (hlt : k.span.start < l.span.stop) : k.span.start ≤ l.span.start := by
  obtain ⟨front, back, rfl⟩ := List.append_of_mem hk
  obtain ⟨-, hback, hfront⟩ := List.pairwise_append.1 h.ordered
  rcases List.mem_append.1 hl with hl | hl
  · have hbefore := hfront l hl k List.mem_cons_self
    omega
  · rcases List.mem_cons.1 hl with rfl | hl
    · exact Nat.le_refl _
    · exact Nat.le_trans (Nat.le_of_lt (h.nonempty k hk)) ((List.pairwise_cons.1 hback).1 l hl)

/-- Nothing stands between two neighbours. -/
theorem eq_or_le_of_neighbours (h : Reading ls tree) {first second : Lexeme}
    (hpair : [first, second] <:+: ls) (hk : k ∈ ls) (hle : first.span.start ≤ k.span.start) :
    k = first ∨ second.span.start ≤ k.span.start := by
  obtain ⟨front, back, rfl⟩ := hpair
  have hlt := h.nonempty k hk
  have hsecond := h.nonempty second (by simp)
  have hordered := h.ordered
  simp only [List.append_assoc, List.cons_append, List.nil_append, List.pairwise_append,
    List.pairwise_cons, List.mem_cons] at hordered
  obtain ⟨-, ⟨-, hback, -⟩, hfront⟩ := hordered
  simp only [List.append_assoc, List.cons_append, List.nil_append, List.mem_append,
    List.mem_cons] at hk
  rcases hk with hk | rfl | rfl | hk
  · have hstop := hfront k hk first (.inl rfl)
    omega
  · exact .inl rfl
  · exact .inr (Nat.le_refl _)
  · exact .inr (Nat.le_trans (Nat.le_of_lt hsecond) (hback k hk))

/-- A node begins no later than the lexeme that it has its name from. -/
theorem start_le_of_namedBy (h : Reading ls tree) {n : Expr Mark} (hn : n ∈ tree.nodes)
    (hname : NamedBy Mark.span ls n l) : n.mark.span.start ≤ l.span.start := by
  cases hname with
  | ident => exact Nat.le_refl _
  | parameter _ hstart => exact Nat.le_of_eq hstart.symm
  | member hl hstop =>
    -- the name is the last lexeme, and the node begins with some lexeme
    obtain ⟨first, hfirst, hstart⟩ := (h.anchored _ hn).start
    refine hstart ▸ h.start_le hfirst hl ?_
    calc first.span.start = _ := hstart
      _ < _ := h.range _ hn
      _ = _ := hstop.symm
  | parenParameter hl hstart =>
    have hpair := List.pairwise_pair.1 (h.ordered.sublist hl.sublist)
    have hopening := h.nonempty _ (hl.subset List.mem_cons_self)
    exact hstart ▸ Nat.le_trans (Nat.le_of_lt hopening) hpair

/-- Between the start of a lambda and its parameter nothing is mentioned. -/
theorem parameter_le (h : Reading ls tree) {m : Mark} {param : String} {body : Expr Mark}
    (hname : NamedBy Mark.span ls (.lambda m param body) l) (hk : k ∈ ls)
    (hmention : k.token.mentions ≠ []) (hle : m.span.start ≤ k.span.start) :
    l.span.start ≤ k.span.start := by
  cases hname with
  | parameter _ hstart => exact hstart ▸ hle
  | parenParameter hl hstart =>
    rcases h.eq_or_le_of_neighbours hl hk (hstart ▸ hle) with rfl | hle
    · exact absurd rfl hmention
    · exact hle

end Reading

end GatedPredicate.Syntax
