import GatedPredicate.Proofs.Syntax.Numbering
import GatedPredicate.Proofs.Syntax.Soundness

/-!
# Where lexemes and nodes stand

Lexemes stand one after another in their text, and so do the subtrees of every node. Both are the
same statement about lists of ranges, so it is made for ranges. A tree gets its ranges from the
lexemes of its phrase: a node begins where some lexeme begins and ends where some lexeme ends, and
its children come from parts of the phrase that do not overlap. Which offsets a range may begin and
end at is a parameter, since a tree makes up no offset of its own.

- `IsBoundary`, `Covers`: offsets between characters
- `Laid`: ranges one after another
- `InOrder`, `lexFrom_inOrder`, `lexFrom_fault`: the lexer
- `Placed`, `Derives.placed`: the trees of phrases
-/

namespace GatedPredicate.Syntax

open GatedPredicate.Text

variable {P : Nat → Prop} {lo hi : Nat}

/-! ## Offsets -/

/-- A character of the text begins at the offset, or the text ends there. -/
def IsBoundary (source : String) (n : Nat) : Prop :=
  String.Pos.Raw.IsValid source ⟨n⟩

instance (source : String) (n : Nat) : Decidable (IsBoundary source n) :=
  inferInstanceAs (Decidable (String.Pos.Raw.IsValid source ⟨n⟩))

/-- The second character takes two bytes. -/
example : ¬ IsBoundary "aé" 2 ∧ IsBoundary "aé" 3 := by decide

theorem utf8Width_take_drop (k : Nat) (cs : List Char) :
    utf8Width (cs.take k) + utf8Width (cs.drop k) = utf8Width cs := by
  rw [← utf8Width_append, List.take_append_drop]

theorem take_length_takeWhile (p : Char → Bool) (cs : List Char) :
    cs.take (cs.takeWhile p).length = cs.takeWhile p :=
  (List.prefix_iff_eq_take.mp (List.takeWhile_prefix p)).symm

/-- A text begins and ends between characters wherever it is cut in two. -/
theorem isBoundary_of_append {source : String} {front back : List Char}
    (h : source.toList = front ++ back) : IsBoundary source (utf8Width front) := by
  refine String.Pos.Raw.isValid_iff_exists_append.mpr
    ⟨String.ofList front, String.ofList back, ?_, ?_⟩
  · rw [← String.ofList_append, ← h, String.ofList_toList]
  · rw [utf8Width_eq]
    rfl

/-- All offsets between the characters of `cs`, the first of which is `pos` bytes into the source,
are in `P`. -/
def Covers (P : Nat → Prop) (pos : Nat) (cs : List Char) : Prop :=
  ∀ front back, cs = front ++ back → P (pos + utf8Width front)

theorem covers_source (source : String) : Covers (IsBoundary source) 0 source.toList := by
  intro front back h
  rw [Nat.zero_add]
  exact isBoundary_of_append h

namespace Covers

variable {pos : Nat} {c : Char} {cs rest : List Char}

theorem first (h : Covers P pos cs) : P pos :=
  h [] cs rfl

theorem drop (h : Covers P pos cs) (k : Nat) :
    Covers P (pos + utf8Width (cs.take k)) (cs.drop k) := by
  intro front back hdrop
  have hcs : cs = (cs.take k ++ front) ++ back := by
    rw [List.append_assoc, ← hdrop, List.take_append_drop]
  have hend := h _ _ hcs
  rwa [utf8Width_append, ← Nat.add_assoc] at hend

/-- The same after a first character and `k` more. -/
theorem dropCons (h : Covers P pos (c :: rest)) (k : Nat) :
    Covers P (pos + c.utf8Size + utf8Width (rest.take k)) (rest.drop k) := by
  have hdrop := h.drop (k + 1)
  rwa [List.take_succ_cons, utf8Width_cons, ← Nat.add_assoc, List.drop_succ_cons] at hdrop

theorem tail (h : Covers P pos (c :: rest)) : Covers P (pos + c.utf8Size) rest := by
  simpa using h.dropCons 0

theorem afterWhile (h : Covers P pos (c :: rest)) (p : Char → Bool) :
    Covers P (pos + c.utf8Size + utf8Width (rest.takeWhile p))
      (rest.drop (rest.takeWhile p).length) := by
  have hdrop := h.dropCons (rest.takeWhile p).length
  rwa [take_length_takeWhile] at hdrop

end Covers

/-! ## Ranges -/

/-- The range is not empty and begins and ends at offsets in `P`. -/
structure Span.Sits (P : Nat → Prop) (s : Span) : Prop where
  start_lt_stop : s.start < s.stop
  start : P s.start
  stop : P s.stop

/-- The ranges stand one after another from `lo` to `hi` at most, none of them is empty, and they
begin and end at offsets in `P`. -/
def Laid (P : Nat → Prop) (lo hi : Nat) : List Span → Prop
  | [] => lo ≤ hi
  | s :: rest => lo ≤ s.start ∧ s.Sits P ∧ Laid P s.stop hi rest

theorem Laid.le {ss : List Span} (h : Laid P lo hi ss) : lo ≤ hi := by
  induction ss generalizing lo with
  | nil => exact h
  | cons s rest ih =>
    obtain ⟨hlo, hs, hrest⟩ := h
    have hlt := hs.start_lt_stop
    have hle := ih hrest
    omega

/-- Ranges one after another also stand so in more room. -/
theorem Laid.widen {lo' hi' : Nat} {ss : List Span} (h : Laid P lo hi ss) (hlo : lo' ≤ lo)
    (hhi : hi ≤ hi') : Laid P lo' hi' ss := by
  induction ss generalizing lo lo' with
  | nil => exact Nat.le_trans hlo (Nat.le_trans h hhi)
  | cons s rest ih =>
    obtain ⟨hstart, hs, hrest⟩ := h
    exact ⟨Nat.le_trans hlo hstart, hs, ih hrest (Nat.le_refl _)⟩

theorem laid_append {xs ys : List Span} :
    Laid P lo hi (xs ++ ys) ↔ ∃ mid, Laid P lo mid xs ∧ Laid P mid hi ys := by
  -- after a range the room begins where it ends, so the induction is for any `lo`
  induction xs generalizing lo with
  | nil =>
    constructor
    · intro h
      exact ⟨lo, Nat.le_refl lo, h⟩
    · rintro ⟨mid, hmid, h⟩
      exact h.widen hmid (Nat.le_refl hi)
  | cons s rest ih =>
    simp only [List.cons_append, Laid, ih]
    constructor
    · rintro ⟨hlo, hs, mid, hrest, hys⟩
      exact ⟨mid, ⟨hlo, hs, hrest⟩, hys⟩
    · rintro ⟨mid, ⟨hlo, hs, hrest⟩, hys⟩
      exact ⟨hlo, hs, mid, hrest, hys⟩

theorem Laid.sits {ss : List Span} (h : Laid P lo hi ss) :
    ∀ s ∈ ss, lo ≤ s.start ∧ s.stop ≤ hi ∧ s.Sits P := by
  induction ss generalizing lo with
  | nil => simp
  | cons first rest ih =>
    obtain ⟨hlo, hfirst, hrest⟩ := h
    intro s hmem
    rcases List.mem_cons.mp hmem with rfl | hmem
    · exact ⟨hlo, hrest.le, hfirst⟩
    · obtain ⟨hstart, hstop, hs⟩ := ih hrest s hmem
      have hlt := hfirst.start_lt_stop
      exact ⟨by omega, hstop, hs⟩

/-- Of two ranges the first ends before the second begins. -/
theorem Laid.pairwise {ss : List Span} (h : Laid P lo hi ss) :
    ss.Pairwise fun a b => a.stop ≤ b.start := by
  induction ss generalizing lo with
  | nil => exact .nil
  | cons first rest ih =>
    obtain ⟨-, -, hrest⟩ := h
    exact List.pairwise_cons.mpr ⟨fun s hs => (hrest.sits s hs).1, ih hrest⟩

/-- Ranges one after another end where the last one does. -/
theorem Laid.upToLast {ss : List Span} {last : Span} (h : Laid P lo hi ss)
    (hlast : ss.getLast? = some last) : Laid P lo last.stop ss := by
  obtain ⟨front, rfl⟩ := List.getLast?_eq_some_iff.mp hlast
  obtain ⟨mid, hfront, hmid, hs, -⟩ := laid_append.mp h
  exact laid_append.mpr ⟨mid, hfront, hmid, hs, Nat.le_refl _⟩

/-! ## Lexemes -/

/-- The lexemes stand one after another from `lo` to `hi` at most. -/
def InOrder (P : Nat → Prop) (lo hi : Nat) (ls : List Lexeme) : Prop :=
  Laid P lo hi (ls.map Lexeme.span)

theorem inOrder_cons {token : Token} {span : Span} {ls : List Lexeme} :
    InOrder P lo hi (⟨token, span⟩ :: ls) ↔
      lo ≤ span.start ∧ span.Sits P ∧ InOrder P span.stop hi ls := Iff.rfl

theorem inOrder_append {xs ys : List Lexeme} :
    InOrder P lo hi (xs ++ ys) ↔ ∃ mid, InOrder P lo mid xs ∧ InOrder P mid hi ys := by
  rw [InOrder, List.map_append]
  exact laid_append

theorem InOrder.left {xs ys : List Lexeme} (h : InOrder P lo hi (xs ++ ys)) :
    InOrder P lo hi xs := by
  obtain ⟨mid, hxs, hys⟩ := inOrder_append.mp h
  exact hxs.widen (Nat.le_refl lo) hys.le

theorem InOrder.tail {l : Lexeme} {ls : List Lexeme} (h : InOrder P lo hi (l :: ls)) :
    InOrder P lo hi ls := by
  obtain ⟨hlo, hl, hls⟩ := h
  exact hls.widen (Nat.le_trans hlo (Nat.le_of_lt hl.start_lt_stop)) (Nat.le_refl hi)

/-- Lexemes before a last one end where that begins. -/
theorem InOrder.closed {ls : List Lexeme} {token : Token} {closing : Span}
    (h : InOrder P lo hi (ls ++ [⟨token, closing⟩])) :
    InOrder P lo closing.start ls ∧ closing.Sits P ∧ closing.stop ≤ hi := by
  obtain ⟨mid, hls, hlast⟩ := inOrder_append.mp h
  obtain ⟨hle, hclosing, hhi⟩ := inOrder_cons.mp hlast
  exact ⟨hls.widen (Nat.le_refl lo) hle, hclosing, hhi⟩

/-- The lexemes of a text stand one after another in it. -/
theorem lexFrom_inOrder {pos : Nat} {cs : List Char} (hcovers : Covers P pos cs)
    {ls : List Lexeme} (h : lexFrom pos cs = .ok ls) : InOrder P pos (pos + utf8Width cs) ls := by
  fun_induction lexFrom pos cs generalizing ls with
  | case1 =>
    rw [← Except.ok.inj h]
    exact Nat.le_refl _
  -- blanks and comments leave a gap before what follows
  | case2 pos c rest _ ih =>
    rw [utf8Width_cons, ← Nat.add_assoc]
    exact (ih hcovers.tail h).widen (Nat.le_add_right _ _) (Nat.le_refl _)
  | case3 pos c rest _ _ comment ih =>
    have hwidth : utf8Width comment + utf8Width (rest.drop comment.length) = utf8Width rest := by
      rw [← utf8Width_take_drop comment.length rest, take_length_takeWhile]
    refine (ih (hcovers.afterWhile _) h).widen (by omega) ?_
    rw [utf8Width_cons, ← hwidth]
    omega
  -- a token begins at the first character and ends before the rest; it takes at least one
  -- character, whatever the number of those after it
  | case4 pos c rest _ _ token taken hscan stop ih =>
    obtain ⟨more, hmore, rfl⟩ := except_map_eq_ok.mp h
    have hsize := c.utf8Size_pos
    have hwidth := utf8Width_take_drop taken rest
    have hstop : P stop := (hcovers.dropCons taken).first
    have hlexeme : Span.Sits P ⟨pos, stop⟩ := ⟨by dsimp only [stop]; omega, hcovers.first, hstop⟩
    refine ⟨Nat.le_refl _, hlexeme, (ih (hcovers.dropCons taken) hmore).widen (Nat.le_refl _) ?_⟩
    rw [utf8Width_cons, ← hwidth]
    omega
  | case5 => simp at h

/-- What the lexer cannot read is reported at characters of the text. -/
theorem lexFrom_fault {pos : Nat} {cs : List Char} (hcovers : Covers P pos cs) {e : SyntaxError}
    (h : lexFrom pos cs = .error e) : e.span.Sits P := by
  fun_induction lexFrom pos cs with
  | case1 => simp at h
  | case2 pos c rest _ ih => exact ih hcovers.tail h
  | case3 pos c rest _ _ comment ih => exact ih (hcovers.afterWhile _) h
  | case4 pos c rest _ _ token taken hscan stop ih =>
    -- the fault is that of the rest, whatever token stands before it
    have hrest : lexFrom stop (rest.drop taken) = .error e := by
      cases hmore : lexFrom stop (rest.drop taken) with
      | ok more => simp [hmore, Except.map] at h
      | error e' => simpa [hmore, Except.map] using h
    exact ih (hcovers.dropCons taken) hrest
  | case5 pos c rest _ _ fault hscan =>
    have hsize := c.utf8Size_pos
    rw [← Except.error.inj h]
    exact ⟨by dsimp only; omega, hcovers.first, (hcovers.dropCons fault.extra).first⟩

/-! ## Trees -/

/-- The range of a node sits at offsets in `P`, and so do those of its children, one after another
inside it. -/
structure Span.Encloses (P : Nat → Prop) (s : Span) (inner : List Span) : Prop where
  sits : s.Sits P
  inner : Laid P s.start s.stop inner

/-- The trees stand one after another between `lo` and `hi`, and every node encloses its
children. -/
structure Placed (P : Nat → Prop) (lo hi : Nat) (es : List RawExpr) : Prop where
  roots : Laid P lo hi (es.map Expr.mark)
  nodes : ∀ n ∈ nodesAll es, n.mark.Encloses P (n.children.map Expr.mark)

namespace Placed

variable {lo' hi' mid : Nat} {e n : RawExpr} {es xs ys : List RawExpr}

theorem nil (h : lo ≤ hi) : Placed P lo hi [] :=
  ⟨h, by simp [nodesAll]⟩

theorem widen (h : Placed P lo hi es) (hlo : lo' ≤ lo) (hhi : hi ≤ hi') : Placed P lo' hi' es :=
  ⟨h.roots.widen hlo hhi, h.nodes⟩

theorem append (hx : Placed P lo mid xs) (hy : Placed P mid hi ys) : Placed P lo hi (xs ++ ys) := by
  constructor
  · rw [List.map_append]
    exact laid_append.mpr ⟨mid, hx.roots, hy.roots⟩
  · intro n hn
    rw [nodesAll_eq_flatMap, List.flatMap_append, List.mem_append, ← nodesAll_eq_flatMap,
      ← nodesAll_eq_flatMap] at hn
    exact hn.elim (hx.nodes n) (hy.nodes n)

theorem start_le (h : Placed P lo hi [e]) : lo ≤ e.mark.start := h.roots.1

theorem stop_le (h : Placed P lo hi [e]) : e.mark.stop ≤ hi := h.roots.2.2

theorem sits (h : Placed P lo hi [e]) : e.mark.Sits P := h.roots.2.1

theorem lt (h : Placed P lo hi (e :: es)) : lo < hi :=
  calc lo ≤ e.mark.start := h.roots.1
    _ < e.mark.stop := h.roots.2.1.start_lt_stop
    _ ≤ hi := h.roots.2.2.le

/-- A tree needs no room after its end. -/
theorem upToStop (h : Placed P lo hi [e]) : Placed P lo e.mark.stop [e] :=
  ⟨⟨h.start_le, h.sits, Nat.le_refl _⟩, h.nodes⟩

/-- Several trees need no room before the first. -/
theorem fromStart (h : Placed P lo hi (e :: es)) : Placed P e.mark.start hi (e :: es) :=
  ⟨⟨Nat.le_refl _, h.roots.2⟩, h.nodes⟩

/-- A node is placed once its children are placed in its range. -/
theorem node {s : Span} (hmark : n.mark = s) (hchildren : n.children = es) (hlo : lo ≤ s.start)
    (hhi : s.stop ≤ hi) (hsits : s.Sits P) (hall : Placed P s.start s.stop es) :
    Placed P lo hi [n] := by
  subst hmark hchildren
  refine ⟨⟨hlo, hsits, hhi⟩, fun m hm => ?_⟩
  rw [nodesAll, nodesAll, List.append_nil, n.nodes_eq, List.mem_append, List.mem_singleton] at hm
  rcases hm with hm | rfl
  · exact hall.nodes m hm
  · exact ⟨hsits, hall.roots⟩

/-- A node of one lexeme. -/
theorem leaf {s : Span} (hmark : n.mark = s) (hchildren : n.children = []) (hlo : lo ≤ s.start)
    (hhi : s.stop ≤ hi) (hsits : s.Sits P) : Placed P lo hi [n] :=
  node hmark hchildren hlo hhi hsits (.nil (Nat.le_of_lt hsits.start_lt_stop))

/-- A node from a lexeme to the end of its only child. -/
theorem prefixed {opening : Span} (hmark : n.mark = ⟨opening.start, e.mark.stop⟩)
    (hchildren : n.children = [e]) (hlo : lo ≤ opening.start) (hopening : opening.Sits P)
    (hchild : Placed P opening.stop hi [e]) : Placed P lo hi [n] := by
  have hall : Placed P opening.start e.mark.stop [e] :=
    hchild.upToStop.widen (Nat.le_of_lt hopening.start_lt_stop) (Nat.le_refl _)
  have hsits : Span.Sits P ⟨opening.start, e.mark.stop⟩ :=
    ⟨hall.lt, hopening.start, hchild.sits.stop⟩
  exact node hmark hchildren hlo hchild.stop_le hsits hall

/-- A node from the start of its first child to a lexeme. -/
theorem postfixed {closing : Span} (hmark : n.mark = ⟨e.mark.start, closing.stop⟩)
    (hchildren : n.children = e :: es) (hclosing : closing.Sits P) (hhi : closing.stop ≤ hi)
    (h : Placed P lo closing.start (e :: es)) : Placed P lo hi [n] := by
  have hall : Placed P e.mark.start closing.stop (e :: es) :=
    h.fromStart.widen (Nat.le_refl _) (Nat.le_of_lt hclosing.start_lt_stop)
  obtain ⟨hlo, hfirst, -⟩ := h.roots
  exact node hmark hchildren hlo hhi ⟨hall.lt, hfirst.start, hclosing.stop⟩ hall

/-- A node from a lexeme to another. -/
theorem enclosed {opening closing : Span} (hmark : n.mark = ⟨opening.start, closing.stop⟩)
    (hchildren : n.children = es) (hlo : lo ≤ opening.start) (hopening : opening.Sits P)
    (hclosing : closing.Sits P) (hhi : closing.stop ≤ hi)
    (h : Placed P opening.stop closing.start es) : Placed P lo hi [n] := by
  have hfirst := hopening.start_lt_stop
  have hlast := hclosing.start_lt_stop
  have hall : Placed P opening.start closing.stop es :=
    h.widen (Nat.le_of_lt hfirst) (Nat.le_of_lt hlast)
  have hlt : opening.start < closing.stop :=
    calc opening.start < opening.stop := hfirst
      _ ≤ closing.start := h.roots.le
      _ < closing.stop := hlast
  exact node hmark hchildren hlo hhi ⟨hlt, hopening.start, hclosing.stop⟩ hall

end Placed

mutual

/-- A tree is placed where the lexemes of its phrase stand. -/
theorem Derives.placed {d lo hi : Nat} {form : Form} {ls : List Lexeme} {e : RawExpr}
    (h : Derives d form ls e) (hls : InOrder P lo hi ls) : Placed P lo hi [e] := by
  match h with
  -- a form that is also a tighter one, and parentheses, which leave no node behind
  | .plain he | .unconditional he | .tighter he | .single he | .unprefixed he | .atomic he =>
    exact he.placed hls
  | .parens he => exact he.placed hls.left.tail
  -- one lexeme
  | .literal | .ident =>
    obtain ⟨hlo, hsits, hhi⟩ := inOrder_cons.mp hls
    exact .leaf rfl rfl hlo hhi hsits
  -- from a lexeme to the end of a child
  | .lambda hbody =>
    obtain ⟨hlo, hname, hrest⟩ := inOrder_cons.mp hls
    exact .prefixed rfl rfl hlo hname (hbody.placed hrest.tail)
  | .parenLambda hbody =>
    obtain ⟨hlo, hopening, hrest⟩ := inOrder_cons.mp hls
    exact .prefixed rfl rfl hlo hopening (hbody.placed hrest.tail.tail.tail)
  | .unary _ he =>
    obtain ⟨hlo, hop, hrest⟩ := inOrder_cons.mp hls
    exact .prefixed rfl rfl hlo hop (he.placed hrest)
  -- from the start of a child to the end of another
  | .binary hleft _ hright =>
    obtain ⟨mid, hfront, hrest⟩ := inOrder_append.mp hls
    have ihl := hleft.placed hfront
    have ihr := hright.placed hrest.tail
    have hall := (ihl.append ihr.upToStop).fromStart
    exact .node rfl rfl ihl.start_le ihr.stop_le ⟨hall.lt, ihl.sits.start, ihr.sits.stop⟩ hall
  | .conditional hcond htrue hfalse =>
    obtain ⟨mid', hfront, hlast⟩ := inOrder_append.mp hls
    obtain ⟨mid, hfirst, hmiddle⟩ := inOrder_append.mp hfront
    have ihc := hcond.placed hfirst
    have iht := htrue.placed hmiddle.tail
    have ihf := hfalse.placed hlast.tail
    -- `?` and `:` leave gaps, which is all that three children in a row need
    have hall := (ihc.append (iht.append ihf.upToStop)).fromStart
    exact .node rfl rfl ihc.start_le ihf.stop_le ⟨hall.lt, ihc.sits.start, ihf.sits.stop⟩ hall
  -- from the start of a child to the end of a lexeme
  | .call htarget hargs =>
    obtain ⟨hin, hclosing, hhi⟩ := hls.closed
    obtain ⟨mid, hfront, hrest⟩ := inOrder_append.mp hin
    have hall := (htarget.placed hfront).append (hargs.placed hrest.tail)
    exact .postfixed rfl rfl hclosing hhi hall
  | .index htarget hposition =>
    obtain ⟨hin, hclosing, hhi⟩ := hls.closed
    obtain ⟨mid, hfront, hrest⟩ := inOrder_append.mp hin
    have hall := (htarget.placed hfront).append (hposition.placed hrest.tail)
    exact .postfixed rfl rfl hclosing hhi hall
  | .member htarget =>
    -- the name is the last lexeme; the dot only stands between
    rw [List.append_cons] at hls
    obtain ⟨hin, hname, hhi⟩ := hls.closed
    exact .postfixed rfl rfl hname hhi (htarget.placed hin.left)
  -- from a lexeme to another
  | .typeOf hname =>
    obtain ⟨hin, hclosing, hhi⟩ := hls.closed
    obtain ⟨hlo, hkeyword, hrest⟩ := inOrder_cons.mp hin
    exact .enclosed rfl rfl hlo hkeyword hclosing hhi (.nil hrest.le)
  | .newArray hitems =>
    obtain ⟨hin, hclosing, hhi⟩ := hls.closed
    obtain ⟨hlo, hkeyword, hrest⟩ := inOrder_cons.mp hin
    exact .enclosed rfl rfl hlo hkeyword hclosing hhi (hitems.placed hrest.tail.tail.tail)
  | .array hitems =>
    obtain ⟨hin, hclosing, hhi⟩ := hls.closed
    obtain ⟨hlo, hopening, hrest⟩ := inOrder_cons.mp hin
    exact .enclosed rfl rfl hlo hopening hclosing hhi (hitems.placed hrest)

theorem DerivesItems.placed {d lo hi : Nat} {ls : List Lexeme} {items : List RawExpr}
    (h : DerivesItems d ls items) (hls : InOrder P lo hi ls) : Placed P lo hi items := by
  match h with
  | .one he => exact he.placed hls
  | .more hitems he =>
    obtain ⟨mid, hfront, hrest⟩ := inOrder_append.mp hls
    exact (hitems.placed hfront).append (he.placed hrest.tail)

theorem DerivesList.placed {d lo hi : Nat} {ls : List Lexeme} {items : List RawExpr}
    (h : DerivesList d ls items) (hls : InOrder P lo hi ls) : Placed P lo hi items := by
  match h with
  | .nil => exact .nil hls
  | .items hitems => exact hitems.placed hls
  | .trailing hitems => exact hitems.placed hls.left

end

end GatedPredicate.Syntax
