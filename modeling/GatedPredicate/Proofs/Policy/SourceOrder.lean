import GatedPredicate.Proofs.Policy.Forbidden
import GatedPredicate.Proofs.Syntax.Anchors
import Mathlib.Order.Bounds.Basic
import Mathlib.Order.Lattice.Nat

/-!
# The order of a report

The check sorts what it finds by the offsets of nodes and not by those of tokens. For most nodes
this is the order of the text, since a name, a `typeof` and a chain begin with the token that makes
them offend, and nothing can be mentioned between the start of a lambda and its parameter. A member
access, however, begins with its target and ends with its name: a violation by that name is reported
before all those of the arguments of a call in front of it.

- `Place.Holds.start_of_chain`: a chain begins where each of its nodes begins
- `Policy.FoundAt`, `Policy.mem_findings_iff`: where the walk finds what the policy forbids
- `Policy.CausedAt`: the tokens that cause a violation
- `Policy.check_order`: how far a report is in the order of its text
-/

namespace GatedPredicate

open GatedPredicate.Syntax

variable {p : Policy} {schema : Schema} {v : Violation} {ls : List Lexeme} {tree : Expr Mark}

/-! ## Places in a text -/

theorem Place.Holds.mem_nodes {x y : Place} (h : x.Holds y) : y.expr ∈ x.expr.nodes := by
  induction h with
  | self x => exact x.expr.self_mem_nodes
  | inner hz _ ih => exact Expr.mem_nodes.2 (.inl ⟨_, expr_mem_children hz, ih⟩)

/-- All nodes of a chain of names begin where the chain begins. -/
theorem Place.Holds.start_of_chain {x y : Place} (h : x.Holds y) {path : List String}
    (hpath : x.expr.dottedPath? = some path) (hx : AllAnchored Mark.span ls x.expr) :
    y.expr.mark.span.start = x.expr.mark.span.start := by
  induction h generalizing path with
  | self => rfl
  | @inner x z y hz _ ih =>
    obtain ⟨scope, accessed, e⟩ := x
    cases e with
    | ident => cases hz
    | member m target name =>
      obtain rfl := List.mem_singleton.1 hz
      obtain ⟨init, hinit, -⟩ := Option.map_eq_some_iff.1 hpath
      exact (ih hinit (hx.child (List.mem_singleton_self _))).trans hx.self.own.1.symm
    | _ => cases hpath

namespace Policy

/-- A node that begins at the offset offends by the violation. -/
def FoundAt (p : Policy) (schema : Schema) (x : Place) (v : Violation) (n : Nat) : Prop :=
  ∃ y, x.Holds y ∧ p.Offends schema y v ∧ y.expr.mark.span.start = n

theorem foundAt_iff {x : Place} {n : Nat} :
    p.FoundAt schema x v n ↔
      (p.Offends schema x v ∧ x.expr.mark.span.start = n) ∨
        ∃ z ∈ x.inner, p.FoundAt schema z v n :=
  Place.exists_holds_iff

/-- In the tree of a text the walk finds each violation where an offending node begins. -/
theorem mem_findings_iff {f : Finding} (hr : p.Reports f.violation) (x : Place)
    (hx : x.accessed = true → x.expr.dottedPath? = none) (h : AllAnchored Mark.span ls x.expr) :
    f ∈ p.findings schema x.scope x.expr ↔ p.FoundAt schema x f.violation f.place := by
  revert h
  refine Place.inductionOnWalk ?chain ?node x hx
  case chain =>
    intro scope m target name path hpath h
    have hchain : (Expr.member m target name).dottedPath? = some (path ++ [name]) := by
      simp [Expr.dottedPath?, hpath]
    rw [findings, hpath]
    simp only
    rw [mem_found, mem_chainViolations hr hpath]
    constructor
    · rintro ⟨hplace, y, hholds, hoffends⟩
      exact ⟨y, hholds, hoffends, (hholds.start_of_chain hchain h).trans hplace.symm⟩
    · rintro ⟨y, hholds, hoffends, hplace⟩
      exact ⟨hplace.symm.trans (hholds.start_of_chain hchain h), y, hholds, hoffends⟩
  case node =>
    intro x hx ih h
    rw [mem_findings_inner hx, mem_found, foundAt_iff, offends_iff_own hr hx, and_comm, eq_comm]
    refine or_congr_right (exists_congr fun z => and_congr_right fun hz => ?_)
    exact ih z hz (h.child (Place.expr_mem_children hz))

/-! ## What is reported at all -/

theorem reports_of_mem_nameViolations {name : String} (h : v ∈ p.nameViolations name) :
    p.Reports v := by
  rintro rfl
  simp only [nameViolations, List.mem_append] at h
  rcases h with h | h <;> split at h <;> simp_all

theorem reports_of_mem_typeOfViolations {operand : String} (h : v ∈ p.typeOfViolations operand) :
    p.Reports v := by
  rintro rfl
  simp only [typeOfViolations, List.mem_append, List.mem_flatMap] at h
  rcases h with h | ⟨segment, -, h⟩ <;> split at h <;> simp_all

theorem reports_of_mem_ownViolations {e : Expr Mark} (h : v ∈ p.ownViolations e) :
    p.Reports v := by
  unfold ownViolations at h
  split at h
  · exact reports_of_mem_nameViolations h
  · exact reports_of_mem_nameViolations h
  · exact reports_of_mem_nameViolations h
  · exact reports_of_mem_typeOfViolations h
  · cases h

theorem reports_of_mem_chainViolations {scope path : List String}
    (h : v ∈ p.chainViolations schema scope path) : p.Reports v := by
  rcases List.mem_append.1 h with h | h
  · obtain ⟨name, -, h⟩ := List.mem_flatMap.1 h
    exact reports_of_mem_nameViolations h
  · cases path with
    | nil => cases h
    | cons root rest =>
      simp only at h
      split at h
      · cases h
      · obtain ⟨rfl, -⟩ := mem_namespaceViolations.1 h
        exact nofun

/-- The walk finds no inspection of types where the policy allows it. -/
theorem reports_of_mem_findings {f : Finding} (x : Place)
    (hx : x.accessed = true → x.expr.dottedPath? = none)
    (hf : f ∈ p.findings schema x.scope x.expr) : p.Reports f.violation := by
  revert hf
  refine Place.inductionOnWalk ?chain ?node x hx
  case chain =>
    intro scope m target name path hpath hf
    rw [findings, hpath] at hf
    exact reports_of_mem_chainViolations (mem_found.1 hf).2
  case node =>
    intro x hx ih hf
    rcases (mem_findings_inner hx).1 hf with hown | ⟨z, hz, hf⟩
    · exact reports_of_mem_ownViolations (mem_found.1 hown).2
    · exact ih z hz hf

/-! ## The order of the walk -/

/-- Of two violations in a report the first has a finding in front of all those of the second. -/
theorem check_pairwise (p : Policy) (schema : Schema) (tree : Expr Mark) :
    (p.check schema tree).Pairwise fun v w =>
      ∃ f ∈ p.findings schema [] tree, f.violation = v ∧
        ∀ g ∈ p.findings schema [] tree, g.violation = w → f.place ≤ g.place := by
  have hsorted : ((p.findings schema [] tree).mergeSort fun a b => a.place ≤ b.place).Pairwise
      fun a b => a.place ≤ b.place := by
    refine (List.pairwise_mergeSort ?_ ?_ _).imp of_decide_eq_true
    · intro a b c hab hbc
      simp only [decide_eq_true_eq] at hab hbc ⊢
      exact Nat.le_trans hab hbc
    · intro a b
      simpa using Nat.le_total a.place b.place
  have herased := pairwise_eraseDups_map (fun f : Finding => Nat.le_refl f.place)
    Finding.violation hsorted
  simp only [List.mem_mergeSort] at herased
  exact herased

/-- In the tree of a text a report is in the order of the nodes that violations are found at. -/
theorem check_pairwise_foundAt (p : Policy) (schema : Schema)
    (h : AllAnchored Mark.span ls tree) :
    (p.check schema tree).Pairwise fun v w =>
      ∃ n, p.FoundAt schema (.root tree) v n ∧
        ∀ m, p.FoundAt schema (.root tree) w m → n ≤ m := by
  have hroot := Place.dottedPath?_root tree
  have hreports : ∀ f ∈ p.findings schema [] tree, p.Reports f.violation :=
    fun f hf => reports_of_mem_findings (.root tree) hroot hf
  refine (check_pairwise p schema tree).imp_of_mem ?_
  rintro v w - hw ⟨f, hf, rfl, hbefore⟩
  refine ⟨f.place, (mem_findings_iff (hreports f hf) (.root tree) hroot h).1 hf, fun m hm => ?_⟩
  obtain ⟨g, hg, rfl⟩ := mem_check_iff.1 hw
  have hfound : ⟨m, g.violation⟩ ∈ p.findings schema [] tree :=
    (mem_findings_iff (f := ⟨m, g.violation⟩) (hreports g hg) (.root tree) hroot h).2 hm
  exact hbefore _ hfound rfl

/-! ## The tokens that cause a violation -/

/-- Where the token stands that makes a node offend: its name, the keyword of a `typeof`, or for a
namespace the start of its chain. -/
inductive CauseOf (ls : List Lexeme) (e : Expr Mark) : Violation → Nat → Prop where
  | name {v : Violation} {l : Lexeme} : (∀ path, v ≠ .disallowedNamespace path) →
      NamedBy Mark.span ls e l → CauseOf ls e v l.span.start
  | typeOf {v : Violation} {m : Mark} {operand : String} : e = .typeOf m operand →
      CauseOf ls e v m.span.start
  | chain {path : String} : CauseOf ls e (.disallowedNamespace path) e.mark.span.start

/-- A token at the offset causes the violation. -/
def CausedAt (p : Policy) (schema : Schema) (ls : List Lexeme) (tree : Expr Mark) (v : Violation)
    (n : Nat) : Prop :=
  ∃ x, (Place.root tree).Holds x ∧ p.Offends schema x v ∧ CauseOf ls x.expr v n

/-- The first token that causes the violation. -/
def FirstCause (p : Policy) (schema : Schema) (ls : List Lexeme) (tree : Expr Mark)
    (v : Violation) (n : Nat) : Prop :=
  IsLeast {k | p.CausedAt schema ls tree v k} n

/-- A member access that begins at `m` or before it offends by the name at its end, which stands
behind `m`. -/
def NamedAcross (p : Policy) (schema : Schema) (ls : List Lexeme) (tree : Expr Mark)
    (v : Violation) (m : Nat) : Prop :=
  ∃ x mark target name k, (Place.root tree).Holds x ∧ x.expr = .member mark target name ∧
    p.Offends schema x v ∧ CauseOf ls x.expr v k ∧ mark.span.start ≤ m ∧ m < k

theorem exists_namedBy {e : Expr Mark} {n : String} (h : e.Anchored Mark.span ls)
    (hn : n ∈ e.ownNames) : ∃ l, NamedBy Mark.span ls e l := by
  cases e with
  | ident => exact h.own
  | lambda => exact h.own
  | member => exact h.own.2
  | _ => cases hn

/-- A node with lexemes does not offend without a token. -/
theorem exists_causeOf {x : Place} (h : x.expr.Anchored Mark.span ls)
    (hoffends : p.Offends schema x v) : ∃ k, CauseOf ls x.expr v k := by
  cases hoffends with
  | deniedName hn =>
    obtain ⟨l, hl⟩ := exists_namedBy h hn
    exact ⟨_, .name nofun hl⟩
  | reflectionName hn =>
    obtain ⟨l, hl⟩ := exists_namedBy h hn
    exact ⟨_, .name nofun hl⟩
  | deniedSegment he => exact ⟨_, .typeOf he⟩
  | typeOf he => exact ⟨_, .typeOf he⟩
  | namespaceChain => exact ⟨_, .chain⟩

/-- Violations are caused by what is mentioned. -/
theorem exists_mention_of_causeOf {x : Place} {k : Nat} (h : AllAnchored Mark.span ls x.expr)
    (hoffends : p.Offends schema x v) (hcause : CauseOf ls x.expr v k) :
    ∃ l ∈ ls, l.token.mentions ≠ [] ∧ l.span.start = k := by
  cases hcause with
  | name _ hl => exact ⟨_, hl.mem, hl.mentions_ne_nil, rfl⟩
  | typeOf he =>
    obtain ⟨l, hl, htoken, hstart⟩ := h.self.keyword he
    exact ⟨l, hl, by simp [htoken, Token.mentions], hstart⟩
  | chain =>
    cases hoffends with
    | namespaceChain _ hpath => exact h.exists_chainStart hpath

/-- No token that causes a violation stands in front of its node. -/
theorem start_le_of_causeOf {e : Expr Mark} {k : Nat} (h : Reading ls tree) (he : e ∈ tree.nodes)
    (hcause : CauseOf ls e v k) : e.mark.span.start ≤ k := by
  cases hcause with
  | name _ hl => exact h.start_le_of_namedBy he hl
  | typeOf heq => exact heq ▸ Nat.le_refl _
  | chain => exact Nat.le_refl _

/-- A node that begins no later than a token is made to offend no later, unless it is a member
access and the token stands between its start and its name. -/
theorem causeOf_le {x : Place} {l : Lexeme} (h : Reading ls tree) (hx : (Place.root tree).Holds x)
    (hoffends : p.Offends schema x v) (hl : l ∈ ls) (hmention : l.token.mentions ≠ [])
    (hle : x.expr.mark.span.start ≤ l.span.start) :
    (∃ k ≤ l.span.start, p.CausedAt schema ls tree v k) ∨
      p.NamedAcross schema ls tree v l.span.start := by
  have hmem : x.expr ∈ tree.nodes := hx.mem_nodes
  obtain ⟨k, hcause⟩ := exists_causeOf (h.anchored _ hmem) hoffends
  rcases Nat.lt_or_ge l.span.start k with hlt | hge
  · cases hcause with
    | typeOf he =>
      rw [he] at hle
      exact absurd hle (Nat.not_le_of_lt hlt)
    | chain => exact absurd hle (Nat.not_le_of_lt hlt)
    | name hv hname =>
      cases he : x.expr with
      | member mark target name =>
        refine .inr ⟨x, mark, target, name, _, hx, he, hoffends, .name hv hname, ?_, hlt⟩
        rwa [he] at hle
      | ident =>
        rw [he] at hle hname
        cases hname with
        | ident => exact absurd hle (Nat.not_le_of_lt hlt)
      | lambda =>
        rw [he] at hle hname
        exact absurd (h.parameter_le hname hl hmention hle) (Nat.not_le_of_lt hlt)
      | _ =>
        rw [he] at hname
        cases hname
  · exact .inl ⟨k, hge, x, hx, hoffends, hcause⟩

/-- A denied name is caused by itself, or by a `typeof` with the name in its operand. -/
theorem token_of_causedAt {n : String} {k : Nat} (h : Reading ls tree)
    (hcaused : p.CausedAt schema ls tree (.deniedName n) k) :
    ∃ l ∈ ls, (l.token = .ident n ∨ l.token = .typeOf) ∧ l.span.start = k := by
  obtain ⟨x, hx, hoffends, hcause⟩ := hcaused
  cases hcause with
  | typeOf he =>
    obtain ⟨l, hl, htoken, hstart⟩ := (h.anchored _ hx.mem_nodes).keyword he
    exact ⟨l, hl, .inr htoken, hstart⟩
  | name _ hname =>
    refine ⟨_, hname.mem, .inl ?_, rfl⟩
    cases hoffends with
    | deniedName hn =>
      generalize x.expr = e at hn hname
      cases hname <;> exact congrArg Token.ident (List.mem_singleton.1 hn).symm
    | deniedSegment he =>
      rw [he] at hname
      cases hname

/-- The first cause of a denied name is a name or `typeof` that no other stands in front of. -/
theorem firstCause_deniedName {n : String} {k : Nat} (h : Reading ls tree)
    (hcaused : p.CausedAt schema ls tree (.deniedName n) k)
    (hfirst : ∀ l ∈ ls, l.token = .ident n ∨ l.token = .typeOf → k ≤ l.span.start) :
    p.FirstCause schema ls tree (.deniedName n) k := by
  refine ⟨hcaused, ?_⟩
  intro other hother
  obtain ⟨l, hl, htoken, rfl⟩ := token_of_causedAt h hother
  exact hfirst l hl htoken

/-! ## The order of a report -/

/-- Every violation in a report has a first token that causes it. The report is in the order of the
nodes that offend, and so it is in the order of these tokens too, except that a violation by the
name at the end of a member access may come before others between the start of the access and the
name. -/
theorem check_order (p : Policy) (schema : Schema) {maxDepth : Nat} {source : String}
    {ls : List Lexeme} {tree : Expr Mark} (hlex : lex source = .ok ls)
    (hparse : parse maxDepth source = .complete tree) :
    (∀ v ∈ p.check schema tree, ∃ n, p.FirstCause schema ls tree v n) ∧
      ((p.check schema tree).Pairwise fun v w =>
        ∃ n, p.FoundAt schema (.root tree) v n ∧
          ∀ m, p.FoundAt schema (.root tree) w m → n ≤ m) ∧
      (p.check schema tree).Pairwise fun v w =>
        ∀ n m, p.FirstCause schema ls tree v n → p.FirstCause schema ls tree w m →
          n ≤ m ∨ p.NamedAcross schema ls tree v m := by
  have hreading := reading_of_parse hlex hparse
  have hfound := check_pairwise_foundAt p schema hreading.anchored
  refine ⟨?_, hfound, hfound.imp ?_⟩
  · intro v hv
    obtain ⟨f, hf, rfl⟩ := mem_check_iff.1 hv
    have hreports := reports_of_mem_findings (.root tree) (Place.dottedPath?_root tree) hf
    obtain ⟨x, hx, hoffends⟩ := (mem_check hreports tree).1 hv
    obtain ⟨k, hk⟩ := exists_causeOf (hreading.anchored _ hx.mem_nodes) hoffends
    exact ⟨_, isLeast_csInf ⟨k, x, hx, hoffends, hk⟩⟩
  · rintro v w ⟨start, ⟨x, hx, hoffends, rfl⟩, hbefore⟩ n m ⟨-, hn⟩ ⟨⟨y, hy, hw, hcause⟩, -⟩
    -- `v` is found at `x`, which begins no later than the node with the first token of `w`
    have hmem : y.expr ∈ tree.nodes := hy.mem_nodes
    have hle : x.expr.mark.span.start ≤ m :=
      calc x.expr.mark.span.start ≤ y.expr.mark.span.start := hbefore _ ⟨y, hy, hw, rfl⟩
        _ ≤ m := start_le_of_causeOf hreading hmem hcause
    have hy := hreading.anchored.below hmem
    obtain ⟨l, hl, hmention, rfl⟩ := exists_mention_of_causeOf hy hw hcause
    rcases causeOf_le hreading hx hoffends hl hmention hle with ⟨k, hk, hcaused⟩ | hacross
    · exact .inl (Nat.le_trans (hn hcaused) hk)
    · exact .inr hacross

/-- The parameter `Dns` is found at the parenthesis in front of it, and `GC` in front of `File`. -/
theorem check_order_lambda :
    let source := "(Dns) => f(File).GC"
    let ls : List Lexeme := [⟨.symbol .lparen, ⟨0, 1⟩⟩, ⟨.ident "Dns", ⟨1, 4⟩⟩,
      ⟨.symbol .rparen, ⟨4, 5⟩⟩, ⟨.symbol .arrow, ⟨6, 8⟩⟩, ⟨.ident "f", ⟨9, 10⟩⟩,
      ⟨.symbol .lparen, ⟨10, 11⟩⟩, ⟨.ident "File", ⟨11, 15⟩⟩, ⟨.symbol .rparen, ⟨15, 16⟩⟩,
      ⟨.symbol .dot, ⟨16, 17⟩⟩, ⟨.ident "GC", ⟨17, 19⟩⟩]
    let tree : Expr Mark := .lambda ⟨5, ⟨0, 19⟩⟩ "Dns" (.member ⟨4, ⟨9, 19⟩⟩
      (.call ⟨3, ⟨9, 16⟩⟩ (.ident ⟨1, ⟨9, 10⟩⟩ "f") [.ident ⟨2, ⟨11, 15⟩⟩ "File"]) "GC")
    lex source = .ok ls ∧ parse 4 source = .complete tree ∧
      (∃ n, Policy.standard.FirstCause .standard ls tree (.deniedName "Dns") n) ∧
      (Policy.standard.check .standard tree).Pairwise fun v w =>
        ∀ n m, Policy.standard.FirstCause .standard ls tree v n →
          Policy.standard.FirstCause .standard ls tree w m →
            n ≤ m ∨ Policy.standard.NamedAcross .standard ls tree v m := by
  intro source ls tree
  have hlex : lex source = .ok ls := by decide +kernel
  have hlexemes : parseLexemes 4 ls = .complete tree :=
    (parseLexemes_of_parseNested rfl rfl).trans rfl
  have hparse : parse 4 source = .complete tree := by rw [parse, hlex, ← hlexemes]
  have hdns : Policy.standard.isDenied "Dns" = true := by
    rw [standard_isDenied]
    decide
  have hreports : Policy.standard.Reports (.deniedName "Dns") := by
    intro h
    cases h
  have hmem : .deniedName "Dns" ∈ Policy.standard.check .standard tree :=
    (mem_check hreports tree).2 ⟨.root tree, .self _, .deniedName (List.mem_singleton_self _) hdns⟩
  obtain ⟨hcause, -, hordered⟩ := check_order Policy.standard .standard hlex hparse
  exact ⟨hlex, hparse, hcause _ hmem, hordered⟩

/-- `Console` stands in front of `File` and is reported behind it. -/
theorem check_member_before_argument :
    let source := "f(Console).File"
    let ls : List Lexeme := [⟨.ident "f", ⟨0, 1⟩⟩, ⟨.symbol .lparen, ⟨1, 2⟩⟩,
      ⟨.ident "Console", ⟨2, 9⟩⟩, ⟨.symbol .rparen, ⟨9, 10⟩⟩, ⟨.symbol .dot, ⟨10, 11⟩⟩,
      ⟨.ident "File", ⟨11, 15⟩⟩]
    let tree : Expr Mark := .member ⟨4, ⟨0, 15⟩⟩
      (.call ⟨3, ⟨0, 10⟩⟩ (.ident ⟨1, ⟨0, 1⟩⟩ "f") [.ident ⟨2, ⟨2, 9⟩⟩ "Console"]) "File"
    lex source = .ok ls ∧ parse 3 source = .complete tree ∧
      Policy.standard.check .standard tree = [.deniedName "File", .deniedName "Console"] ∧
      Policy.standard.FirstCause .standard ls tree (.deniedName "File") 11 ∧
      Policy.standard.FirstCause .standard ls tree (.deniedName "Console") 2 ∧
      ¬ (Policy.standard.check .standard tree).Pairwise fun v w =>
        ∀ n m, Policy.standard.FirstCause .standard ls tree v n →
          Policy.standard.FirstCause .standard ls tree w m → n ≤ m := by
  intro source ls tree
  have hlex : lex source = .ok ls := by decide +kernel
  have hlexemes : parseLexemes 3 ls = .complete tree :=
    (parseLexemes_of_parseNested rfl rfl).trans rfl
  have hparse : parse 3 source = .complete tree := by rw [parse, hlex, ← hlexemes]
  have hreading := reading_of_parse hlex hparse
  have hfile : Policy.standard.isDenied "File" = true := by
    rw [standard_isDenied]
    decide
  have hconsole : Policy.standard.isDenied "Console" = true := by
    rw [standard_isDenied]
    decide
  have hcheck : Policy.standard.check .standard tree =
      [.deniedName "File", .deniedName "Console"] := by
    have hf : Policy.standard.nameViolations "f" = [] := standard_nameViolations (by decide)
    have hfindings : Policy.standard.findings .standard [] tree =
        [⟨2, .deniedName "Console"⟩, ⟨0, .deniedName "File"⟩] := by
      simp only [tree, findings, findingsAll, Expr.dottedPath?, found, hf]
      simp [nameViolations, hfile, hconsole, isReflectionName, reflectionNames]
    rw [check, hfindings]
    simp [List.mergeSort, List.eraseDups_cons]
  -- each of the two names stands in the text once
  have hfirstFile : Policy.standard.FirstCause .standard ls tree (.deniedName "File") 11 := by
    have hname : ⟨.ident "File", ⟨11, 15⟩⟩ ∈ ls := by simp [ls]
    refine firstCause_deniedName hreading ?_ (by simp [ls])
    exact ⟨.root tree, .self _, .deniedName (List.mem_singleton_self _) hfile,
      .name (by simp) (.member hname rfl)⟩
  have hfirstConsole : Policy.standard.FirstCause .standard ls tree (.deniedName "Console") 2 := by
    have hname : ⟨.ident "Console", ⟨2, 9⟩⟩ ∈ ls := by simp [ls]
    refine firstCause_deniedName hreading ?_ (by simp [ls])
    refine ⟨⟨[], false, .ident ⟨2, ⟨2, 9⟩⟩ "Console"⟩, ?_, ?_, .name (by simp) (.ident hname)⟩
    · exact .inner (List.mem_singleton_self _)
        (.inner (List.mem_cons_of_mem _ (List.mem_singleton_self _)) (.self _))
    · exact .deniedName (List.mem_singleton_self _) hconsole
  refine ⟨hlex, hparse, hcheck, hfirstFile, hfirstConsole, fun hordered => ?_⟩
  rw [hcheck, List.pairwise_pair] at hordered
  exact absurd (hordered 11 2 hfirstFile hfirstConsole) (by decide)

end Policy

end GatedPredicate
