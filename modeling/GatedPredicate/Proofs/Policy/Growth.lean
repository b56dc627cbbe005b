import GatedPredicate.Proofs.Bound.Congruence
import GatedPredicate.Proofs.Policy.Forbidden
import GatedPredicate.Proofs.Syntax.Height

/-!
# Policies only grow

Whatever a host adds, it cannot weaken the standard policy, and what its additions mean for a
source text goes in one direction only: another allowed namespace lets every text pass that passed
before, and without a denied name every text still passes. In both cases the texts become the same
predicates, since resolution only asks about namespaces that are allowed on both sides.

- `Policy.Relaxes`: one policy forbids no more than another
- `Policy.Relaxes.check_eq_nil`, `Policy.Relaxes.alike`: what this means for both stages that
  consult the policy
- `Gate.compile_relaxed`: and for compilation
- `Policy.only_grows`: the invariants of all policies, and both directions
-/

namespace GatedPredicate

open GatedPredicate.Syntax GatedPredicate.Text

namespace Policy

variable {p q : Policy} {schema : Schema}

/-- `q` has the registry of `p`, allows no less and denies no more. -/
structure Relaxes (q p : Policy) : Prop where
  registry : q.registry = p.registry
  allowed {path : String} : p.isAllowed path = true → q.isAllowed path = true
  denied {name : String} : q.isDenied name = true → p.isDenied name = true

theorem allowNamespace_relaxes (p : Policy) (namespaceName : String) :
    (p.allowNamespace namespaceName).Relaxes p :=
  ⟨rfl, isAllowed_insert rfl, id⟩

theorem relaxes_denyName (p : Policy) (name : String) : p.Relaxes (p.denyName name) :=
  ⟨rfl, id, (denyName_extends p name).denied⟩

/-! ## The policy check -/

/-- An offence against the laxer policy is an offence against the stricter one. -/
theorem Relaxes.offends (h : q.Relaxes p) {x : Place} {v : Violation}
    (hoffends : q.Offends schema x v) : p.Offends schema x v := by
  cases hoffends with
  | deniedName hn hdenied => exact .deniedName hn (h.denied hdenied)
  | deniedSegment he hn hdenied => exact .deniedSegment he hn (h.denied hdenied)
  | reflectionName hn hname => exact .reflectionName hn hname
  | typeOf he => exact .typeOf he
  -- the registry decides what is data and what an alias stands for, and it is the same
  | namespaceChain ha hpath hrest hscope hbag hconst hallowed =>
    rw [h.registry] at hconst hallowed ⊢
    refine .namespaceChain ha hpath hrest hscope hbag hconst ?_
    exact Bool.eq_false_iff.2 fun hp => Bool.eq_false_iff.1 hallowed (h.allowed hp)

/-- Nothing is found under the laxer policy where nothing is found under the stricter one. -/
theorem Relaxes.check_eq_nil (h : q.Relaxes p) (hp : p.Built) (hq : q.Built) {tree : Expr Mark}
    (hnone : p.check schema tree = []) : q.check schema tree = [] := by
  rw [List.eq_nil_iff_forall_not_mem] at hnone ⊢
  intro v hv
  obtain ⟨x, hholds, hoffends⟩ := (mem_check (fun _ => hq.reflectionAllowed) tree).1 hv
  have hforbids : p.Forbids schema (.root tree) v := ⟨x, hholds, h.offends hoffends⟩
  exact hnone v ((mem_check (fun _ => hp.reflectionAllowed) tree).2 hforbids)

/-! ## Resolution -/

/-- Resolution asks about namespaces that every policy with the registry allows. -/
theorem Relaxes.alike (h : q.Relaxes p) (hp : p.Built) : p.Alike q where
  registry := h.registry
  modules m hm := by
    have hallowed := hp.modulesAllowed m hm
    rw [hallowed, h.allowed hallowed]
  members m hm := by
    have hallowed := hp.membersAllowed m hm
    rw [hallowed, h.allowed hallowed]
  sequences := by
    have hallowed := hp.namespacesAllowed Catalog.sequenceTag (by decide)
    rw [hallowed, h.allowed hallowed]

end Policy

/-! ## Compilation -/

/-- A text that passes the stricter policy passes the laxer one and becomes the same predicate. -/
theorem Gate.compile_relaxed {p q : Policy} (h : q.Relaxes p) (hp : p.Built) (hq : q.Built)
    {schema : Schema} {options : Options} {text : String} {r : Predicate}
    (hcompile : (Gate.mk p schema options).compile text = .ok r) :
    (Gate.mk q schema options).compile text = .ok { r with policy := q } := by
  obtain ⟨hsource, hempty, hshort, hparsed, hchecked, hresolved, htruth, hschema, -⟩ :=
    Gate.compile_eq_ok.1 hcompile
  rw [Gate.compile_eq_ok]
  exact {
    source := hsource
    nonempty := hempty
    short := hshort
    parsed := hparsed
    checked := h.check_eq_nil hp hq hchecked
    resolved := (Env.bind_congr (h.alike hp) r.tree).trans hresolved
    truth := htruth
    schema := hschema
    policy := rfl }

/-- A configuration describes a policy that can be built. Every such policy allows the standard
namespaces and those of its registry, denies the standard names and leaves both flags off. What
compiles under it compiles with one more allowed namespace, and what compiles with one more denied
name compiles without, to the same predicate but for the policy in it. -/
theorem Policy.only_grows :
    (∀ c, (Policy.ofConfig c).Built) ∧
      ∀ p : Policy, p.Built →
        (∀ name ∈ standardNamespaces, p.isAllowed name = true) ∧
        (∀ name ∈ standardDenied, p.isDenied name = true) ∧
        p.reflectionAllowed = false ∧ p.iterationAllowed = false ∧
        (∀ m ∈ p.registry.modules, p.isAllowed m.tag = true) ∧
        (∀ m ∈ p.registry.allMembers, p.isAllowed m.module = true) ∧
        ∀ (schema : Schema) (options : Options) (text : String) (r : Predicate),
          (∀ name, (Gate.mk p schema options).compile text = .ok r →
            (Gate.mk (p.allowNamespace name) schema options).compile text =
              .ok { r with policy := p.allowNamespace name }) ∧
          (∀ name, (Gate.mk (p.denyName name) schema options).compile text = .ok r →
            (Gate.mk p schema options).compile text = .ok { r with policy := p }) := by
  refine ⟨Policy.Built.ofConfig, fun p hp => ?_⟩
  refine ⟨hp.namespacesAllowed, hp.namesDenied, hp.reflectionAllowed, hp.iterationAllowed,
    hp.modulesAllowed, hp.membersAllowed, fun schema options text r => ⟨?_, ?_⟩⟩
  · intro name hcompile
    exact Gate.compile_relaxed (p.allowNamespace_relaxes name) hp (hp.allowNamespace name) hcompile
  · intro name hcompile
    exact Gate.compile_relaxed (p.relaxes_denyName name) (hp.denyName name) hp hcompile

/-- `Char.IsDigit('1')` compiles with a denied name, hence without, hence with another
namespace. -/
theorem Policy.only_grows_isDigit :
    ∃ r, (Gate.mk (Policy.standard.denyName "Secret") .standard .standard).compile
        "Char.IsDigit('1')" = .ok r ∧
      Gate.standard.compile "Char.IsDigit('1')" = .ok { r with policy := .standard } ∧
      (Gate.mk (Policy.standard.allowNamespace "Acme") .standard .standard).compile
        "Char.IsDigit('1')" = .ok { r with policy := Policy.standard.allowNamespace "Acme" } := by
  let ls : List Lexeme := [⟨.ident "Char", ⟨0, 4⟩⟩, ⟨.symbol .dot, ⟨4, 5⟩⟩,
    ⟨.ident "IsDigit", ⟨5, 12⟩⟩, ⟨.symbol .lparen, ⟨12, 13⟩⟩, ⟨.literal (.char '1'), ⟨13, 16⟩⟩,
    ⟨.symbol .rparen, ⟨16, 17⟩⟩]
  let tree : Expr Mark := .call ⟨4, 0, 17⟩
    (.member ⟨2, 0, 12⟩ (.ident ⟨1, 0, 4⟩ "Char") "IsDigit") [.literal ⟨3, 13, 16⟩ (.char '1')]
  let strict : Gate := ⟨Policy.standard.denyName "Secret", .standard, .standard⟩
  have hlex : lex "Char.IsDigit('1')" = .ok ls := by decide +kernel
  have hparse : parseLexemes 64 ls = .complete tree :=
    (parseLexemes_of_parseNested rfl rfl).trans rfl
  have hfindings : (strict.policy.findings .standard [] tree).isEmpty = true := by decide +kernel
  obtain ⟨t, hbind, htype⟩ : ∃ t, strict.env.bind tree = .ok t ∧ t.type = .bool := ⟨_, rfl, rfl⟩
  have hstrict : strict.compile "Char.IsDigit('1')" =
      .ok ⟨_, tree, t.tree, t.type, .standard, strict.policy⟩ :=
    Gate.compile_of_stages (by decide) (by decide) (by decide) hlex hparse hfindings hbind
      (by rw [htype]; rfl)
  obtain ⟨-, -, -, -, -, -, hgrows⟩ := Policy.only_grows.2 .standard .standard
  have hstandard : Gate.standard.compile "Char.IsDigit('1')" =
      .ok ⟨_, tree, t.tree, t.type, .standard, .standard⟩ :=
    (hgrows .standard .standard _ _).2 "Secret" hstrict
  have hlax := (hgrows .standard .standard _ _).1 "Acme" hstandard
  exact ⟨_, hstrict, hstandard, hlax⟩

end GatedPredicate
