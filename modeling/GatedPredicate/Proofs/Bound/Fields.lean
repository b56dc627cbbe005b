import GatedPredicate.Proofs.Bound.Safety
import GatedPredicate.Proofs.Compile
import GatedPredicate.Proofs.Syntax.Height

/-!
# Evaluation depends on named fields only

The bags that a predicate is evaluated over enter its evaluation through the field nodes of its
bound tree and nowhere else. So bags that agree on those fields are as good as each other, for
errors as for truth values, and a field that is reported missing is one that the tree names.

- `Bound.Agrees`, `Bound.eval_congr`: trees under data that agrees on their fields
- `Gate.evaluate_depends_on_fields`
-/

namespace GatedPredicate

open GatedPredicate.Syntax GatedPredicate.Outcome.FailsOnly

namespace Bound

/-- Two sources of data agree on a node. -/
def Agrees (field field' : String → String → Outcome Value) : Bound → Prop
  | .field bag name => field bag name = field' bag name
  | _ => True

mutual

/-- Under data that agrees on its fields, a tree has the same value or error. -/
theorem eval_congr {a a' : Activation} (hslot : a.slot = a'.slot) {slots : List Nat} (b : Bound)
    (hnodes : ∀ n ∈ b.nodesUnder slots, n.2.Agrees a.field a'.field) : b.eval a = b.eval a' := by
  match b with
  | .const v => rfl
  | .field bag name => exact hnodes _ (List.mem_singleton_self _)
  | .param slot =>
    rw [eval, eval, hslot]
  | .array items =>
    rw [nodesUnder, List.forall_mem_append] at hnodes
    rw [eval, eval, evalAll_congr hslot items hnodes.1]
  | .unary op operand =>
    rw [nodesUnder, List.forall_mem_append] at hnodes
    have hoperand := eval_congr hslot operand hnodes.1
    cases op with
    | not => rw [eval, eval, hoperand]
    | neg => rw [eval, eval, hoperand]
  | .binary op left right =>
    rw [nodesUnder, List.forall_mem_append, List.forall_mem_append] at hnodes
    have hleft := eval_congr hslot left hnodes.1
    have hright := eval_congr hslot right hnodes.2.1
    by_cases hand : op = .and
    · subst hand
      rw [eval, eval, hleft, hright]
    by_cases hor : op = .or
    · subst hor
      rw [eval, eval, hleft, hright]
    rw [eval_binary hand hor, eval_binary hand hor, hleft, hright]
  | .conditional cond onTrue onFalse =>
    simp only [nodesUnder, List.forall_mem_append] at hnodes
    obtain ⟨hcond, hTrue, hFalse, -⟩ := hnodes
    rw [eval, eval, eval_congr hslot cond hcond, eval_congr hslot onTrue hTrue,
      eval_congr hslot onFalse hFalse]
  | .index target position =>
    simp only [nodesUnder, List.forall_mem_append] at hnodes
    obtain ⟨htarget, hposition, -⟩ := hnodes
    rw [eval, eval, eval_congr hslot target htarget, eval_congr hslot position hposition]
  | .call name overload args =>
    rw [nodesUnder, List.forall_mem_append] at hnodes
    rw [eval, eval, evalAll_congr hslot args hnodes.1]
  | .member name receiver candidates args =>
    simp only [nodesUnder, List.forall_mem_append] at hnodes
    obtain ⟨hreceiver, hargs, -⟩ := hnodes
    rw [eval, eval, eval_congr hslot receiver hreceiver, evalAll_congr hslot args hargs]
  | .quantifier kind receiver slot body =>
    rw [nodesUnder, List.forall_mem_append, List.forall_mem_cons] at hnodes
    obtain ⟨hreceiver, -, hbody⟩ := hnodes
    -- binding one more slot leaves the fields alone
    have htest (v : Value) : body.eval (a.bindSlot slot v) = body.eval (a'.bindSlot slot v) := by
      have hbound : (a.bindSlot slot v).slot = (a'.bindSlot slot v).slot := by
        simp only [Activation.bindSlot, hslot]
      exact eval_congr hbound body hbody
    simp only [eval, eval_congr hslot receiver hreceiver, htest]

theorem evalAll_congr {a a' : Activation} (hslot : a.slot = a'.slot) {slots : List Nat}
    (bs : List Bound) (hnodes : ∀ n ∈ nodesAllUnder slots bs, n.2.Agrees a.field a'.field) :
    evalAll a bs = evalAll a' bs := by
  match bs with
  | [] => rfl
  | b :: rest =>
    rw [nodesAllUnder, List.forall_mem_append] at hnodes
    rw [evalAll, evalAll, eval_congr hslot b hnodes.1, evalAll_congr hslot rest hnodes.2]

end

end Bound

/-! ## Bags -/

/-- Bags answer for a field alike if they have the same value for it, or both none. -/
theorem Activation.ofBags_congr {bags bags' : Bags} {bag name : String}
    (h : bags.field? bag name = bags'.field? bag name) :
    (Activation.ofBags bags).field bag name = (Activation.ofBags bags').field bag name := by
  simp only [Activation.ofBags, h]

/-- The result of a predicate is settled by what the bags have for the fields that it names. -/
theorem Predicate.evaluate_congr (p : Predicate) {bags bags' : Bags}
    (h : ∀ bag name, .field bag name ∈ p.bound.nodes →
      bags.field? bag name = bags'.field? bag name) : p.evaluate bags = p.evaluate bags' := by
  have hnodes : ∀ n ∈ p.bound.nodesUnder [],
      n.2.Agrees (Activation.ofBags bags).field (Activation.ofBags bags').field := by
    rintro ⟨slots, b⟩ hn
    cases b with
    | field bag name => exact Activation.ofBags_congr (h bag name (List.mem_map_of_mem hn))
    | _ => trivial
  have hslot : (Activation.ofBags bags).slot = (Activation.ofBags bags').slot := rfl
  have heval : p.bound.eval (.ofBags bags) = p.bound.eval (.ofBags bags') :=
    Bound.eval_congr hslot p.bound hnodes
  rw [Predicate.evaluate, Predicate.evaluate, heval]

/-- A field that is reported missing is one that the predicate names and the bags do not have. -/
theorem Gate.evaluate_propertyNotFound {g : Gate} (hordinary : g.policy.registry.Ordinary)
    {text : String} {p : Predicate} (hcompile : g.compile text = .ok p) {bags : Bags}
    {bag name : String} (h : p.evaluate bags = .error (.propertyNotFound bag name)) :
    .field bag name ∈ p.bound.nodes ∧ bags.field? bag name = none := by
  have hpasses := Gate.compile_eq_ok.1 hcompile
  let P (e : RuntimeError) : Prop := e = .propertyNotFound bag name →
    .field bag name ∈ p.bound.nodes ∧ bags.field? bag name = none
  have hP : ∀ e : RuntimeError, e.Ordinary → P e := by
    rintro e he rfl
    exact he.elim
  have hfield (b n : String) (hn : .field b n ∈ p.bound.nodes) :
      ((Activation.ofBags bags).field b n).FailsOnly P := by
    refine mono ?_ (Activation.ofBags_field bags b n)
    rintro e ⟨rfl, hnone⟩ heq
    cases heq
    exact ⟨hn, hnone⟩
  have heval : (p.bound.eval (.ofBags bags)).FailsOnly P :=
    Env.bind_failsOnly hordinary hpasses.resolved hP hfield
  have hevaluate : (p.evaluate bags).FailsOnly P :=
    bind heval fun v _ => mono hP (asBool_ordinary _ v)
  exact hevaluate _ h rfl

/-- Over the standard catalog, bags that have the same values for all fields that a predicate names
give it the same truth value or the same error; and if it is reported that a field is missing, then
the predicate names the field and the bags do not have it. -/
theorem Gate.evaluate_depends_on_fields (g : Gate) (hstandard : g.policy.registry = .standard)
    (text : String) (p : Predicate) (hcompile : g.compile text = .ok p) :
    (∀ bags bags' : Bags,
      (∀ bag name, .field bag name ∈ p.bound.nodes →
        bags.field? bag name = bags'.field? bag name) →
      p.evaluate bags = p.evaluate bags') ∧
      ∀ bags bag name, p.evaluate bags = .error (.propertyNotFound bag name) →
        .field bag name ∈ p.bound.nodes ∧ bags.field? bag name = none := by
  have hordinary : g.policy.registry.Ordinary := hstandard ▸ Registry.standard_ordinary
  refine ⟨fun bags bags' hagree => p.evaluate_congr hagree, ?_⟩
  intro bags bag name hmissing
  exact Gate.evaluate_propertyNotFound hordinary hcompile hmissing

/-- `!@item.A` names one field. Other fields and other bags do not change its result, and it reports
that field where it is missing. -/
theorem Gate.evaluate_depends_on_fields_item :
    let bags : Bags := ⟨.standard, [("item", ⟨[("A", .bool true)]⟩)]⟩
    let bags' : Bags :=
      ⟨.standard, [("claims", ⟨[]⟩), ("Item", ⟨[("B", .null), ("A", .bool true)]⟩)]⟩
    ∃ p, Gate.standard.policy.registry = .standard ∧
      Gate.standard.compile "!@item.A" = .ok p ∧
      (∀ bag name, .field bag name ∈ p.bound.nodes →
        bags.field? bag name = bags'.field? bag name) ∧
      p.evaluate bags = p.evaluate bags' ∧ p.evaluate bags = .ok false ∧
      p.evaluate (.empty .standard) = .error (.propertyNotFound "item" "A") ∧
      .field "item" "A" ∈ p.bound.nodes := by
  intro bags bags'
  let ls : List Lexeme := [⟨.symbol .bang, ⟨0, 1⟩⟩, ⟨.ident "item", ⟨1, 6⟩⟩,
    ⟨.symbol .dot, ⟨6, 7⟩⟩, ⟨.ident "A", ⟨7, 8⟩⟩]
  let tree : Expr Mark :=
    .unary ⟨3, 0, 8⟩ .not (.member ⟨2, 1, 8⟩ (.ident ⟨1, 1, 6⟩ "item") "A")
  let bound : Bound := .unary .not (.field "item" "A")
  have hlex : lex "!@item.A" = .ok ls := by decide +kernel
  have hparse : parseLexemes 64 ls = .complete tree :=
    (parseLexemes_of_parseNested rfl rfl).trans rfl
  have hfindings : (Policy.standard.findings .standard [] tree).isEmpty = true := by
    have hbag : Policy.standard.nameViolations "item" = [] :=
      Policy.standard_nameViolations (by decide +kernel)
    have hfield : Policy.standard.nameViolations "A" = [] :=
      Policy.standard_nameViolations (by decide +kernel)
    have hdata : Policy.standard.isDataRoot .standard [] "item" = true := rfl
    simp [tree, Policy.findings, Expr.dottedPath?, Policy.chainViolations, Policy.found, hbag,
      hfield, hdata]
  have hbind : Gate.standard.env.bind tree = .ok ⟨bound, .bool⟩ := by rfl
  have hcompile : Gate.standard.compile "!@item.A" =
      .ok ⟨_, tree, bound, .bool, .standard, .standard⟩ :=
    Gate.compile_of_stages (g := .standard) (by decide) (by decide) (by decide) hlex hparse
      hfindings hbind rfl
  obtain ⟨hsame, hmissing⟩ := Gate.evaluate_depends_on_fields .standard rfl _ _ hcompile
  have hnodes : bound.nodes = [.field "item" "A", bound] := rfl
  have hagree : ∀ bag name, .field bag name ∈ bound.nodes →
      bags.field? bag name = bags'.field? bag name := by
    intro bag name hmem
    have hitem : bag = "item" ∧ name = "A" := by simpa [hnodes, bound] using hmem
    obtain ⟨rfl, rfl⟩ := hitem
    rfl
  obtain ⟨hnamed, -⟩ := hmissing (.empty .standard) "item" "A" rfl
  exact ⟨_, rfl, hcompile, hagree, hsame bags bags' hagree, rfl, rfl, hnamed⟩

end GatedPredicate
