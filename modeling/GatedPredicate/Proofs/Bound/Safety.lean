import GatedPredicate.Gate
import GatedPredicate.Proofs.Bound.Nodes
import GatedPredicate.Proofs.Failures

/-!
# Evaluation without anomalies

Evaluation of a tree fails in ways that its nodes bring about: a field that the data does not have,
a parameter whose slot is not bound, an overload that gets too many or too few arguments. Operators
only fail in ordinary ways. Resolution sees to it that slots are bound and arguments are counted, so
over the standard catalog nothing is left but ordinary failures and missing fields.

- `Bound.eval_failsOnly`: how a tree can fail, from how its nodes can
- `resolved_trees_meet_no_anomaly`
-/

namespace GatedPredicate

open GatedPredicate.Syntax GatedPredicate.Outcome.FailsOnly

/-! ## Parts of the evaluation -/

theorem asBool_ordinary (operation : String) (v : Value) : (v.asBool operation).Ordinary := by
  unfold Value.asBool
  split
  · exact ok
  · exact error trivial

theorem dispatch_ordinary (name : String) (candidates : List Candidate) (receiver : Value) :
    (dispatch name candidates receiver).Ordinary := by
  unfold dispatch
  split
  · exact ok
  · exact error trivial

/-- No element is asked for that is not there. -/
theorem elementAt_ordinary (items : List Value) (n : Int64) : (elementAt items n).Ordinary := by
  unfold elementAt
  split
  · rename_i hn
    have hlt : n.toInt.toNat < items.length := by omega
    rw [elementIn, List.getElem?_eq_getElem hlt]
    exact ok
  · exact error trivial

theorem indexInto_ordinary (target position : Value) : (indexInto target position).Ordinary := by
  have hnumber : (indexNumber position).Ordinary := by
    unfold indexNumber
    split
    · exact ok
    · exact ok
    · exact error trivial
  have hitems : (indexable target).Ordinary := by
    unfold indexable
    split
    · exact ok
    · exact ok
    · exact ok
    · exact error trivial
  unfold indexInto
  split
  · dsimp only
    split
    · exact ok
    · exact error trivial
  · exact bind hnumber fun n _ => bind hitems fun items _ => elementAt_ordinary items n

/-- A quantifier fails only as its test does. -/
theorem quantify_failsOnly {P : RuntimeError → Prop} {kind : Quantifier}
    {test : Value → Outcome Bool} (htest : ∀ v, (test v).FailsOnly P) (items : List Value) :
    (quantify kind test items).FailsOnly P := by
  induction items with
  | nil => exact ok
  | cons v rest ih =>
    unfold quantify
    split
    · rename_i e he
      exact error (htest v e he)
    · split
      · exact ok
      · exact ih
    · split
      · exact ok
      · exact ih

namespace Bound

theorem length_of_evalAll {a : Activation} {args : List Bound} {values : List Value}
    (h : evalAll a args = .ok values) : values.length = args.length := by
  induction args generalizing values with
  | nil =>
    obtain rfl := Except.ok.inj h
    rfl
  | cons b rest ih =>
    rw [evalAll] at h
    obtain ⟨v, -, h⟩ := except_seq_eq_ok.1 h
    obtain ⟨vs, hvs, h⟩ := except_seq_eq_ok.1 h
    obtain rfl := Except.ok.inj h
    rw [List.length_cons, List.length_cons, ih hvs]

/-! ## Trees -/

/-- What a node needs in order to fail as `P` says only, where `slots` are bound and the data
answers for fields as `field` does. -/
def Serves (P : RuntimeError → Prop) (field : String → String → Outcome Value)
    (slots : List Nat) : Bound → Prop
  | .field bag name => (field bag name).FailsOnly P
  | .param slot => slot ∈ slots
  | .call _ overload args => overload.Ordinary args.length
  | .member _ _ candidates args => ∀ c ∈ candidates, c.overload.Ordinary (args.length + 1)
  | _ => True

section Evaluation

variable {P : RuntimeError → Prop}

theorem asBool_failsOnly (hP : ∀ e, e.Ordinary → P e) (operation : String) (v : Value) :
    (v.asBool operation).FailsOnly P :=
  mono hP (asBool_ordinary operation v)

mutual

/-- A tree whose nodes are served fails as `P` says only. -/
theorem eval_failsOnly (hP : ∀ e, e.Ordinary → P e) {a : Activation} {slots : List Nat}
    (hslots : ∀ slot ∈ slots, a.slot slot ≠ none) (b : Bound)
    (hnodes : ∀ n ∈ b.nodesUnder slots, n.2.Serves P a.field n.1) : (b.eval a).FailsOnly P := by
  match b with
  | .const v => exact ok
  | .field bag name => exact hnodes _ (List.mem_singleton_self _)
  | .param slot =>
    have hbound : a.slot slot ≠ none := hslots slot (hnodes _ (List.mem_singleton_self _))
    rw [eval]
    split
    · exact ok
    · contradiction
  | .array items =>
    rw [nodesUnder, List.forall_mem_append] at hnodes
    exact map (evalAll_failsOnly hP hslots items hnodes.1)
  | .unary op operand =>
    rw [nodesUnder, List.forall_mem_append] at hnodes
    have hoperand := eval_failsOnly hP hslots operand hnodes.1
    cases op with
    | not =>
      rw [eval]
      exact bind hoperand fun v _ => bind (asBool_failsOnly hP _ v) fun _ _ => ok
    | neg =>
      rw [eval]
      exact bind hoperand fun v _ => mono hP (negate_ordinary v)
  | .binary op left right =>
    rw [nodesUnder, List.forall_mem_append, List.forall_mem_append] at hnodes
    have hleft := eval_failsOnly hP hslots left hnodes.1
    have hright := eval_failsOnly hP hslots right hnodes.2.1
    by_cases hand : op = .and
    · subst hand
      rw [eval]
      refine bind hleft fun l _ => bind (asBool_failsOnly hP _ l) fun x _ => ?_
      split
      · exact bind hright fun r _ => bind (asBool_failsOnly hP _ r) fun _ _ => ok
      · exact ok
    by_cases hor : op = .or
    · subst hor
      rw [eval]
      refine bind hleft fun l _ => bind (asBool_failsOnly hP _ l) fun x _ => ?_
      split
      · exact ok
      · exact bind hright fun r _ => bind (asBool_failsOnly hP _ r) fun _ _ => ok
    rw [eval_binary hand hor]
    exact bind hleft fun l _ => bind hright fun r _ => mono hP (applyBinary_ordinary hand hor l r)
  | .conditional cond onTrue onFalse =>
    simp only [nodesUnder, List.forall_mem_append] at hnodes
    obtain ⟨hcond, hTrue, hFalse, -⟩ := hnodes
    rw [eval]
    refine bind (eval_failsOnly hP hslots cond hcond) fun c _ => ?_
    refine bind (asBool_failsOnly hP _ c) fun x _ => ?_
    split
    · exact eval_failsOnly hP hslots onTrue hTrue
    · exact eval_failsOnly hP hslots onFalse hFalse
  | .index target position =>
    simp only [nodesUnder, List.forall_mem_append] at hnodes
    obtain ⟨htarget, hposition, -⟩ := hnodes
    rw [eval]
    refine bind (eval_failsOnly hP hslots target htarget) fun t _ => ?_
    refine bind (eval_failsOnly hP hslots position hposition) fun p _ => ?_
    exact mono hP (indexInto_ordinary t p)
  | .call name overload args =>
    rw [nodesUnder, List.forall_mem_append, List.forall_mem_singleton] at hnodes
    obtain ⟨hargs, hoverload⟩ := hnodes
    rw [eval]
    refine bind (evalAll_failsOnly hP hslots args hargs) fun values hvalues => ?_
    exact mono hP (hoverload values (length_of_evalAll hvalues))
  | .member name receiver candidates args =>
    simp only [nodesUnder, List.forall_mem_append, List.forall_mem_singleton] at hnodes
    obtain ⟨hreceiver, hargs, hcandidates⟩ := hnodes
    rw [eval]
    refine bind (eval_failsOnly hP hslots receiver hreceiver) fun r _ => ?_
    refine bind (mono hP (dispatch_ordinary name candidates r)) fun c hc => ?_
    refine bind (evalAll_failsOnly hP hslots args hargs) fun values hvalues => ?_
    -- the receiver is the first argument of whichever overload is chosen
    refine mono hP (hcandidates c (dispatch_eq_ok hc).1 (r :: values) ?_)
    rw [List.length_cons, length_of_evalAll hvalues]
  | .quantifier kind receiver slot body =>
    rw [nodesUnder, List.forall_mem_append, List.forall_mem_cons] at hnodes
    obtain ⟨hreceiver, -, hbody⟩ := hnodes
    rw [eval]
    refine bind (eval_failsOnly hP hslots receiver hreceiver) fun r _ => ?_
    refine bind (mono hP (Catalog.elements_ordinary r)) fun items _ => ?_
    refine bind (quantify_failsOnly (fun v => ?_) items) fun _ _ => ok
    have hbound : ∀ s ∈ slot :: slots, (a.bindSlot slot v).slot s ≠ none := by
      intro s hs
      simp only [Activation.bindSlot]
      split
      · simp
      · rename_i hne
        exact hslots s ((List.mem_cons.1 hs).resolve_left hne)
    exact bind (eval_failsOnly hP hbound body hbody) fun x _ => asBool_failsOnly hP kind.name x

theorem evalAll_failsOnly (hP : ∀ e, e.Ordinary → P e) {a : Activation} {slots : List Nat}
    (hslots : ∀ slot ∈ slots, a.slot slot ≠ none) (bs : List Bound)
    (hnodes : ∀ n ∈ nodesAllUnder slots bs, n.2.Serves P a.field n.1) :
    (evalAll a bs).FailsOnly P := by
  match bs with
  | [] => exact ok
  | b :: rest =>
    rw [nodesAllUnder, List.forall_mem_append] at hnodes
    rw [evalAll]
    refine bind (eval_failsOnly hP hslots b hnodes.1) fun v _ => ?_
    exact bind (evalAll_failsOnly hP hslots rest hnodes.2) fun vs _ => ok

end

end Evaluation

end Bound

/-! ## Resolved trees -/

/-- What resolution sees to is what evaluation needs, where overloads fail in ordinary ways. -/
theorem Registry.Supports.serves {r : Registry} (hr : r.Ordinary) {P : RuntimeError → Prop}
    {field : String → String → Outcome Value} {slots : List Nat} {b : Bound}
    (h : r.Supports slots b)
    (hfield : ∀ bag name, b = .field bag name → (field bag name).FailsOnly P) :
    b.Serves P field slots := by
  cases b with
  | field bag name => exact hfield bag name rfl
  | param slot => exact h
  | call name overload args =>
    obtain ⟨hmem, hcount⟩ := h
    obtain ⟨m, hm, ho⟩ := List.mem_flatMap.1 hmem
    obtain ⟨f, hf, ho⟩ := List.mem_flatMap.1 ho
    intro values hvalues
    exact hr.functions m hm f hf overload ho values (hvalues.trans hcount)
  | member name receiver candidates args =>
    intro c hc values hvalues
    obtain ⟨hmem, hcount⟩ := h c hc
    obtain ⟨m, hm, ho⟩ := List.mem_flatMap.1 hmem
    exact hr.members m hm c.overload ho values (by rw [hvalues, hcount])
  | _ => trivial

/-- A tree that is resolved fails in ordinary ways, or as its fields do. -/
theorem Env.bind_failsOnly {env : Env} (hr : env.policy.registry.Ordinary) {e : Expr Mark}
    {t : Typed} (h : env.bind e = .ok t) {P : RuntimeError → Prop}
    (hP : ∀ e, e.Ordinary → P e) {a : Activation}
    (hfield : ∀ bag name, .field bag name ∈ t.tree.nodes → (a.field bag name).FailsOnly P) :
    (t.tree.eval a).FailsOnly P := by
  refine Bound.eval_failsOnly hP (List.forall_mem_nil _) t.tree fun n hn => ?_
  have hsupported := Env.bind_supported h n hn
  refine hsupported.serves hr fun bag name heq => hfield bag name ?_
  exact heq ▸ List.mem_map_of_mem hn

/-- A field that bags do not have is the only thing that can go wrong with it. -/
theorem Activation.ofBags_field (bags : Bags) (bag name : String) :
    ((Activation.ofBags bags).field bag name).FailsOnly fun e =>
      e = .propertyNotFound bag name ∧ bags.field? bag name = none := by
  simp only [Activation.ofBags]
  split
  · exact ok
  · rename_i hnone
    exact error ⟨rfl, hnone⟩

/-- Under the standard catalog, whatever the rest of the policy and the schema are, an expression
that is resolved is a well-formed tree, and over no bags does its evaluation meet an anomaly: no
slot is unbound, no overload gets a wrong number of arguments, no character or element is asked for
that is not there, and no other operator gets into arithmetic. -/
theorem resolved_trees_meet_no_anomaly (env : Env) (hstandard : env.policy.registry = .standard)
    (e : Expr Mark) (t : Typed) (hbind : env.bind e = .ok t) :
    t.tree.WellFormed ∧
      ∀ bags anomaly, t.tree.eval (.ofBags bags) ≠ .error (.unexpected anomaly) ∧
        ∀ p : Predicate, p.bound = t.tree →
          p.evaluate bags ≠ .error (.unexpected anomaly) := by
  refine ⟨Env.bind_wellFormed hbind, fun bags anomaly => ?_⟩
  have hordinary : env.policy.registry.Ordinary := hstandard ▸ Registry.standard_ordinary
  have hP : ∀ e : RuntimeError, e.Ordinary → e ≠ .unexpected anomaly := by
    rintro e he rfl
    exact he
  have hfield (bag name : String) :
      ((Activation.ofBags bags).field bag name).FailsOnly (· ≠ .unexpected anomaly) := by
    refine mono ?_ (Activation.ofBags_field bags bag name)
    rintro e ⟨rfl, -⟩
    exact nofun
  have heval : (t.tree.eval (.ofBags bags)).FailsOnly (· ≠ .unexpected anomaly) :=
    Env.bind_failsOnly hordinary hbind hP fun bag name _ => hfield bag name
  refine ⟨fun h => heval _ h rfl, fun p hp h => ?_⟩
  have hevaluate : (p.evaluate bags).FailsOnly (· ≠ .unexpected anomaly) := by
    unfold Predicate.evaluate
    rw [hp]
    exact bind heval fun v _ => mono hP (asBool_ordinary _ v)
  exact hevaluate _ h rfl

/-- In `new[] { "ab" }.Any(s => s.Any(c => c == 'b'))` the quantifiers own the slots 0 and 1, and
the tree evaluates. -/
theorem resolved_trees_meet_no_anomaly_nested :
    let e : Expr Mark := .call ⟨10, 0, 46⟩
      (.member ⟨3, 0, 18⟩ (.array ⟨2, 0, 14⟩ [.literal ⟨1, 8, 12⟩ (.string "ab")]) "Any")
      [.lambda ⟨9, 19, 45⟩ "s" (.call ⟨8, 24, 45⟩
        (.member ⟨5, 24, 29⟩ (.ident ⟨4, 24, 25⟩ "s") "Any")
        [.lambda ⟨8, 30, 43⟩ "c" (.binary ⟨8, 35, 43⟩ .eq (.ident ⟨6, 35, 36⟩ "c")
          (.literal ⟨7, 40, 43⟩ (.char 'b')))])]
    let bound : Bound := .quantifier .any (.array [.const (.string "ab")]) 0
      (.quantifier .any (.param 0) 1 (.binary .eq (.param 1) (.const (.char 'b'))))
    let bags : Bags := .empty .standard
    Gate.standard.env.policy.registry = .standard ∧
      Gate.standard.env.bind e = .ok ⟨bound, .bool⟩ ∧
      bound.WellFormed ∧ bound.slots = [0, 1] ∧
      bound.eval (.ofBags bags) = .ok (.bool true) ∧
      ∀ anomaly, bound.eval (.ofBags bags) ≠ .error (.unexpected anomaly) := by
  intro e bound bags
  have hstandard : Gate.standard.env.policy.registry = .standard := rfl
  have hbind : Gate.standard.env.bind e = .ok ⟨bound, .bool⟩ := by rfl
  have heval : bound.eval (.ofBags bags) = .ok (.bool true) := by rfl
  obtain ⟨hformed, hruns⟩ := resolved_trees_meet_no_anomaly _ hstandard e _ hbind
  exact ⟨hstandard, hbind, hformed, by rfl, heval, fun anomaly => (hruns bags anomaly).1⟩

end GatedPredicate
