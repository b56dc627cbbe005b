import GatedPredicate.Proofs.Bound.Direct
import GatedPredicate.Proofs.Typing.Soundness

/-!
# Resolution keeps the meaning

A tree that is resolved and then evaluated gives what the tree gives when it is run as it is
written. The proof goes by the rules of resolution. Its invariant ties the parameters in scope to
their slots: both sides know the same names in the same order, and the slot of a name holds its
value. New slots are never used before, so binding one leaves the others alone.

Where members are concerned the static types matter: resolution drops the candidates that the type
of the receiver rules out, and none of these could have been the one that the receiver decides for.

- `Scope.Holds`, `Scope.Below`: the invariant
- `World.member_eq`: the choice of a member, before and after resolution
- `Policy.Plain`: what a policy has to be like
- `Env.Binds.run_eq`: agreement, rule by rule
-/

namespace GatedPredicate

open GatedPredicate.Syntax GatedPredicate.ValueType

variable {env : Env} {scope : Scope} {locals : Locals} {next slot : Nat} {a : Activation}
variable {α β : Type}

/-! ## Runs and outcomes -/

@[simp]
theorem Run.ofOutcome_ok (x : α) : Run.ofOutcome (.ok x) = .ok x := rfl

theorem Run.ofOutcome_seq (x : Outcome α) (f : α → Outcome β) :
    Run.ofOutcome (x >>= f) = Run.ofOutcome x >>= fun a => Run.ofOutcome (f a) := by
  cases x <;> rfl

theorem Run.ofOutcome_ite {c : Prop} [Decidable c] (x y : Outcome α) :
    Run.ofOutcome (if c then x else y) = if c then Run.ofOutcome x else Run.ofOutcome y := by
  split <;> rfl

theorem Run.ofOutcome_map (x : Outcome α) (f : α → β) :
    Run.ofOutcome (x.map f) = (Run.ofOutcome x).map f := by
  cases x <;> rfl

/-- The two loops of a quantifier agree if the tests do. -/
theorem iterate_eq {kind : Quantifier} {test : Value → Outcome Bool} {direct : Value → Run Bool}
    (h : ∀ v, direct v = .ofOutcome (test v)) (items : List Value) :
    iterate kind direct items = .ofOutcome (quantify kind test items) := by
  induction items with
  | nil => rfl
  | cons v rest ih =>
    rw [iterate, quantify, h v]
    cases hv : test v with
    | error e => rfl
    | ok b =>
      -- the elements after the first count only if that one does not settle the quantifier
      cases kind <;> cases b <;> first | rfl | exact ih

/-! ## Parameters and slots -/

/-- The parameters in scope and their values, slot by slot. -/
def Scope.Holds (scope : Scope) (locals : Locals) (a : Activation) : Prop :=
  List.Forall₂ (fun p q => p.1 = q.1 ∧ a.slot p.2 = some q.2) scope locals

/-- All slots in use come before a given one. -/
def Scope.Below (scope : Scope) (next : Nat) : Prop :=
  ∀ p ∈ scope, p.2 < next

theorem Scope.Below.mono {mid : Nat} (h : scope.Below next) (hle : next ≤ mid) :
    scope.Below mid :=
  fun p hp => Nat.lt_of_lt_of_le (h p hp) hle

theorem Scope.Below.push (h : scope.Below slot) (param : String) :
    Scope.Below ((param, slot) :: scope) (slot + 1) := by
  intro p hp
  rcases List.mem_cons.1 hp with rfl | hp
  · exact Nat.lt_succ_self _
  · exact Nat.lt_succ_of_lt (h p hp)

/-- Binding a new slot leaves the slots in use alone. -/
theorem Scope.Holds.bindSlot (h : scope.Holds locals a) (hbelow : scope.Below slot) (v : Value) :
    scope.Holds locals (a.bindSlot slot v) := by
  induction h with
  | nil => exact .nil
  | cons hhead _ ih =>
    rw [Below, List.forall_mem_cons] at hbelow
    refine .cons ⟨hhead.1, ?_⟩ (ih hbelow.2)
    simp only [Activation.bindSlot, if_neg (Nat.ne_of_lt hbelow.1)]
    exact hhead.2

/-- A lambda adds a parameter with a slot that no other one uses. -/
theorem Scope.Holds.push (h : scope.Holds locals a) (hbelow : scope.Below slot) (param : String)
    (v : Value) :
    Scope.Holds ((param, slot) :: scope) ((param, v) :: locals) (a.bindSlot slot v) :=
  .cons ⟨rfl, if_pos rfl⟩ (h.bindSlot hbelow v)

/-- Either side finds a parameter of a name if the other does, and its slot holds its value. -/
theorem Scope.Holds.lookup (h : scope.Holds locals a) (name : String) :
    (scope.slot? name = none ∧ locals.value? name = none) ∨
      ∃ slot v, scope.slot? name = some slot ∧ locals.value? name = some v ∧
        a.slot slot = some v := by
  induction h with
  | nil => exact .inl ⟨rfl, rfl⟩
  | @cons p q scope locals hhead _ ih =>
    rw [Scope.slot?, Locals.value?, List.find?_cons, List.find?_cons, ← hhead.1]
    by_cases hname : p.1 = name
    · simp only [hname, beq_self_eq_true]
      exact .inr ⟨p.2, q.2, rfl, rfl, hhead.2⟩
    · simp only [beq_eq_false_iff_ne.2 hname]
      exact ih

theorem Scope.Holds.value?_none (h : scope.Holds locals a) {name : String}
    (hslot : scope.slot? name = none) : locals.value? name = none := by
  rcases h.lookup name with ⟨-, hvalue⟩ | ⟨slot, v, hs, -, -⟩
  · exact hvalue
  · rw [hs] at hslot
    cases hslot

theorem Scope.Holds.value?_some (h : scope.Holds locals a) {name : String}
    (hslot : scope.slot? name = some slot) :
    ∃ v, locals.value? name = some v ∧ a.slot slot = some v := by
  rcases h.lookup name with ⟨hnone, -⟩ | ⟨s, v, hs, hvalue, hv⟩
  · rw [hnone] at hslot
    cases hslot
  · obtain rfl := Option.some.inj (hs.symm.trans hslot)
    exact ⟨v, hvalue, hv⟩

theorem Scope.Holds.isSome_eq (h : scope.Holds locals a) (name : String) :
    (locals.value? name).isSome = (scope.slot? name).isSome := by
  rcases h.lookup name with ⟨hslot, hvalue⟩ | ⟨slot, v, hslot, hvalue, -⟩
  · rw [hslot, hvalue]
    rfl
  · rw [hslot, hvalue]
    rfl

/-! ## The world of an environment -/

/-- The world in which the names of an environment lead to given data. -/
def Env.world (env : Env) (bags : Bags) : World :=
  ⟨env.schema, env.policy.registry, bags⟩

theorem World.bag?_eq (h : scope.Holds locals a) (bags : Bags) (target : Expr Mark) :
    (env.world bags).bag? locals target = env.bagFor? scope target := by
  cases target with
  | ident _ name => simp [World.bag?, Env.bagFor?, h.isSome_eq, Env.world]
  | _ => rfl

theorem World.module?_eq (h : scope.Holds locals a) (bags : Bags) (target : Expr Mark) :
    (env.world bags).module? locals target = env.moduleFor? scope target := by
  unfold World.module? Env.moduleFor?
  cases target.dottedPath? with
  | none => rfl
  | some path =>
    cases path with
    | nil => rfl
    | cons root rest => simp [h.isSome_eq, Env.world]

theorem World.field_eq (bags : Bags) (bag name : String) :
    (env.world bags).field bag name = .ofOutcome ((Activation.ofBags bags).field bag name) := by
  simp only [World.field, Activation.ofBags, Bags.field?, Env.world]
  cases (bags.get? bag).bind fun b => b.get? name <;> rfl

/-! ## Members -/

/-- The overloads of all members have fixed result types. -/
def Registry.MembersFixed (r : Registry) : Prop :=
  ∀ m ∈ r.allMembers, ∀ o ∈ m.overloads, ∃ t, o.result = .fixed t

/-- Null and numbers have no members but those of every value. -/
theorem Receiver.accepts_special {r : Receiver} {v : Value} (hr : r ≠ .any)
    (h : r.accepts v = true) : v.type ≠ .null ∧ v.type.isNumeric = false := by
  cases r <;> cases v <;> simp_all [accepts, Value.type, isNumeric]

/-- A member that a value may receive is not ruled out by a type that admits the value. -/
theorem Receiver.acceptsType_of_admits {r : Receiver} {t : ValueType} {v : Value}
    (h : t.Admits v) (haccepts : r.accepts v = true) : r.acceptsType t = true := by
  -- what receives every value is ruled out by no type
  by_cases hr : r = .any
  · rw [hr]
    rfl
  obtain ⟨hnotNull, hnotNumeric⟩ := accepts_special hr haccepts
  -- all others receive values of one type only, so the type of `v` is its own or unknown
  rcases h with rfl | hnull | hsame | ⟨-, hnumeric⟩ | ⟨-, hinteger⟩
  · cases r <;> rfl
  · exact absurd hnull hnotNull
  · exact hsame ▸ acceptsType_of_accepts haccepts
  · rw [hnumeric] at hnotNumeric
    cases hnotNumeric
  · rcases hinteger with hi | hu
    · rw [hi] at hnotNumeric
      cases hnotNumeric
    · rw [hu] at hnotNumeric
      cases hnotNumeric

/-- A member that does not fit before the run does not fit during it either. -/
theorem Member.fitting?_of_fit?_eq_none {m : Member} {t : ValueType} {types : List ValueType}
    {r : Value} {isProperty : Bool} (hr : t.Admits r)
    (hfixed : ∀ o ∈ m.overloads, ∃ t, o.result = .fixed t)
    (h : Env.fit? t isProperty types m = none) :
    m.fitting? isProperty types.length r = none := by
  unfold fitting?
  split
  · rename_i hkind
    obtain ⟨hproperty, haccepts⟩ := Bool.and_eq_true_iff.1 hkind
    have hstatic := Receiver.acceptsType_of_admits hr haccepts
    cases ho : findOverload? m.overloads types.length with
    | none => rfl
    | some o =>
      obtain ⟨s, hs⟩ := hfixed o (findOverload?_eq_some ho).1
      simp [Env.fit?, hproperty, hstatic, ho, Overload.resultType?, hs] at h
  · rfl

/-- Resolution keeps every candidate that the receiver may decide for, in order. -/
theorem findSome?_fits {ms : List Member} {t : ValueType} {types : List ValueType} {r : Value}
    {isProperty : Bool} (hr : t.Admits r)
    (hallowed : ∀ m ∈ ms, env.policy.isAllowed m.module = true)
    (hfixed : ∀ m ∈ ms, ∀ o ∈ m.overloads, ∃ t, o.result = .fixed t) :
    ((((ms.filterMap (Env.fit? t isProperty types)).filter
        fun f => env.policy.isAllowed f.member.module).map Env.Fit.candidate).find?
          fun c => c.receiver.accepts r).map Candidate.overload =
      ms.findSome? fun m => m.fitting? isProperty types.length r := by
  induction ms with
  | nil => rfl
  | cons m rest ih =>
    rw [List.forall_mem_cons] at hallowed hfixed
    have ih := ih hallowed.2 hfixed.2
    rw [List.findSome?_cons]
    cases hfit : Env.fit? t isProperty types m with
    | none =>
      -- dropped by resolution, and passed over by the run
      rw [List.filterMap_cons_none hfit, ih]
      rw [Member.fitting?_of_fit?_eq_none hr hfixed.1 hfit]
    | some f =>
      -- kept by resolution, so the receiver decides on both sides
      obtain ⟨rfl, hkind, -, ho, -⟩ := Env.fit?_eq_some hfit
      have hcandidate : f.candidate.receiver = f.member.receiver := rfl
      rw [List.filterMap_cons_some hfit, List.filter_cons, if_pos hallowed.1, List.map_cons,
        List.find?_cons, hcandidate]
      cases haccepts : f.member.receiver.accepts r with
      | true =>
        have hsome : f.member.fitting? isProperty types.length r = some f.overload := by
          simp [Member.fitting?, hkind, haccepts, ho]
        rw [hsome]
        rfl
      | false =>
        have hnone : f.member.fitting? isProperty types.length r = none := by
          simp [Member.fitting?, haccepts]
        rw [hnone]
        exact ih

/-- The receiver decides for the same overload before and after resolution. -/
theorem World.member_eq {t : ValueType} {types : List ValueType} {r : Value} {name : String}
    {isProperty : Bool} (hr : t.Admits r)
    (hallowed : ∀ m ∈ env.policy.registry.allMembers, env.policy.isAllowed m.module = true)
    (hfixed : env.policy.registry.MembersFixed) (bags : Bags) :
    (env.world bags).member name isProperty types.length r =
      (Run.ofOutcome (dispatch name ((env.fits t name isProperty types).map Env.Fit.candidate)
        r)).map Candidate.overload := by
  have hnamed : ∀ m ∈ env.policy.registry.members name, m ∈ env.policy.registry.allMembers :=
    fun m hm => (List.mem_filter.1 hm).1
  have hfits : (((env.fits t name isProperty types).map Env.Fit.candidate).find?
      fun c => c.receiver.accepts r).map Candidate.overload =
        (env.policy.registry.members name).findSome? fun m =>
          m.fitting? isProperty types.length r :=
    findSome?_fits hr (fun m hm => hallowed m (hnamed m hm)) fun m hm => hfixed m (hnamed m hm)
  unfold World.member dispatch
  rw [Env.world, ← hfits]
  cases ((env.fits t name isProperty types).map Env.Fit.candidate).find?
      fun c => c.receiver.accepts r with
  | none => rfl
  | some c => rfl

/-! ## Trees -/

/-- What a policy has to be like so that static types and policies leave no trace in a run. -/
structure Policy.Plain (p : Policy) : Prop where
  honest : p.registry.Honest
  membersFixed : p.registry.MembersFixed
  membersAllowed : ∀ m ∈ p.registry.allMembers, p.isAllowed m.module = true

namespace Env

mutual

/-- Resolution never gives back slots. -/
theorem Binds.le {scope : Scope} {next after : Nat} {e : Expr Mark} {t : Typed}
    (h : env.Binds scope next e t after) : next ≤ after := by
  match h with
  | .literal _ | .param _ | .imported _ _ _ _ | .field _ _ | .constant _ _ _ _ =>
    exact Nat.le_refl _
  | .property _ _ ht _ => exact ht.le
  | .importedCall _ _ _ hargs _ => exact hargs.le
  | .moduleCall _ _ _ hargs _ => exact hargs.le
  | .quantifier _ _ _ ht _ hbody _ =>
    exact Nat.le_trans ht.le (Nat.le_trans (Nat.le_succ _) hbody.le)
  | .method _ _ ht hargs _ => exact Nat.le_trans ht.le hargs.le
  | .index ht hp _ => exact Nat.le_trans ht.le hp.le
  | .unary ht _ => exact ht.le
  | .binary hl hr _ => exact Nat.le_trans hl.le hr.le
  | .conditional hc _ hTrue hFalse _ =>
    exact Nat.le_trans hc.le (Nat.le_trans hTrue.le hFalse.le)
  | .array hitems => exact hitems.le

theorem BindsAll.le {scope : Scope} {next after : Nat} {es : List (Expr Mark)} {ts : List Typed}
    (h : env.BindsAll scope next es ts after) : next ≤ after := by
  match h with
  | .nil => exact Nat.le_refl _
  | .cons hhead hrest => exact Nat.le_trans hhead.le hrest.le

end

end Env

section Calls

variable {w : World} {args : List (Expr Mark)} {ts : List Typed} {t : Typed}

/-- A static call runs the overload that resolution chose. -/
theorem bindStatic_run {name : String} {f : Function}
    (hargs : w.runAll locals args = .ofOutcome (Bound.evalAll a (ts.map Typed.tree)))
    (h : Env.bindStatic ⟨name, f.overloads⟩ ts = .ok t) :
    ∃ o, findOverload? f.overloads ts.length = some o ∧
      (do
        let values ← w.runAll locals args
        Run.ofOutcome (o.run values)) = .ofOutcome (t.tree.eval a) := by
  obtain ⟨o, type, ho, -, rfl⟩ := Env.bindStatic_eq_ok h
  refine ⟨o, ho, ?_⟩
  rw [hargs, Bound.eval, Run.ofOutcome_seq]

/-- A use of a member runs the overload that the receiver decides for. -/
theorem bindInstance_run {bags : Bags} {target : Expr Mark} {receiver : Typed} {name : String}
    {isProperty : Bool} (hp : env.policy.Plain)
    (hreceiver : (env.world bags).run locals target = .ofOutcome (receiver.tree.eval a))
    (hgives : Outcome.Gives (receiver.tree.eval a) receiver.type)
    (hargs : (env.world bags).runAll locals args =
      .ofOutcome (Bound.evalAll a (ts.map Typed.tree)))
    (h : env.bindInstance receiver name isProperty ts = .ok t) :
    (do
      let r ← (env.world bags).run locals target
      let o ← (env.world bags).member name isProperty ts.length r
      let values ← (env.world bags).runAll locals args
      Run.ofOutcome (o.run (r :: values))) = .ofOutcome (t.tree.eval a) := by
  obtain ⟨type, -, rfl⟩ := Env.bindInstance_eq_ok h
  rw [Bound.eval, hreceiver, Run.ofOutcome_seq]
  cases hr : receiver.tree.eval a with
  | error e => rfl
  | ok r =>
    have hmember : (env.world bags).member name isProperty (ts.map Typed.type).length r =
        (Run.ofOutcome (dispatch name ((env.fits receiver.type name isProperty
          (ts.map Typed.type)).map Env.Fit.candidate) r)).map Candidate.overload :=
      World.member_eq (hgives r hr) hp.membersAllowed hp.membersFixed bags
    rw [List.length_map] at hmember
    rw [Run.ofOutcome_ok, except_ok_seq, except_ok_seq, hmember, hargs]
    cases dispatch name ((env.fits receiver.type name isProperty
        (ts.map Typed.type)).map Env.Fit.candidate) r with
    | error e => rfl
    | ok c =>
      rw [except_ok_seq, Run.ofOutcome_seq]
      rfl

end Calls

section Operators

variable {w : World} {m : Mark} {e e' : Expr Mark} {b b' : Bound}

/-- Operators other than the lazy ones run both operands and then combine the values. -/
theorem World.run_binary {op : BinaryOp} (hand : op ≠ .and) (hor : op ≠ .or) :
    w.run locals (.binary m op e e') = (do
      let x ← w.run locals e
      let y ← w.run locals e'
      Run.ofOutcome (applyBinary op x y)) := by
  cases op with
  | and => exact absurd rfl hand
  | or => exact absurd rfl hor
  | _ => rfl

theorem binary_run {op : BinaryOp} (he : w.run locals e = .ofOutcome (b.eval a))
    (he' : w.run locals e' = .ofOutcome (b'.eval a)) :
    w.run locals (.binary m op e e') = .ofOutcome (Bound.eval a (.binary op b b')) := by
  by_cases hand : op = .and
  · subst hand
    rw [World.run, Bound.eval, he, he']
    simp only [Run.ofOutcome_seq, Run.ofOutcome_ite]
    rfl
  by_cases hor : op = .or
  · subst hor
    rw [World.run, Bound.eval, he, he']
    simp only [Run.ofOutcome_seq, Run.ofOutcome_ite]
    rfl
  rw [World.run_binary hand hor, eval_binary hand hor, he, he', Run.ofOutcome_seq]
  simp only [Run.ofOutcome_seq]

theorem unary_run {op : UnaryOp} (he : w.run locals e = .ofOutcome (b.eval a)) :
    w.run locals (.unary m op e) = .ofOutcome (Bound.eval a (.unary op b)) := by
  cases op with
  | not =>
    rw [World.run, Bound.eval, he]
    simp only [Run.ofOutcome_seq]
    rfl
  | neg =>
    rw [World.run, Bound.eval, he]
    simp only [Run.ofOutcome_seq]

theorem conditional_run {e'' : Expr Mark} {b'' : Bound}
    (he : w.run locals e = .ofOutcome (b.eval a)) (he' : w.run locals e' = .ofOutcome (b'.eval a))
    (he'' : w.run locals e'' = .ofOutcome (b''.eval a)) :
    w.run locals (.conditional m e e' e'') =
      .ofOutcome (Bound.eval a (.conditional b b' b'')) := by
  rw [World.run, Bound.eval, he, he', he'']
  simp only [Run.ofOutcome_seq, Run.ofOutcome_ite]

theorem index_run (he : w.run locals e = .ofOutcome (b.eval a))
    (he' : w.run locals e' = .ofOutcome (b'.eval a)) :
    w.run locals (.index m e e') = .ofOutcome (Bound.eval a (.index b b')) := by
  rw [World.run, Bound.eval, he, he']
  simp only [Run.ofOutcome_seq]

end Operators

section Forms

variable {w : World} {m i j : Mark} {target body : Expr Mark} {args : List (Expr Mark)}
variable {name param : String}

theorem World.run_property (hbag : w.bag? locals target = none)
    (hmodule : w.module? locals target = none) :
    w.run locals (.member m target name) = (do
      let r ← w.run locals target
      let o ← w.member name true 0 r
      Run.ofOutcome (o.run [r])) := by
  rw [World.run, hbag, hmodule]

theorem World.run_importedCall {module : Module} {f : Function} {o : Overload}
    (hvalue : locals.value? name = none)
    (hf : w.registry.importedFunction? name = some (module, f))
    (ho : findOverload? f.overloads args.length = some o) :
    w.run locals (.call m (.ident i name) args) = (do
      let values ← w.runAll locals args
      Run.ofOutcome (o.run values)) := by
  rw [World.run, World.importedFunction, hvalue, hf]
  simp [ho, Run.ofLookup, except_ok_seq]

theorem World.run_moduleCall {module : Module} {f : Function} {o : Overload}
    (hmodule : w.module? locals target = some module) (hf : module.function? name = some f)
    (ho : findOverload? f.overloads args.length = some o) :
    w.run locals (.call m (.member i target name) args) = (do
      let values ← w.runAll locals args
      Run.ofOutcome (o.run values)) := by
  rw [World.run.eq_def]
  simp [hmodule, hf, ho, Run.ofLookup, except_ok_seq]

theorem World.run_quantifier {kind : Quantifier} (hmodule : w.module? locals target = none)
    (hkind : Quantifier.ofName? name = some kind) :
    w.run locals (.call m (.member i target name) [.lambda j param body]) = (do
      let items ← Run.ofOutcome (Catalog.elements (← w.run locals target))
      let test (v : Value) : Run Bool := do
        Run.ofOutcome ((← w.run ((param, v) :: locals) body).asBool kind.name)
      let b ← iterate kind test items
      .ok (.bool b)) := by
  rw [World.run.eq_def]
  simp only [hmodule, hkind]

/-- A quantifier tests the same elements in the same order. -/
theorem quantifier_run {kind : Quantifier} {b b' : Bound}
    (hmodule : w.module? locals target = none) (hkind : Quantifier.ofName? name = some kind)
    (htarget : w.run locals target = .ofOutcome (b.eval a))
    (hbody : ∀ v, w.run ((param, v) :: locals) body = .ofOutcome (b'.eval (a.bindSlot slot v))) :
    w.run locals (.call m (.member i target name) [.lambda j param body]) =
      .ofOutcome (Bound.eval a (.quantifier kind b slot b')) := by
  rw [World.run_quantifier hmodule hkind, Bound.eval, htarget]
  simp only [Run.ofOutcome_seq]
  refine bind_congr fun r => bind_congr fun items => ?_
  rw [← iterate_eq]
  · rfl
  · intro v
    rw [hbody, Run.ofOutcome_seq]

theorem World.run_method (hmodule : w.module? locals target = none)
    (hquantifier : Env.quantifier? name args = none) :
    w.run locals (.call m (.member i target name) args) = (do
      let r ← w.run locals target
      let o ← w.member name false args.length r
      let values ← w.runAll locals args
      Run.ofOutcome (o.run (r :: values))) := by
  rw [World.run.eq_def]
  simp only [hmodule]
  split
  · rename_i hkind
    simp [Env.quantifier?, hkind] at hquantifier
  · rfl

end Forms

namespace Env

mutual

/-- What resolves runs as it evaluates. -/
theorem Binds.run_eq (hp : env.policy.Plain) (bags : Bags) {scope : Scope} {locals : Locals}
    {a : Activation} {next after : Nat} {e : Expr Mark} {t : Typed}
    (h : env.Binds scope next e t after) (hscope : scope.Holds locals a)
    (hbelow : scope.Below next) (hfield : a.field = (Activation.ofBags bags).field) :
    (env.world bags).run locals e = .ofOutcome (t.tree.eval a) := by
  -- the slots in use stay below the next free one, and only a quantifier binds a new one
  match h with
  | .literal hv =>
    rw [World.run, hv]
    rfl
  | .param hslot =>
    rw [World.run, World.name]
    obtain ⟨v, hvalue, hv⟩ := hscope.value?_some hslot
    simp [hvalue, Bound.eval, hv]
  | .imported hslot _ hconst _ =>
    rw [World.run, World.name]
    simp only [hscope.value?_none hslot, Env.world, hconst]
    rfl
  | .field hbag _ =>
    rw [World.run, World.bag?_eq hscope, hbag]
    rw [Bound.eval, hfield]
    exact World.field_eq _ _ _
  | .constant hbag hmodule _ hv =>
    rw [World.run, World.bag?_eq hscope, World.module?_eq hscope, hbag, hmodule]
    simp only [hv]
    rfl
  | .property hbag hmodule ht hinstance =>
    rw [← World.bag?_eq hscope bags] at hbag
    rw [← World.module?_eq hscope bags] at hmodule
    rw [World.run_property hbag hmodule]
    have hreceiver := Binds.run_eq hp bags ht hscope hbelow hfield
    have hgives := ht.gives hp.honest a
    have hargs : (env.world bags).runAll locals [] = .ofOutcome (Bound.evalAll a []) := rfl
    exact bindInstance_run hp hreceiver hgives hargs hinstance
  | .importedCall hslot hf _ hargs ht =>
    have hrun := BindsAll.runAll_eq hp bags hargs hscope hbelow hfield
    obtain ⟨o, ho, hcall⟩ := bindStatic_run hrun ht
    rw [← hargs.length_eq] at ho
    rw [World.run_importedCall (hscope.value?_none hslot) hf ho]
    exact hcall
  | .moduleCall hmodule _ hf hargs ht =>
    have hrun := BindsAll.runAll_eq hp bags hargs hscope hbelow hfield
    obtain ⟨o, ho, hcall⟩ := bindStatic_run hrun ht
    rw [← hargs.length_eq] at ho
    rw [← World.module?_eq hscope bags] at hmodule
    rw [World.run_moduleCall hmodule hf ho]
    exact hcall
  | .quantifier hmodule hkind _ ht _ hbody _ =>
    have htarget := Binds.run_eq hp bags ht hscope hbelow hfield
    -- the slot of the parameter is the first one that is free once the receiver is resolved
    have hslot := hbelow.mono ht.le
    have htest (v : Value) :=
      Binds.run_eq hp bags hbody (hscope.push hslot _ v) (hslot.push _) hfield
    rw [← World.module?_eq hscope bags] at hmodule
    exact quantifier_run hmodule hkind htarget htest
  | .method hmodule hquantifier ht hargs hinstance =>
    rw [← World.module?_eq hscope bags] at hmodule
    rw [World.run_method hmodule hquantifier, hargs.length_eq]
    have hreceiver := Binds.run_eq hp bags ht hscope hbelow hfield
    have hgives := ht.gives hp.honest a
    have hrun := BindsAll.runAll_eq hp bags hargs hscope (hbelow.mono ht.le) hfield
    exact bindInstance_run hp hreceiver hgives hrun hinstance
  | .index ht hposition _ =>
    have htarget := Binds.run_eq hp bags ht hscope hbelow hfield
    have hindex := Binds.run_eq hp bags hposition hscope (hbelow.mono ht.le) hfield
    exact index_run htarget hindex
  | .unary ht _ =>
    have hoperand := Binds.run_eq hp bags ht hscope hbelow hfield
    exact unary_run hoperand
  | .binary hl hr _ =>
    have hleft := Binds.run_eq hp bags hl hscope hbelow hfield
    have hright := Binds.run_eq hp bags hr hscope (hbelow.mono hl.le) hfield
    exact binary_run hleft hright
  | .conditional hc _ hTrue hFalse _ =>
    have hmid := hbelow.mono hc.le
    have hcond := Binds.run_eq hp bags hc hscope hbelow hfield
    have honTrue := Binds.run_eq hp bags hTrue hscope hmid hfield
    have honFalse := Binds.run_eq hp bags hFalse hscope (hmid.mono hTrue.le) hfield
    exact conditional_run hcond honTrue honFalse
  | .array hitems =>
    have hrun := BindsAll.runAll_eq hp bags hitems hscope hbelow hfield
    rw [World.run, hrun, Bound.eval, Run.ofOutcome_map]
    rfl

/-- The trees of a list run as they evaluate. -/
theorem BindsAll.runAll_eq (hp : env.policy.Plain) (bags : Bags) {scope : Scope}
    {locals : Locals} {a : Activation} {next after : Nat} {es : List (Expr Mark)}
    {ts : List Typed} (h : env.BindsAll scope next es ts after) (hscope : scope.Holds locals a)
    (hbelow : scope.Below next) (hfield : a.field = (Activation.ofBags bags).field) :
    (env.world bags).runAll locals es = .ofOutcome (Bound.evalAll a (ts.map Typed.tree)) := by
  match h with
  | .nil => rfl
  | .cons hhead hrest =>
    have hfirst := Binds.run_eq hp bags hhead hscope hbelow hfield
    have hothers := BindsAll.runAll_eq hp bags hrest hscope (hbelow.mono hhead.le) hfield
    rw [World.runAll, hfirst, hothers, List.map_cons, Bound.evalAll]
    simp only [Run.ofOutcome_seq]
    rfl

end

end Env

/-! ## Whole expressions -/

/-- The members of the standard catalog have fixed result types. -/
theorem Registry.standard_membersFixed : Registry.standard.MembersFixed := by
  have hfixed : ∀ m ∈ Catalog.standardMembers, ∀ o ∈ m.overloads, o.result ≠ .promoted := by
    decide +kernel
  intro m hm o ho
  rw [Policy.standard_allMembers] at hm
  cases hresult : o.result with
  | fixed t => exact ⟨t, rfl⟩
  | promoted => exact absurd hresult (hfixed m hm o ho)

/-- Under every policy that can be built, whose overloads keep their word and whose members have
fixed result types, a tree that is resolved evaluates over any bags to the very value or error that
it gives when it is run as it is written. The standard catalog is of this kind. -/
theorem resolution_keeps_meaning :
    (Registry.standard.Honest ∧ Registry.standard.MembersFixed) ∧
      ∀ env : Env, env.policy.Built → env.policy.registry.Honest →
        env.policy.registry.MembersFixed → ∀ e t, env.bind e = .ok t → ∀ bags,
          (env.world bags).run [] e = .ofOutcome (t.tree.eval (.ofBags bags)) := by
  refine ⟨⟨Registry.standard_honest, Registry.standard_membersFixed⟩, ?_⟩
  intro env hbuilt hhonest hfixed e t hbind bags
  obtain ⟨after, hbinds⟩ := Env.binds_of_bind hbind
  have hplain : env.policy.Plain := ⟨hhonest, hfixed, hbuilt.membersAllowed⟩
  exact hbinds.run_eq hplain bags .nil nofun rfl

/-- `"ab".Any(c => c == 'a')` holds, before resolution and after it. -/
theorem resolution_keeps_meaning_any :
    let e : Expr Mark := .call ⟨6, 0, 24⟩
      (.member ⟨2, 0, 8⟩ (.literal ⟨1, 0, 4⟩ (.string "ab")) "Any")
      [.lambda ⟨5, 9, 22⟩ "c" (.binary ⟨5, 14, 22⟩ .eq (.ident ⟨3, 14, 15⟩ "c")
        (.literal ⟨4, 19, 22⟩ (.char 'a')))]
    let bound : Bound := .quantifier .any (.const (.string "ab")) 0
      (.binary .eq (.param 0) (.const (.char 'a')))
    let bags : Bags := .empty .standard
    Gate.standard.env.bind e = .ok ⟨bound, .bool⟩ ∧
      (Gate.standard.env.world bags).run [] e = .ofOutcome (bound.eval (.ofBags bags)) ∧
      bound.eval (.ofBags bags) = .ok (.bool true) := by
  intro e bound bags
  obtain ⟨⟨hhonest, hfixed⟩, hagree⟩ := resolution_keeps_meaning
  have hbind : Gate.standard.env.bind e = .ok ⟨bound, .bool⟩ := by rfl
  have heval : bound.eval (.ofBags bags) = .ok (.bool true) := by rfl
  exact ⟨hbind, hagree _ .standard hhonest hfixed e _ hbind bags, heval⟩

end GatedPredicate
