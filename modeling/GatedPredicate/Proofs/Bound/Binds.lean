import GatedPredicate.Bound.Binder
import GatedPredicate.Bound.Eval
import GatedPredicate.Proofs.Outcome

/-!
# The rules of resolution

Resolution is a function with many ways to fail. Its successes follow a small set of rules, one or
two for each form of expression, and what is known of a bound tree is known by induction on them.

- `Env.Binds`, `Env.BindsAll`: the rules
- `Env.bindStatic_eq_ok`, `Env.bindInstance_eq_ok`: how overloads and members are chosen
- `Env.binds_of_bindTree`, `Env.binds_of_bind`: a tree that is resolved is resolved by the rules
- `Env.Binds.bindTree_eq`: a tree that the rules resolve is resolved
-/

namespace GatedPredicate

/-! ## Lookups -/

theorem findOverload?_eq_some {overloads : List Overload} {arity : Nat} {o : Overload}
    (h : findOverload? overloads arity = some o) : o ∈ overloads ∧ o.arity = arity :=
  ⟨List.mem_of_find?_eq_some h, by simpa using List.find?_some h⟩

theorem dispatch_eq_ok {name : String} {candidates : List Candidate} {r : Value} {c : Candidate}
    (h : dispatch name candidates r = .ok c) : c ∈ candidates ∧ c.receiver.accepts r = true := by
  unfold dispatch at h
  split at h
  · rename_i hfind
    obtain rfl := Except.ok.inj h
    exact ⟨List.mem_of_find?_eq_some hfind, by simpa using List.find?_some hfind⟩
  · cases h

/-- An imported function is a function of some module. -/
theorem Registry.importedFunction?_eq_some {r : Registry} {name : String} {m : Module}
    {f : Function} (h : r.importedFunction? name = some (m, f)) :
    m ∈ r.modules ∧ m.function? name = some f := by
  obtain ⟨n, hn, hfound⟩ := List.exists_of_findSome?_eq_some h
  obtain ⟨_, hfunction, heq⟩ := Option.map_eq_some_iff.1 hfound
  cases heq
  exact ⟨(List.mem_filter.1 hn).1, hfunction⟩

/-- An imported constant is a constant of some module. -/
theorem Registry.importedConstant?_eq_some {r : Registry} {name : String} {m : Module}
    {v : Value} (h : r.importedConstant? name = some (m, v)) :
    m ∈ r.modules ∧ m.constant? name = some v := by
  obtain ⟨n, hn, hfound⟩ := List.exists_of_findSome?_eq_some h
  obtain ⟨_, hconstant, heq⟩ := Option.map_eq_some_iff.1 hfound
  cases heq
  exact ⟨(List.mem_filter.1 hn).1, hconstant⟩

namespace Env

open GatedPredicate.Syntax

variable {env : Env} {scope : Scope} {next : Nat}

/-! ## The rules -/

mutual

/-- `env.Binds scope next e t after`: under the parameters in `scope` the tree `e` resolves to `t`,
where `next` is the first free slot before and `after` the first one afterwards. -/
inductive Binds (env : Env) : Scope → Nat → Expr Mark → Typed → Nat → Prop
  | literal {scope : Scope} {next : Nat} {m : Mark} {l : Literal} {v : Value} :
      literalValue l = .ok v → Binds env scope next (.literal m l) (.ofValue v) next
  | param {scope : Scope} {next : Nat} {m : Mark} {name : String} {slot : Nat} :
      scope.slot? name = some slot →
      Binds env scope next (.ident m name) ⟨.param slot, .dynamic⟩ next
  /-- A constant of an imported module. -/
  | imported {scope : Scope} {next : Nat} {m : Mark} {name : String} {module : Module}
      {v : Value} :
      scope.slot? name = none → env.schema.isBag name = false →
      env.policy.registry.importedConstant? name = some (module, v) →
      env.requireModule module = .ok () →
      Binds env scope next (.ident m name) (.ofValue v) next
  | field {scope : Scope} {next : Nat} {m : Mark} {target : Expr Mark} {name : String}
      {bag : BagDecl} :
      env.bagFor? scope target = some bag →
      (env.strictFields && !bag.declares name) = false →
      Binds env scope next (.member m target name) ⟨.field bag.name name, .dynamic⟩ next
  /-- A constant of a module that is named. -/
  | constant {scope : Scope} {next : Nat} {m : Mark} {target : Expr Mark} {name : String}
      {module : Module} {v : Value} :
      env.bagFor? scope target = none → env.moduleFor? scope target = some module →
      env.requireModule module = .ok () → module.constant? name = some v →
      Binds env scope next (.member m target name) (.ofValue v) next
  | property {scope : Scope} {next after : Nat} {m : Mark} {target : Expr Mark} {name : String}
      {receiver t : Typed} :
      env.bagFor? scope target = none → env.moduleFor? scope target = none →
      Binds env scope next target receiver after →
      env.bindInstance receiver name true [] = .ok t →
      Binds env scope next (.member m target name) t after
  | importedCall {scope : Scope} {next after : Nat} {m i : Mark} {name : String}
      {module : Module} {f : Function} {args : List (Expr Mark)} {ts : List Typed} {t : Typed} :
      scope.slot? name = none →
      env.policy.registry.importedFunction? name = some (module, f) →
      env.requireModule module = .ok () → BindsAll env scope next args ts after →
      bindStatic ⟨module.displayName ++ "." ++ name, f.overloads⟩ ts = .ok t →
      Binds env scope next (.call m (.ident i name) args) t after
  | moduleCall {scope : Scope} {next after : Nat} {m i : Mark} {target : Expr Mark}
      {name : String} {module : Module} {f : Function} {args : List (Expr Mark)}
      {ts : List Typed} {t : Typed} :
      env.moduleFor? scope target = some module → env.requireModule module = .ok () →
      module.function? name = some f → BindsAll env scope next args ts after →
      bindStatic ⟨module.displayName ++ "." ++ name, f.overloads⟩ ts = .ok t →
      Binds env scope next (.call m (.member i target name) args) t after
  | quantifier {scope : Scope} {next slot after : Nat} {m i j : Mark} {target : Expr Mark}
      {name param : String} {body : Expr Mark} {kind : Quantifier} {receiver test : Typed} :
      env.moduleFor? scope target = none → Quantifier.ofName? name = some kind →
      env.requireSequences kind = .ok () → Binds env scope next target receiver slot →
      isQuantifiable receiver.type = true →
      Binds env ((param, slot) :: scope) (slot + 1) body test after →
      test.type.maybeBool = true →
      Binds env scope next (.call m (.member i target name) [.lambda j param body])
        ⟨.quantifier kind receiver.tree slot test.tree, .bool⟩ after
  | method {scope : Scope} {next mid after : Nat} {m i : Mark} {target : Expr Mark}
      {name : String} {args : List (Expr Mark)} {receiver t : Typed} {ts : List Typed} :
      env.moduleFor? scope target = none → quantifier? name args = none →
      Binds env scope next target receiver mid → BindsAll env scope mid args ts after →
      env.bindInstance receiver name false ts = .ok t →
      Binds env scope next (.call m (.member i target name) args) t after
  | index {scope : Scope} {next mid after : Nat} {m : Mark} {target position : Expr Mark}
      {t p : Typed} {type : ValueType} :
      Binds env scope next target t mid → Binds env scope mid position p after →
      indexType t.type p.type = .ok type →
      Binds env scope next (.index m target position) ⟨.index t.tree p.tree, type⟩ after
  | unary {scope : Scope} {next after : Nat} {m : Mark} {op : UnaryOp} {operand : Expr Mark}
      {t : Typed} {type : ValueType} :
      Binds env scope next operand t after → unaryType op t.type = .ok type →
      Binds env scope next (.unary m op operand) ⟨.unary op t.tree, type⟩ after
  | binary {scope : Scope} {next mid after : Nat} {m : Mark} {op : BinaryOp}
      {left right : Expr Mark} {l r : Typed} {type : ValueType} :
      Binds env scope next left l mid → Binds env scope mid right r after →
      binaryType op l.type r.type = .ok type →
      Binds env scope next (.binary m op left right) ⟨.binary op l.tree r.tree, type⟩ after
  | conditional {scope : Scope} {next mid late after : Nat} {m : Mark}
      {cond onTrue onFalse : Expr Mark} {c a b : Typed} {type : ValueType} :
      Binds env scope next cond c mid → c.type.maybeBool = true →
      Binds env scope mid onTrue a late → Binds env scope late onFalse b after →
      conditionalType a.type b.type = .ok type →
      Binds env scope next (.conditional m cond onTrue onFalse)
        ⟨.conditional c.tree a.tree b.tree, type⟩ after
  | array {scope : Scope} {next after : Nat} {m : Mark} {items : List (Expr Mark)}
      {ts : List Typed} :
      BindsAll env scope next items ts after →
      Binds env scope next (.array m items) ⟨.array (ts.map Typed.tree), .list⟩ after

/-- The trees of a list resolve one after the other. -/
inductive BindsAll (env : Env) : Scope → Nat → List (Expr Mark) → List Typed → Nat → Prop
  | nil {scope : Scope} {next : Nat} : BindsAll env scope next [] [] next
  | cons {scope : Scope} {next mid after : Nat} {e : Expr Mark} {rest : List (Expr Mark)}
      {t : Typed} {ts : List Typed} :
      Binds env scope next e t mid → BindsAll env scope mid rest ts after →
      BindsAll env scope next (e :: rest) (t :: ts) after

end

theorem BindsAll.length_eq {scope : Scope} {next after : Nat} {es : List (Expr Mark)}
    {ts : List Typed} (h : env.BindsAll scope next es ts after) : es.length = ts.length := by
  induction es generalizing next ts with
  | nil =>
    cases h
    rfl
  | cons e rest ih =>
    cases h with
    | cons _ hrest => rw [List.length_cons, List.length_cons, ih hrest]

/-! ## Modules -/

/-- What a chain of names stands for is a module of the registry. -/
theorem mem_of_moduleFor? {target : Expr Mark} {m : Module}
    (h : env.moduleFor? scope target = some m) : m ∈ env.policy.registry.modules := by
  obtain ⟨path, -, h⟩ := Option.bind_eq_some_iff.1 h
  obtain ⟨root, -, h⟩ := Option.bind_eq_some_iff.1 h
  split at h
  · cases h
  · exact List.mem_of_find?_eq_some h

/-- Refusal is the only thing that can happen to a module that is looked up. -/
theorem requireModule_eq_ok {m : Module} :
    env.requireModule m = .ok () ↔ env.policy.isAllowed m.tag = true := by
  unfold requireModule
  split
  · rename_i hallowed
    simp [hallowed]
  · rename_i hallowed
    simp [hallowed]

/-! ## Overloads and members -/

/-- A static call runs the first overload for the number of its arguments. -/
theorem bindStatic_eq_ok {callee : Callee} {ts : List Typed} {t : Typed}
    (h : bindStatic callee ts = .ok t) :
    ∃ o type, findOverload? callee.overloads ts.length = some o ∧
      o.resultType? (ts.map Typed.type) = some type ∧
      t = ⟨.call callee.name o (ts.map Typed.tree), type⟩ := by
  unfold bindStatic at h
  split at h
  · cases h
  · rename_i o ho
    dsimp only at h
    split at h
    · cases h
    · rename_i type htype
      exact ⟨o, type, ho, htype, (Except.ok.inj h).symm⟩

/-- The members that fit a use of a name and belong to allowed namespaces. -/
def fits (env : Env) (receiver : ValueType) (name : String) (isProperty : Bool)
    (args : List ValueType) : List Fit :=
  ((env.policy.registry.members name).filterMap (fit? receiver isProperty args)).filter
    fun f => env.policy.isAllowed f.member.module

/-- A use of a member runs one of those that fit. -/
theorem bindInstance_eq_ok {receiver t : Typed} {name : String} {isProperty : Bool}
    {ts : List Typed} (h : env.bindInstance receiver name isProperty ts = .ok t) :
    ∃ type, commonType
        ((env.fits receiver.type name isProperty (ts.map Typed.type)).map Fit.type) = some type ∧
      t = ⟨.member name receiver.tree
        ((env.fits receiver.type name isProperty (ts.map Typed.type)).map Fit.candidate)
        (ts.map Typed.tree), type⟩ := by
  unfold bindInstance at h
  dsimp only at h
  split at h
  · rename_i type htype
    exact ⟨type, htype, (Except.ok.inj h).symm⟩
  · cases h
  · split at h
    · cases h
    · cases h

theorem fit?_eq_some {receiver : ValueType} {isProperty : Bool} {args : List ValueType}
    {m : Member} {f : Fit} (h : fit? receiver isProperty args m = some f) :
    f.member = m ∧ m.isProperty = isProperty ∧ m.receiver.acceptsType receiver = true ∧
      findOverload? m.overloads args.length = some f.overload ∧
      f.overload.resultType? args = some f.type := by
  unfold fit? at h
  split at h
  · rename_i hkind
    obtain ⟨o, ho, hfit⟩ := Option.bind_eq_some_iff.1 h
    obtain ⟨type, htype, rfl⟩ := Option.map_eq_some_iff.1 hfit
    obtain ⟨hproperty, haccepts⟩ := Bool.and_eq_true_iff.1 hkind
    exact ⟨rfl, eq_of_beq hproperty, haccepts, ho, htype⟩
  · cases h

/-- What is known of each member that fits. -/
theorem mem_fits {receiver : ValueType} {name : String} {isProperty : Bool}
    {args : List ValueType} {f : Fit} (h : f ∈ env.fits receiver name isProperty args) :
    f.member ∈ env.policy.registry.members name ∧
      env.policy.isAllowed f.member.module = true ∧
      fit? receiver isProperty args f.member = some f := by
  obtain ⟨hfit, hallowed⟩ := List.mem_filter.1 h
  obtain ⟨m, hm, hfit⟩ := List.mem_filterMap.1 hfit
  obtain ⟨rfl, -⟩ := fit?_eq_some hfit
  exact ⟨hm, hallowed, hfit⟩

/-! ## Resolved trees -/

theorem binds_of_bindName {m : Mark} {name : String} {t : Typed}
    (h : env.bindName scope name = .ok t) : env.Binds scope next (.ident m name) t next := by
  unfold bindName at h
  split at h
  · rename_i slot hslot
    exact Except.ok.inj h ▸ .param hslot
  · rename_i hslot
    split at h
    · cases h
    · rename_i hbag
      split at h
      · rename_i module v hconst
        obtain ⟨_, hmodule, rfl⟩ := except_map_eq_ok.1 h
        exact .imported hslot (Bool.not_eq_true _ ▸ hbag) hconst hmodule
      · split at h
        · cases h
        · cases h

theorem bindField_eq_ok {bag : BagDecl} {name : String} {t : Typed}
    (h : env.bindField bag name = .ok t) :
    (env.strictFields && !bag.declares name) = false ∧ t = ⟨.field bag.name name, .dynamic⟩ := by
  unfold bindField at h
  split at h
  · cases h
  · rename_i hstrict
    exact ⟨Bool.not_eq_true _ ▸ hstrict, (Except.ok.inj h).symm⟩

theorem bindConstant_eq_ok {module : Module} {name : String} {t : Typed}
    (h : env.bindConstant module name = .ok t) :
    env.requireModule module = .ok () ∧ ∃ v, module.constant? name = some v ∧ t = .ofValue v := by
  obtain ⟨_, hmodule, hconst⟩ := except_bind_eq_ok.1 h
  split at hconst
  · rename_i v hv
    exact ⟨hmodule, v, hv, (Except.ok.inj hconst).symm⟩
  · cases hconst

theorem importedCallee_eq_ok {name : String} {callee : Callee}
    (h : env.importedCallee scope name = .ok callee) :
    scope.slot? name = none ∧ ∃ module f,
      env.policy.registry.importedFunction? name = some (module, f) ∧
      env.requireModule module = .ok () ∧
      callee = ⟨module.displayName ++ "." ++ name, f.overloads⟩ := by
  unfold importedCallee at h
  split at h
  · cases h
  · rename_i hslot
    split at h
    · cases h
    · rename_i module f hf
      obtain ⟨_, hmodule, rfl⟩ := except_map_eq_ok.1 h
      exact ⟨by simpa using hslot, module, f, hf, hmodule, rfl⟩

theorem moduleCallee_eq_ok {module : Module} {name : String} {callee : Callee}
    (h : env.moduleCallee module name = .ok callee) :
    env.requireModule module = .ok () ∧ ∃ f, module.function? name = some f ∧
      callee = ⟨module.displayName ++ "." ++ name, f.overloads⟩ := by
  obtain ⟨_, hmodule, hcallee⟩ := except_bind_eq_ok.1 h
  dsimp only at hcallee
  split at hcallee
  · rename_i f hf
    exact ⟨hmodule, f, hf, (Except.ok.inj hcallee).symm⟩
  · cases hcallee

theorem requireQuantifiable_eq_ok {kind : Quantifier} {t : ValueType}
    (h : requireQuantifiable kind t = .ok ()) : isQuantifiable t = true := by
  unfold requireQuantifiable at h
  split at h
  · assumption
  · cases h

theorem requireTest_eq_ok {kind : Quantifier} {t : ValueType}
    (h : requireTest kind t = .ok ()) : t.maybeBool = true := by
  unfold requireTest at h
  split at h
  · assumption
  · cases h

theorem requireCondition_eq_ok {t : ValueType} (h : requireCondition t = .ok ()) :
    t.maybeBool = true := by
  unfold requireCondition at h
  split at h
  · assumption
  · cases h

theorem quantifier?_eq_some {name param : String} {args : List (Expr Mark)} {kind : Quantifier}
    {body : Expr Mark} (h : quantifier? name args = some (kind, param, body)) :
    Quantifier.ofName? name = some kind ∧ ∃ m, args = [.lambda m param body] := by
  unfold quantifier? at h
  split at h
  · rename_i kind m param body hkind
    cases h
    exact ⟨hkind, m, rfl⟩
  · cases h

section Calls

variable {m i : Mark} {target : Expr Mark} {name : String} {args : List (Expr Mark)}

theorem bindTree_moduleCall {module : Module}
    (hmodule : env.moduleFor? scope target = some module) :
    env.bindTree scope next (.call m (.member i target name) args) = (do
      let callee ← env.moduleCallee module name
      let (args, next) ← env.bindAll scope next args
      let t ← bindStatic callee args
      .ok (t, next)) := by
  rw [bindTree.eq_def]
  simp only [hmodule]

theorem bindTree_quantifier {j : Mark} {param : String} {body : Expr Mark} {kind : Quantifier}
    (hmodule : env.moduleFor? scope target = none)
    (hkind : Quantifier.ofName? name = some kind) :
    env.bindTree scope next (.call m (.member i target name) [.lambda j param body]) = (do
      env.requireSequences kind
      let (receiver, slot) ← env.bindTree scope next target
      requireQuantifiable kind receiver.type
      let (test, next) ← env.bindTree ((param, slot) :: scope) (slot + 1) body
      requireTest kind test.type
      .ok (⟨.quantifier kind receiver.tree slot test.tree, .bool⟩, next)) := by
  rw [bindTree.eq_def]
  simp only [hmodule, hkind]

theorem bindTree_method (hmodule : env.moduleFor? scope target = none)
    (hquantifier : quantifier? name args = none) :
    env.bindTree scope next (.call m (.member i target name) args) = (do
      let (receiver, next) ← env.bindTree scope next target
      let (args, next) ← env.bindAll scope next args
      let t ← env.bindInstance receiver name false args
      .ok (t, next)) := by
  rw [bindTree.eq_def]
  simp only [hmodule]
  split
  · rename_i hkind
    simp [quantifier?, hkind] at hquantifier
  · rfl

end Calls

mutual

/-- A tree that is resolved is resolved by the rules. -/
theorem binds_of_bindTree (e : Expr Mark) {scope : Scope} {next after : Nat} {t : Typed}
    (h : env.bindTree scope next e = .ok (t, after)) : env.Binds scope next e t after := by
  match e with
  | .literal _ l =>
    obtain ⟨v, hv, h⟩ := except_seq_eq_ok.1 h
    cases h
    exact .literal hv
  | .ident _ name =>
    obtain ⟨t, ht, h⟩ := except_seq_eq_ok.1 h
    cases h
    exact binds_of_bindName ht
  | .member _ target name =>
    rw [bindTree] at h
    -- a field of a bag before a constant of a module before a property of a value
    split at h
    · rename_i bag hbag
      obtain ⟨t, ht, h⟩ := except_seq_eq_ok.1 h
      cases h
      obtain ⟨hstrict, rfl⟩ := bindField_eq_ok ht
      exact .field hbag hstrict
    · rename_i module hbag hmodule
      obtain ⟨t, ht, h⟩ := except_seq_eq_ok.1 h
      cases h
      obtain ⟨hallowed, v, hv, rfl⟩ := bindConstant_eq_ok ht
      exact .constant hbag hmodule hallowed hv
    · rename_i hbag hmodule
      obtain ⟨⟨receiver, mid⟩, hreceiver, h⟩ := except_seq_eq_ok.1 h
      obtain ⟨t, ht, h⟩ := except_seq_eq_ok.1 h
      cases h
      exact .property hbag hmodule (binds_of_bindTree target hreceiver) ht
  | .call _ (.ident _ name) args =>
    obtain ⟨callee, hcallee, h⟩ := except_seq_eq_ok.1 h
    obtain ⟨⟨ts, mid⟩, hts, h⟩ := except_seq_eq_ok.1 h
    obtain ⟨t, ht, h⟩ := except_seq_eq_ok.1 h
    cases h
    obtain ⟨hslot, module, f, hf, hallowed, rfl⟩ := importedCallee_eq_ok hcallee
    exact .importedCall hslot hf hallowed (bindsAll_of_bindAll args hts) ht
  | .call _ (.member _ target name) args =>
    cases hmodule : env.moduleFor? scope target with
    | some module =>
      rw [bindTree_moduleCall hmodule] at h
      obtain ⟨callee, hcallee, h⟩ := except_seq_eq_ok.1 h
      obtain ⟨⟨ts, mid⟩, hts, h⟩ := except_seq_eq_ok.1 h
      obtain ⟨t, ht, h⟩ := except_seq_eq_ok.1 h
      cases h
      obtain ⟨hallowed, f, hf, rfl⟩ := moduleCallee_eq_ok hcallee
      exact .moduleCall hmodule hallowed hf (bindsAll_of_bindAll args hts) ht
    | none =>
      cases hquantifier : quantifier? name args with
      | some q =>
        obtain ⟨kind, param, body⟩ := q
        obtain ⟨hkind, m, rfl⟩ := quantifier?_eq_some hquantifier
        rw [bindTree_quantifier hmodule hkind] at h
        obtain ⟨_, hsequences, h⟩ := except_seq_eq_ok.1 h
        obtain ⟨⟨receiver, slot⟩, hreceiver, h⟩ := except_seq_eq_ok.1 h
        obtain ⟨_, hquantifiable, h⟩ := except_seq_eq_ok.1 h
        obtain ⟨⟨test, last⟩, htest, h⟩ := except_seq_eq_ok.1 h
        obtain ⟨_, hbool, h⟩ := except_seq_eq_ok.1 h
        cases h
        exact .quantifier hmodule hkind hsequences (binds_of_bindTree target hreceiver)
          (requireQuantifiable_eq_ok hquantifiable) (binds_of_bindTree body htest)
          (requireTest_eq_ok hbool)
      | none =>
        rw [bindTree_method hmodule hquantifier] at h
        obtain ⟨⟨receiver, mid⟩, hreceiver, h⟩ := except_seq_eq_ok.1 h
        obtain ⟨⟨ts, last⟩, hts, h⟩ := except_seq_eq_ok.1 h
        obtain ⟨t, ht, h⟩ := except_seq_eq_ok.1 h
        cases h
        exact .method hmodule hquantifier (binds_of_bindTree target hreceiver)
          (bindsAll_of_bindAll args hts) ht
  -- nothing else can be called, and lambdas and `typeof` stand for no value
  | .call _ (.literal ..) _ | .call _ (.call ..) _ | .call _ (.index ..) _
  | .call _ (.unary ..) _ | .call _ (.binary ..) _ | .call _ (.conditional ..) _
  | .call _ (.array ..) _ | .call _ (.lambda ..) _ | .call _ (.typeOf ..) _ => cases h
  | .index _ target position =>
    obtain ⟨⟨t, mid⟩, ht, h⟩ := except_seq_eq_ok.1 h
    obtain ⟨⟨p, last⟩, hp, h⟩ := except_seq_eq_ok.1 h
    obtain ⟨type, htype, h⟩ := except_seq_eq_ok.1 h
    cases h
    exact .index (binds_of_bindTree target ht) (binds_of_bindTree position hp) htype
  | .unary _ op operand =>
    obtain ⟨⟨t, mid⟩, ht, h⟩ := except_seq_eq_ok.1 h
    obtain ⟨type, htype, h⟩ := except_seq_eq_ok.1 h
    cases h
    exact .unary (binds_of_bindTree operand ht) htype
  | .binary _ op left right =>
    obtain ⟨⟨l, mid⟩, hl, h⟩ := except_seq_eq_ok.1 h
    obtain ⟨⟨r, last⟩, hr, h⟩ := except_seq_eq_ok.1 h
    obtain ⟨type, htype, h⟩ := except_seq_eq_ok.1 h
    cases h
    exact .binary (binds_of_bindTree left hl) (binds_of_bindTree right hr) htype
  | .conditional _ cond onTrue onFalse =>
    obtain ⟨⟨c, mid⟩, hc, h⟩ := except_seq_eq_ok.1 h
    obtain ⟨_, hcond, h⟩ := except_seq_eq_ok.1 h
    obtain ⟨⟨a, late⟩, ha, h⟩ := except_seq_eq_ok.1 h
    obtain ⟨⟨b, last⟩, hb, h⟩ := except_seq_eq_ok.1 h
    obtain ⟨type, htype, h⟩ := except_seq_eq_ok.1 h
    cases h
    exact .conditional (binds_of_bindTree cond hc) (requireCondition_eq_ok hcond)
      (binds_of_bindTree onTrue ha) (binds_of_bindTree onFalse hb) htype
  | .array _ items =>
    obtain ⟨⟨ts, mid⟩, hts, h⟩ := except_seq_eq_ok.1 h
    cases h
    exact .array (bindsAll_of_bindAll items hts)
  | .lambda _ _ _ => cases h
  | .typeOf _ _ => cases h

/-- A list of trees that is resolved is resolved by the rules. -/
theorem bindsAll_of_bindAll (es : List (Expr Mark)) {scope : Scope} {next after : Nat}
    {ts : List Typed} (h : env.bindAll scope next es = .ok (ts, after)) :
    env.BindsAll scope next es ts after := by
  match es with
  | [] =>
    cases h
    exact .nil
  | e :: rest =>
    obtain ⟨⟨t, mid⟩, ht, h⟩ := except_seq_eq_ok.1 h
    obtain ⟨⟨ts, last⟩, hts, h⟩ := except_seq_eq_ok.1 h
    cases h
    exact .cons (binds_of_bindTree e ht) (bindsAll_of_bindAll rest hts)

end

/-! ## The rules are followed -/

mutual

/-- A tree that the rules resolve is resolved. -/
theorem Binds.bindTree_eq {scope : Scope} {next after : Nat} {e : Expr Mark} {t : Typed}
    (h : env.Binds scope next e t after) : env.bindTree scope next e = .ok (t, after) := by
  match h with
  | .literal hv =>
    rw [bindTree, hv]
    rfl
  | .param hslot =>
    rw [bindTree, bindName, hslot]
    rfl
  | .imported hslot hbag hconst hmodule =>
    rw [bindTree, bindName, hslot]
    simp only [hbag, hconst, hmodule]
    rfl
  | .field hbag hstrict =>
    rw [bindTree, hbag]
    simp only [bindField, hstrict]
    rfl
  | .constant hbag hmodule hallowed hv =>
    rw [bindTree, hbag, hmodule]
    simp only [bindConstant, hallowed, hv]
    rfl
  | .property hbag hmodule hr ht =>
    rw [bindTree, hbag, hmodule]
    simp only [hr.bindTree_eq, except_ok_seq, ht]
  | .importedCall hslot hf hallowed hargs ht =>
    rw [bindTree, importedCallee, hslot, hf]
    simp only [hallowed, Option.isSome_none, Bool.false_eq_true, if_false, Except.map,
      except_ok_seq, hargs.bindAll_eq, ht]
  | .moduleCall hmodule hallowed hf hargs ht =>
    rw [bindTree_moduleCall hmodule]
    simp only [moduleCallee, hallowed, Except.bind, hf, except_ok_seq, hargs.bindAll_eq, ht]
  | .quantifier hmodule hkind hsequences hr hquantifiable hbody hbool =>
    rw [bindTree_quantifier hmodule hkind, hsequences]
    simp only [hr.bindTree_eq, except_ok_seq, requireQuantifiable, hquantifiable, if_true,
      hbody.bindTree_eq, requireTest, hbool]
  | .method hmodule hquantifier hr hargs ht =>
    rw [bindTree_method hmodule hquantifier]
    simp only [hr.bindTree_eq, hargs.bindAll_eq, except_ok_seq, ht]
  | .index ht hp htype =>
    rw [bindTree]
    simp only [ht.bindTree_eq, hp.bindTree_eq, except_ok_seq, htype]
  | .unary ht htype =>
    rw [bindTree]
    simp only [ht.bindTree_eq, except_ok_seq, htype]
  | .binary hl hr htype =>
    rw [bindTree]
    simp only [hl.bindTree_eq, hr.bindTree_eq, except_ok_seq, htype]
  | .conditional hc hcond ha hb htype =>
    rw [bindTree]
    simp only [hc.bindTree_eq, ha.bindTree_eq, hb.bindTree_eq, except_ok_seq, requireCondition,
      hcond, if_true, htype]
  | .array hitems =>
    rw [bindTree]
    simp only [hitems.bindAll_eq, except_ok_seq]

/-- A list of trees that the rules resolve is resolved. -/
theorem BindsAll.bindAll_eq {scope : Scope} {next after : Nat} {es : List (Expr Mark)}
    {ts : List Typed} (h : env.BindsAll scope next es ts after) :
    env.bindAll scope next es = .ok (ts, after) := by
  match h with
  | .nil => rfl
  | .cons ht hts =>
    rw [bindAll]
    simp only [ht.bindTree_eq, hts.bindAll_eq, except_ok_seq]

end

/-! ## Whole trees -/

/-- A whole tree that is resolved is resolved by the rules. -/
theorem binds_of_bind {e : Expr Mark} {t : Typed} (h : env.bind e = .ok t) :
    ∃ after, env.Binds [] 0 e t after := by
  obtain ⟨⟨t, after⟩, ht, rfl⟩ := except_map_eq_ok.1 h
  exact ⟨after, binds_of_bindTree e ht⟩

end Env

end GatedPredicate
