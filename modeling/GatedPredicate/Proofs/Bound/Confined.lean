import GatedPredicate.Proofs.Bound.Binds
import GatedPredicate.Proofs.Compile
import GatedPredicate.Proofs.Syntax.Height

/-!
# What a predicate can reach

All code that a predicate can run besides operators and quantifiers are overloads, and all of them
come from what its policy allows. A static call runs an overload of a function of an allowed module,
a member one of a registered member of an allowed namespace, and there are no quantifiers without
the namespace of sequences.

That evaluation runs no other code is said with an evaluator that takes the code of overloads as a
parameter: whatever other overloads are taken to do, the value of the tree is the same.

- `Policy.OffersFunction`, `Policy.OffersMember`, `Policy.Offers`: the code that a policy offers
- `Policy.Confines`: a tree with what it was resolved to, which reaches nothing else
- `Env.Binds.confined`: what is resolved is confined
- `Bound.evalWith`: evaluation with other code for overloads
- `Gate.compile_confined`
-/

namespace GatedPredicate

open GatedPredicate.Syntax

/-! ## The code that a policy offers -/

/-- The overload belongs to the function `name` of an allowed module, which messages call
`qualified`. -/
def Policy.OffersFunction (p : Policy) (name qualified : String) (o : Overload) : Prop :=
  ∃ m ∈ p.registry.modules, p.isAllowed m.tag = true ∧ qualified = m.displayName ++ "." ++ name ∧
    ∃ f, m.function? name = some f ∧ o ∈ f.overloads

/-- The candidate is a registered method or property `name` of an allowed namespace. -/
def Policy.OffersMember (p : Policy) (name : String) (isProperty : Bool) (c : Candidate) : Prop :=
  ∃ m ∈ p.registry.allMembers, p.isAllowed m.module = true ∧ m.name = name ∧
    m.isProperty = isProperty ∧ c.receiver = m.receiver ∧ c.qualifiedName = m.qualifiedName ∧
    c.overload ∈ m.overloads

/-- The overload is one that the policy offers, for a static call or as a member. -/
def Policy.Offers (p : Policy) (o : Overload) : Prop :=
  (∃ name qualified, p.OffersFunction name qualified o) ∨
    ∃ name isProperty c, p.OffersMember name isProperty c ∧ c.overload = o

theorem Policy.OffersMember.offers {p : Policy} {name : String} {isProperty : Bool}
    {c : Candidate} (h : p.OffersMember name isProperty c) : p.Offers c.overload :=
  .inr ⟨name, isProperty, c, h, rfl⟩

mutual

/-- `p.Confines e b`: the tree `b`, to which `e` was resolved, runs nothing but what `p` offers,
under the name and with the number of arguments that `e` has there. -/
inductive Policy.Confines (p : Policy) : Expr Mark → Bound → Prop
  | literal {m : Mark} {l : Literal} {v : Value} : Confines p (.literal m l) (.const v)
  | imported {m : Mark} {name : String} {v : Value} : Confines p (.ident m name) (.const v)
  | constant {m : Mark} {target : Expr Mark} {name : String} {v : Value} :
      Confines p (.member m target name) (.const v)
  | param {m : Mark} {name : String} {slot : Nat} : Confines p (.ident m name) (.param slot)
  | field {m : Mark} {target : Expr Mark} {bag name : String} :
      Confines p (.member m target name) (.field bag name)
  | property {m : Mark} {target : Expr Mark} {name : String} {receiver : Bound}
      {candidates : List Candidate} :
      (∀ c ∈ candidates, p.OffersMember name true c ∧ c.overload.arity = 0) →
      Confines p target receiver →
      Confines p (.member m target name) (.member name receiver candidates [])
  | method {m i : Mark} {target : Expr Mark} {name : String} {args : List (Expr Mark)}
      {receiver : Bound} {candidates : List Candidate} {bs : List Bound} :
      (∀ c ∈ candidates, p.OffersMember name false c ∧ c.overload.arity = args.length) →
      Confines p target receiver → ConfinesAll p args bs →
      Confines p (.call m (.member i target name) args) (.member name receiver candidates bs)
  | importedCall {m i : Mark} {name qualified : String} {args : List (Expr Mark)} {o : Overload}
      {bs : List Bound} :
      p.OffersFunction name qualified o → o.arity = args.length → ConfinesAll p args bs →
      Confines p (.call m (.ident i name) args) (.call qualified o bs)
  | moduleCall {m i : Mark} {target : Expr Mark} {name qualified : String}
      {args : List (Expr Mark)} {o : Overload} {bs : List Bound} :
      p.OffersFunction name qualified o → o.arity = args.length → ConfinesAll p args bs →
      Confines p (.call m (.member i target name) args) (.call qualified o bs)
  | quantifier {m i j : Mark} {target body : Expr Mark} {name param : String}
      {kind : Quantifier} {receiver test : Bound} {slot : Nat} :
      p.isAllowed Catalog.sequenceTag = true → Confines p target receiver →
      Confines p body test →
      Confines p (.call m (.member i target name) [.lambda j param body])
        (.quantifier kind receiver slot test)
  | index {m : Mark} {target position : Expr Mark} {t q : Bound} :
      Confines p target t → Confines p position q →
      Confines p (.index m target position) (.index t q)
  | unary {m : Mark} {op : UnaryOp} {operand : Expr Mark} {b : Bound} :
      Confines p operand b → Confines p (.unary m op operand) (.unary op b)
  | binary {m : Mark} {op : BinaryOp} {left right : Expr Mark} {l r : Bound} :
      Confines p left l → Confines p right r →
      Confines p (.binary m op left right) (.binary op l r)
  | conditional {m : Mark} {cond onTrue onFalse : Expr Mark} {c a b : Bound} :
      Confines p cond c → Confines p onTrue a → Confines p onFalse b →
      Confines p (.conditional m cond onTrue onFalse) (.conditional c a b)
  | array {m : Mark} {items : List (Expr Mark)} {bs : List Bound} :
      ConfinesAll p items bs → Confines p (.array m items) (.array bs)

/-- The same for lists of trees. -/
inductive Policy.ConfinesAll (p : Policy) : List (Expr Mark) → List Bound → Prop
  | nil : ConfinesAll p [] []
  | cons {e : Expr Mark} {rest : List (Expr Mark)} {b : Bound} {bs : List Bound} :
      Confines p e b → ConfinesAll p rest bs → ConfinesAll p (e :: rest) (b :: bs)

end

/-! ## What is resolved is confined -/

variable {env : Env}

/-- A static call runs an overload of the function that was looked up. -/
theorem Env.bindStatic_offered {module : Module} {name : String} {f : Function} {ts : List Typed}
    {t : Typed} (hmodule : module ∈ env.policy.registry.modules)
    (hallowed : env.requireModule module = .ok ()) (hf : module.function? name = some f)
    (h : bindStatic ⟨module.displayName ++ "." ++ name, f.overloads⟩ ts = .ok t) :
    ∃ o, env.policy.OffersFunction name (module.displayName ++ "." ++ name) o ∧
      o.arity = ts.length ∧
      t.tree = .call (module.displayName ++ "." ++ name) o (ts.map Typed.tree) := by
  obtain ⟨o, type, ho, -, rfl⟩ := bindStatic_eq_ok h
  obtain ⟨hmem, harity⟩ := findOverload?_eq_some ho
  refine ⟨o, ⟨module, hmodule, requireModule_eq_ok.1 hallowed, rfl, f, hf, hmem⟩, harity, rfl⟩

/-- All candidates for a member are members that the policy offers. -/
theorem Env.bindInstance_offered {receiver t : Typed} {name : String} {isProperty : Bool}
    {ts : List Typed} (h : env.bindInstance receiver name isProperty ts = .ok t) :
    ∃ candidates, (∀ c ∈ candidates, env.policy.OffersMember name isProperty c ∧
        c.overload.arity = ts.length) ∧
      t.tree = .member name receiver.tree candidates (ts.map Typed.tree) := by
  obtain ⟨type, -, rfl⟩ := bindInstance_eq_ok h
  refine ⟨_, fun c hc => ?_, rfl⟩
  obtain ⟨f, hf, rfl⟩ := List.mem_map.1 hc
  obtain ⟨hregistered, hallowed, hfit⟩ := mem_fits hf
  obtain ⟨-, hproperty, -, ho, -⟩ := fit?_eq_some hfit
  obtain ⟨hmember, hname⟩ := List.mem_filter.1 hregistered
  obtain ⟨hmem, harity⟩ := findOverload?_eq_some ho
  rw [List.length_map] at harity
  exact ⟨⟨f.member, hmember, hallowed, eq_of_beq hname, hproperty, rfl, rfl, hmem⟩, harity⟩

namespace Env

mutual

/-- What resolves reaches nothing but what the policy offers. -/
theorem Binds.confined {scope : Scope} {next after : Nat} {e : Expr Mark} {t : Typed}
    (h : env.Binds scope next e t after) : env.policy.Confines e t.tree := by
  match h with
  | .literal _ => exact .literal
  | .param _ => exact .param
  | .imported _ _ _ _ => exact .imported
  | .field _ _ => exact .field
  | .constant _ _ _ _ => exact .constant
  | .property _ _ htarget ht =>
    obtain ⟨candidates, hcandidates, htree⟩ := bindInstance_offered ht
    rw [htree]
    exact .property hcandidates htarget.confined
  | .importedCall _ hf hallowed hargs ht =>
    obtain ⟨hmodule, hfunction⟩ := Registry.importedFunction?_eq_some hf
    obtain ⟨o, hoffers, harity, htree⟩ := bindStatic_offered hmodule hallowed hfunction ht
    rw [htree]
    exact .importedCall hoffers (harity.trans hargs.length_eq.symm) hargs.confined
  | .moduleCall hmodule hallowed hf hargs ht =>
    obtain ⟨o, hoffers, harity, htree⟩ :=
      bindStatic_offered (mem_of_moduleFor? hmodule) hallowed hf ht
    rw [htree]
    exact .moduleCall hoffers (harity.trans hargs.length_eq.symm) hargs.confined
  | .quantifier _ _ hsequences htarget _ hbody _ =>
    have hallowed : env.policy.isAllowed Catalog.sequenceTag = true := by
      unfold requireSequences at hsequences
      split at hsequences
      · assumption
      · cases hsequences
    exact .quantifier hallowed htarget.confined hbody.confined
  | .method _ _ htarget hargs ht =>
    obtain ⟨candidates, hcandidates, htree⟩ := bindInstance_offered ht
    rw [htree]
    rw [← hargs.length_eq] at hcandidates
    exact .method hcandidates htarget.confined hargs.confined
  | .index htarget hposition _ => exact .index htarget.confined hposition.confined
  | .unary hoperand _ => exact .unary hoperand.confined
  | .binary hleft hright _ => exact .binary hleft.confined hright.confined
  | .conditional hcond _ htrue hfalse _ =>
    exact .conditional hcond.confined htrue.confined hfalse.confined
  | .array hitems => exact .array hitems.confined

theorem BindsAll.confined {scope : Scope} {next after : Nat} {es : List (Expr Mark)}
    {ts : List Typed} (h : env.BindsAll scope next es ts after) :
    env.policy.ConfinesAll es (ts.map Typed.tree) := by
  match h with
  | .nil => exact .nil
  | .cons hhead hrest => exact .cons hhead.confined hrest.confined

end

end Env

/-! ## Other code in place of overloads -/

/-- Code for each overload. -/
abbrev Code := Overload → List Value → Outcome Value

namespace Bound

mutual

/-- The value of a tree if `code` is what overloads do. -/
def evalWith (code : Code) (a : Activation) : Bound → Outcome Value
  | .const v => .ok v
  | .field bag name => a.field bag name
  | .param slot =>
    match a.slot slot with
    | some v => .ok v
    | none => .error (.unexpected (.unboundParameter slot))
  | .array items => (evalAllWith code a items).map .list
  | .unary .not operand => do
    let b ← (← evalWith code a operand).asBool "!"
    .ok (.bool !b)
  | .unary .neg operand => do
    (← evalWith code a operand).negate
  | .binary .and left right => do
    if ← (← evalWith code a left).asBool "&&" then
      let b ← (← evalWith code a right).asBool "&&"
      .ok (.bool b)
    else .ok (.bool false)
  | .binary .or left right => do
    if ← (← evalWith code a left).asBool "||" then .ok (.bool true)
    else
      let b ← (← evalWith code a right).asBool "||"
      .ok (.bool b)
  | .binary op left right => do
    let l ← evalWith code a left
    let r ← evalWith code a right
    applyBinary op l r
  | .conditional cond onTrue onFalse => do
    if ← (← evalWith code a cond).asBool "?:" then evalWith code a onTrue
    else evalWith code a onFalse
  | .index target position => do
    let t ← evalWith code a target
    let p ← evalWith code a position
    indexInto t p
  | .call _ overload args => do
    code overload (← evalAllWith code a args)
  | .member name receiver candidates args => do
    let r ← evalWith code a receiver
    let candidate ← dispatch name candidates r
    let values ← evalAllWith code a args
    code candidate.overload (r :: values)
  | .quantifier kind receiver slot body => do
    let items ← Catalog.elements (← evalWith code a receiver)
    let test (v : Value) : Outcome Bool := do
      (← evalWith code (a.bindSlot slot v) body).asBool kind.name
    let b ← quantify kind test items
    .ok (.bool b)

/-- The values of a list of trees, up to the first error. -/
def evalAllWith (code : Code) (a : Activation) : List Bound → Outcome (List Value)
  | [] => .ok []
  | e :: rest => do
    let v ← evalWith code a e
    let vs ← evalAllWith code a rest
    .ok (v :: vs)

end

mutual

/-- With the code that overloads come with this is evaluation. -/
theorem evalWith_run (a : Activation) : ∀ b : Bound, b.evalWith Overload.run a = b.eval a
  | .const _ | .field _ _ | .param _ => rfl
  | .array items => by simp [evalWith, eval, evalAllWith_run a items]
  | .unary op operand => by
    cases op <;> simp [evalWith, eval, evalWith_run a operand]
  | .binary op left right => by
    cases op <;> simp [evalWith, eval, evalWith_run a left, evalWith_run a right]
  | .conditional cond onTrue onFalse => by
    simp [evalWith, eval, evalWith_run a cond, evalWith_run a onTrue, evalWith_run a onFalse]
  | .index target position => by
    simp [evalWith, eval, evalWith_run a target, evalWith_run a position]
  | .call _ _ args => by simp [evalWith, eval, evalAllWith_run a args]
  | .member _ receiver _ args => by
    simp [evalWith, eval, evalWith_run a receiver, evalAllWith_run a args]
  | .quantifier _ receiver slot body => by
    have hbody : ∀ v, evalWith Overload.run (a.bindSlot slot v) body =
        eval (a.bindSlot slot v) body := fun v => evalWith_run _ body
    simp [evalWith, eval, evalWith_run a receiver, hbody]

theorem evalAllWith_run (a : Activation) :
    ∀ bs : List Bound, evalAllWith Overload.run a bs = evalAll a bs
  | [] => rfl
  | b :: rest => by simp [evalAllWith, evalAll, evalWith_run a b, evalAllWith_run a rest]

end

end Bound

section Congruence

variable {p : Policy} {code code' : Code}

/-- Whichever candidate the receiver decides for, its code is offered. -/
theorem Bound.member_congr {name : String} {receiver : Bound} {candidates : List Candidate}
    {bs : List Bound} {a : Activation} (hcode : ∀ o, p.Offers o → code o = code' o)
    (hoffers : ∀ c ∈ candidates, p.Offers c.overload)
    (hreceiver : receiver.evalWith code a = receiver.evalWith code' a)
    (hargs : evalAllWith code a bs = evalAllWith code' a bs) :
    (Bound.member name receiver candidates bs).evalWith code a =
      (Bound.member name receiver candidates bs).evalWith code' a := by
  simp only [evalWith, hreceiver, hargs]
  refine except_seq_congr fun r _ => except_seq_congr fun c hc => except_seq_congr fun vs _ => ?_
  obtain ⟨hmem, -⟩ := dispatch_eq_ok hc
  rw [hcode c.overload (hoffers c hmem)]

mutual

/-- The value of a confined tree depends on the code that the policy offers and on no other. -/
theorem Policy.Confines.evalWith_congr (hcode : ∀ o, p.Offers o → code o = code' o)
    {e : Expr Mark} {b : Bound} (h : p.Confines e b) (a : Activation) :
    b.evalWith code a = b.evalWith code' a := by
  match h with
  | .literal | .imported | .constant | .param | .field => rfl
  | .property hcandidates hreceiver =>
    have hoffers := fun c hc => (hcandidates c hc).1.offers
    exact Bound.member_congr hcode hoffers (hreceiver.evalWith_congr hcode a) rfl
  | .method hcandidates hreceiver hargs =>
    have hoffers := fun c hc => (hcandidates c hc).1.offers
    exact Bound.member_congr hcode hoffers (hreceiver.evalWith_congr hcode a)
      (hargs.evalAllWith_congr hcode a)
  | .importedCall hoffers _ hargs | .moduleCall hoffers _ hargs =>
    simp only [Bound.evalWith, hargs.evalAllWith_congr hcode a]
    rw [hcode _ (.inl ⟨_, _, hoffers⟩)]
  | .quantifier _ hreceiver hbody =>
    -- the body is evaluated under other activations, one for each element
    have hbody' := fun v slot => hbody.evalWith_congr hcode (a.bindSlot slot v)
    simp only [Bound.evalWith, hreceiver.evalWith_congr hcode a, hbody']
  | .index htarget hposition =>
    simp only [Bound.evalWith, htarget.evalWith_congr hcode a, hposition.evalWith_congr hcode a]
  | @Confines.unary _ _ op _ _ hoperand =>
    have hoperand' := hoperand.evalWith_congr hcode a
    cases op <;> simp only [Bound.evalWith, hoperand']
  | @Confines.binary _ _ op _ _ _ _ hleft hright =>
    have hleft' := hleft.evalWith_congr hcode a
    have hright' := hright.evalWith_congr hcode a
    cases op <;> simp only [Bound.evalWith, hleft', hright']
  | .conditional hcond htrue hfalse =>
    simp only [Bound.evalWith, hcond.evalWith_congr hcode a, htrue.evalWith_congr hcode a,
      hfalse.evalWith_congr hcode a]
  | .array hitems => simp only [Bound.evalWith, hitems.evalAllWith_congr hcode a]

theorem Policy.ConfinesAll.evalAllWith_congr (hcode : ∀ o, p.Offers o → code o = code' o)
    {es : List (Expr Mark)} {bs : List Bound} (h : p.ConfinesAll es bs) (a : Activation) :
    Bound.evalAllWith code a bs = Bound.evalAllWith code' a bs := by
  match h with
  | .nil => rfl
  | .cons hhead hrest =>
    simp only [Bound.evalAllWith, hhead.evalWith_congr hcode a, hrest.evalAllWith_congr hcode a]

end

end Congruence

/-! ## Whole predicates -/

/-- A predicate has passed the check of its own policy. All that it can run is what this policy
offers: static calls and members with the name, the kind and the number of arguments that the text
has there, and quantifiers if sequences are allowed. Over no bags does its value depend on any other
code. -/
theorem Gate.compile_confined (g : Gate) (text : String) (p : Predicate)
    (h : g.compile text = .ok p) :
    p.policy = g.policy ∧ p.schema = g.schema ∧ p.policy.check p.schema p.tree = [] ∧
      p.policy.Confines p.tree p.bound ∧
      ∀ code : Code, (∀ o, p.policy.Offers o → code o = o.run) →
        ∀ bags, p.bound.evalWith code (.ofBags bags) = p.bound.eval (.ofBags bags) := by
  have hpasses := Gate.compile_eq_ok.1 h
  obtain ⟨_, hbinds⟩ := Env.binds_of_bind hpasses.resolved
  have hconfines : p.policy.Confines p.tree p.bound := by
    rw [hpasses.policy]
    exact hbinds.confined
  refine ⟨hpasses.policy, hpasses.schema, ?_, hconfines, fun code hcode bags => ?_⟩
  · rw [hpasses.policy, hpasses.schema]
    exact hpasses.checked
  · rw [← Bound.evalWith_run]
    exact hconfines.evalWith_congr hcode _

/-- In `"a".Any(c => Char.IsDigit(c))` all other overloads may as well fail. -/
theorem Gate.compile_confined_any :
    ∃ p, Gate.standard.compile "\"a\".Any(c => Char.IsDigit(c))" = .ok p ∧
      p.policy.Confines p.tree p.bound ∧
      ∃ code : Code, (∀ o args, ¬ p.policy.Offers o → code o args = Overload.miscounted) ∧
        ∀ bags, p.bound.evalWith code (.ofBags bags) = p.bound.eval (.ofBags bags) := by
  classical
  let ls : List Lexeme := [⟨.literal (.string "a"), ⟨0, 3⟩⟩, ⟨.symbol .dot, ⟨3, 4⟩⟩,
    ⟨.ident "Any", ⟨4, 7⟩⟩, ⟨.symbol .lparen, ⟨7, 8⟩⟩, ⟨.ident "c", ⟨8, 9⟩⟩,
    ⟨.symbol .arrow, ⟨10, 12⟩⟩, ⟨.ident "Char", ⟨13, 17⟩⟩, ⟨.symbol .dot, ⟨17, 18⟩⟩,
    ⟨.ident "IsDigit", ⟨18, 25⟩⟩, ⟨.symbol .lparen, ⟨25, 26⟩⟩, ⟨.ident "c", ⟨26, 27⟩⟩,
    ⟨.symbol .rparen, ⟨27, 28⟩⟩, ⟨.symbol .rparen, ⟨28, 29⟩⟩]
  let tree : Expr Mark := .call ⟨8, 0, 29⟩
    (.member ⟨2, 0, 7⟩ (.literal ⟨1, 0, 3⟩ (.string "a")) "Any")
    [.lambda ⟨7, 8, 28⟩ "c" (.call ⟨6, 13, 28⟩
      (.member ⟨4, 13, 25⟩ (.ident ⟨3, 13, 17⟩ "Char") "IsDigit") [.ident ⟨5, 26, 27⟩ "c"])]
  have hlex : lex "\"a\".Any(c => Char.IsDigit(c))" = .ok ls := by decide +kernel
  have hparse : parseLexemes 64 ls = .complete tree :=
    (parseLexemes_of_parseNested rfl rfl).trans rfl
  have hfindings : (Policy.standard.findings .standard [] tree).isEmpty = true := by
    decide +kernel
  obtain ⟨t, hbind, htype⟩ : ∃ t, Gate.standard.env.bind tree = .ok t ∧ t.type = .bool :=
    ⟨_, rfl, rfl⟩
  have hcompile : Gate.standard.compile "\"a\".Any(c => Char.IsDigit(c))" =
      .ok ⟨_, tree, t.tree, t.type, .standard, .standard⟩ :=
    Gate.compile_of_stages (by decide) (by decide) (by decide) hlex hparse hfindings hbind
      (by rw [htype]; rfl)
  obtain ⟨-, -, -, hconfines, hcode⟩ := Gate.compile_confined .standard _ _ hcompile
  refine ⟨_, hcompile, hconfines,
    fun o args => if Policy.standard.Offers o then o.run args else Overload.miscounted, ?_, ?_⟩
  · intro o args ho
    simp [ho]
  · apply hcode
    intro o ho
    simp [ho]

end GatedPredicate
