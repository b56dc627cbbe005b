import GatedPredicate.Gate
import GatedPredicate.Proofs.Bound.Binds
import GatedPredicate.Proofs.Policy.Built
import GatedPredicate.Proofs.Typing.StandardCatalog

/-!
# Soundness of static types

Where the overloads of a policy keep their word, so does the static type of every expression: no
data can make a bound tree evaluate to a value that its type does not admit. The proof goes by the
rules of resolution, with one fact for each operation. The parameters of lambdas need no invariant,
because nothing is known of their types.

- `bindStatic_eval`, `bindInstance_eval`: how calls and uses of members come to their values
- `bindStatic_gives`, `bindInstance_gives`: calls and members
- `Env.Binds.gives`: the values of what resolves, rule by rule
- `Env.bind_admits`: the values of whole trees
-/

namespace GatedPredicate

open GatedPredicate.Syntax GatedPredicate.ValueType

variable {env : Env} {scope : Scope} {next after : Nat} {a : Activation}

/-! ## Calls and members -/

/-- If the common type of results is known, each of them is of this type. -/
theorem eq_of_commonType {types : List ValueType} {s t : ValueType}
    (h : Env.commonType types = some t) (ht : t ≠ .dynamic) (hs : s ∈ types) : s = t := by
  cases types with
  | nil => cases hs
  | cons first rest =>
    rw [Env.commonType, Option.some.injEq] at h
    split at h
    · rename_i hall
      subst h
      rcases List.mem_cons.1 hs with rfl | hs
      · rfl
      · simpa using List.all_eq_true.1 hall s hs
    · exact absurd h.symm ht

/-- The common type of results covers what each of them covers. -/
theorem commonType_covers {types : List ValueType} {s t r : ValueType}
    (h : Env.commonType types = some t) (hs : s ∈ types) (hr : s.Covers r) : t.Covers r := by
  by_cases ht : t = .dynamic
  · exact ht ▸ dynamic_covers
  · exact eq_of_commonType h ht hs ▸ hr

/-- The arguments of a call have values that their types admit. -/
def ArgsGive (a : Activation) (ts : List Typed) : Prop :=
  ∀ args, Bound.evalAll a (ts.map Typed.tree) = .ok args →
    List.Forall₂ Admits (ts.map Typed.type) args

/-- How a static call comes to its value: it runs one of the overloads on the values of the
arguments. -/
structure StaticRun (a : Activation) (callee : Env.Callee) (ts : List Typed) (t : Typed) (v : Value)
    (o : Overload) (args : List Value) : Prop where
  tree : t.tree = .call callee.name o (ts.map Typed.tree)
  overload : o ∈ callee.overloads
  arity : (ts.map Typed.type).length = o.arity
  type : o.resultType? (ts.map Typed.type) = some t.type
  values : Bound.evalAll a (ts.map Typed.tree) = .ok args
  result : o.run args = .ok v

theorem bindStatic_eval {callee : Env.Callee} {ts : List Typed} {t : Typed} {v : Value}
    (h : Env.bindStatic callee ts = .ok t) (hv : t.tree.eval a = .ok v) :
    ∃ o args, StaticRun a callee ts t v o args := by
  obtain ⟨o, type, ho, htype, rfl⟩ := Env.bindStatic_eq_ok h
  obtain ⟨hmem, harity⟩ := findOverload?_eq_some ho
  rw [Bound.eval] at hv
  obtain ⟨args, heval, hrun⟩ := except_seq_eq_ok.1 hv
  exact ⟨o, args, rfl, hmem, by rw [List.length_map, harity], htype, heval, hrun⟩

/-- How the use of a member comes to its value: the receiver decides for a candidate, whose overload
runs on the receiver and the values of the arguments. -/
structure MemberRun (env : Env) (a : Activation) (name : String) (ts : List Typed) (t : Typed)
    (v : Value) (f : Env.Fit) (r : Value) (args : List Value) : Prop where
  tree : ∃ receiver candidates, f.candidate ∈ candidates ∧
    t.tree = .member name receiver candidates (ts.map Typed.tree)
  member : f.member ∈ env.policy.registry.allMembers
  overload : f.overload ∈ f.member.overloads
  accepts : f.member.receiver.accepts r = true
  arity : (ts.map Typed.type).length = f.overload.arity
  type : f.overload.resultType? (ts.map Typed.type) = some f.type
  common : ∃ types, f.type ∈ types ∧ Env.commonType types = some t.type
  values : Bound.evalAll a (ts.map Typed.tree) = .ok args
  result : f.overload.run (r :: args) = .ok v

theorem bindInstance_eval {receiver t : Typed} {name : String} {isProperty : Bool}
    {ts : List Typed} {v : Value} (h : env.bindInstance receiver name isProperty ts = .ok t)
    (hv : t.tree.eval a = .ok v) : ∃ f r args, MemberRun env a name ts t v f r args := by
  obtain ⟨type, htype, rfl⟩ := Env.bindInstance_eq_ok h
  rw [Bound.eval] at hv
  obtain ⟨r, -, hv⟩ := except_seq_eq_ok.1 hv
  obtain ⟨c, hc, hv⟩ := except_seq_eq_ok.1 hv
  obtain ⟨args, heval, hrun⟩ := except_seq_eq_ok.1 hv
  obtain ⟨hcandidate, haccepts⟩ := dispatch_eq_ok hc
  obtain ⟨f, hf, rfl⟩ := List.mem_map.1 hcandidate
  obtain ⟨hregistered, -, hfit⟩ := Env.mem_fits hf
  obtain ⟨-, -, -, ho, hresult⟩ := Env.fit?_eq_some hfit
  obtain ⟨hmem, harity⟩ := findOverload?_eq_some ho
  exact ⟨f, r, args, ⟨_, _, hcandidate, rfl⟩, (List.mem_filter.1 hregistered).1, hmem, haccepts,
    harity.symm, hresult, ⟨_, List.mem_map_of_mem hf, htype⟩, heval, hrun⟩

/-- A static call keeps the promise of the overload that it runs. -/
theorem bindStatic_gives {name : String} {f : Function} {ts : List Typed} {t : Typed}
    (hhonest : f.Honest) (hargs : ArgsGive a ts)
    (h : Env.bindStatic ⟨name, f.overloads⟩ ts = .ok t) :
    Outcome.Gives (t.tree.eval a) t.type := by
  intro v hv
  obtain ⟨o, args, hrun⟩ := bindStatic_eval h hv
  have hadmits := hargs args hrun.values
  exact hhonest o hrun.overload _ args t.type hrun.arity hadmits hrun.type v hrun.result

/-- A use of a member keeps the promise of whichever candidate the receiver decides for. -/
theorem bindInstance_gives {receiver t : Typed} {name : String} {isProperty : Bool}
    {ts : List Typed} (hhonest : env.policy.registry.Honest) (hargs : ArgsGive a ts)
    (h : env.bindInstance receiver name isProperty ts = .ok t) :
    Outcome.Gives (t.tree.eval a) t.type := by
  intro v hv
  obtain ⟨f, r, args, hrun⟩ := bindInstance_eval h hv
  obtain ⟨types, hmem, hcommon⟩ := hrun.common
  -- the member that the receiver decides for is honest for this very receiver
  have hmember := hhonest.members f.member hrun.member f.overload hrun.overload r hrun.accepts
  have hgives : f.type.Admits v :=
    hmember _ args f.type hrun.arity (hargs args hrun.values) hrun.type v hrun.result
  exact commonType_covers hcommon hmem hgives

/-! ## Operators -/

/-- Operators other than the lazy ones evaluate both operands and then combine the values. -/
theorem eval_binary {op : BinaryOp} {l r : Bound} (hand : op ≠ .and) (hor : op ≠ .or) :
    Bound.eval a (.binary op l r) = (do
      let x ← Bound.eval a l
      let y ← Bound.eval a r
      applyBinary op x y) := by
  cases op with
  | and => exact absurd rfl hand
  | or => exact absurd rfl hor
  | _ => rfl

/-- The lazy operators give truth values, whether they look at the right operand or not. -/
theorem lazy_eq_ok {op : BinaryOp} {l r : Bound} {v : Value} (h : op = .and ∨ op = .or)
    (hv : Bound.eval a (.binary op l r) = .ok v) : ∃ b, v = .bool b := by
  have hright (name : String) (hv : (do
      let b ← (← Bound.eval a r).asBool name
      .ok (Value.bool b)) = .ok v) : ∃ b, v = .bool b := by
    obtain ⟨_, -, hv⟩ := except_seq_eq_ok.1 hv
    obtain ⟨b, -, hv⟩ := except_seq_eq_ok.1 hv
    exact ⟨b, (Except.ok.inj hv).symm⟩
  rcases h with rfl | rfl
  · rw [Bound.eval] at hv
    obtain ⟨_, -, hv⟩ := except_seq_eq_ok.1 hv
    obtain ⟨b, -, hv⟩ := except_seq_eq_ok.1 hv
    split at hv
    · exact hright "&&" hv
    · exact ⟨false, (Except.ok.inj hv).symm⟩
  · rw [Bound.eval] at hv
    obtain ⟨_, -, hv⟩ := except_seq_eq_ok.1 hv
    obtain ⟨b, -, hv⟩ := except_seq_eq_ok.1 hv
    split at hv
    · exact ⟨true, (Except.ok.inj hv).symm⟩
    · exact hright "||" hv

theorem lazy_gives {op : BinaryOp} {l r : Bound} (h : op = .and ∨ op = .or) :
    Outcome.Gives (Bound.eval a (.binary op l r)) .bool := by
  intro v hv
  obtain ⟨b, rfl⟩ := lazy_eq_ok h hv
  exact admits_of_type_eq rfl

theorem binaryType_lazy {op : BinaryOp} {l r t : ValueType} (hlazy : op = .and ∨ op = .or)
    (h : binaryType op l r = .ok t) : t = .bool := by
  rcases hlazy with rfl | rfl <;>
  · simp only [binaryType] at h
    split at h
    · exact (Except.ok.inj h).symm
    · cases h

theorem binary_gives {op : BinaryOp} {l r : Typed} {type : ValueType}
    (hl : Outcome.Gives (l.tree.eval a) l.type) (hr : Outcome.Gives (r.tree.eval a) r.type)
    (h : binaryType op l.type r.type = .ok type) :
    Outcome.Gives (Bound.eval a (.binary op l.tree r.tree)) type := by
  by_cases hlazy : op = .and ∨ op = .or
  · rw [binaryType_lazy hlazy h]
    exact lazy_gives hlazy
  · rw [not_or] at hlazy
    rw [eval_binary hlazy.1 hlazy.2]
    intro v hv
    obtain ⟨x, hx, hv⟩ := except_seq_eq_ok.1 hv
    obtain ⟨y, hy, hv⟩ := except_seq_eq_ok.1 hv
    exact applyBinary_admits hlazy.1 hlazy.2 h (hl x hx) (hr y hy) hv

theorem unary_gives {op : UnaryOp} {t : Typed} {type : ValueType}
    (ht : Outcome.Gives (t.tree.eval a) t.type) (h : unaryType op t.type = .ok type) :
    Outcome.Gives (Bound.eval a (.unary op t.tree)) type := by
  cases op with
  | not =>
    obtain rfl : .bool = type := by
      simp only [unaryType] at h
      split at h
      · exact Except.ok.inj h
      · cases h
    rw [Bound.eval]
    exact .bind fun _ => .bind fun _ => .ok (admits_of_type_eq rfl)
  | neg =>
    intro v hv
    rw [Bound.eval] at hv
    obtain ⟨x, hx, hv⟩ := except_seq_eq_ok.1 hv
    exact negate_admits h (ht x hx) hv

theorem conditional_gives {c p q : Typed} {type : ValueType}
    (hp : Outcome.Gives (p.tree.eval a) p.type) (hq : Outcome.Gives (q.tree.eval a) q.type)
    (h : conditionalType p.type q.type = .ok type) :
    Outcome.Gives (Bound.eval a (.conditional c.tree p.tree q.tree)) type := by
  rw [Bound.eval]
  refine .bind fun _ => .bind fun b => ?_
  split
  · exact fun v hv => Covers.conditional_left h (hp v hv)
  · exact fun v hv => Covers.conditional_right h (hq v hv)

theorem quantifier_gives {kind : Quantifier} {receiver body : Bound} {slot : Nat} :
    Outcome.Gives (Bound.eval a (.quantifier kind receiver slot body)) .bool := by
  rw [Bound.eval]
  exact .bind fun _ => .bind fun _ => .bind fun _ => .ok (admits_of_type_eq rfl)

/-! ## The registry -/

/-- An imported function is a function of some module. -/
theorem Registry.Honest.importedFunction {r : Registry} (h : r.Honest) {name : String}
    {m : Module} {f : Function} (hf : r.importedFunction? name = some (m, f)) : f.Honest := by
  obtain ⟨hmodule, hfunction⟩ := Registry.importedFunction?_eq_some hf
  exact h.modules m hmodule name f hfunction

/-! ## Trees -/

namespace Env

mutual

/-- What resolves gives values of its type only. -/
theorem Binds.gives (hhonest : env.policy.registry.Honest) {scope : Scope} {next after : Nat}
    {e : Expr Mark} {t : Typed} (h : env.Binds scope next e t after) (a : Activation) :
    Outcome.Gives (t.tree.eval a) t.type := by
  match h with
  | .literal _ => exact .ok admits_type
  | .param _ => exact fun _ _ => dynamic_admits
  | .imported _ _ _ _ => exact .ok admits_type
  | .field _ _ => exact fun _ _ => dynamic_admits
  | .constant _ _ _ _ => exact .ok admits_type
  | .property _ _ _ ht =>
    have hargs : ArgsGive a [] := by
      intro args hargs
      obtain rfl := Except.ok.inj hargs
      exact .nil
    exact bindInstance_gives hhonest hargs ht
  | .importedCall _ hf _ hargs ht =>
    have hfunction := hhonest.importedFunction hf
    exact bindStatic_gives hfunction (BindsAll.gives hhonest hargs a) ht
  | .moduleCall hmodule _ hf hargs ht =>
    have hfunction := hhonest.modules _ (mem_of_moduleFor? hmodule) _ _ hf
    exact bindStatic_gives hfunction (BindsAll.gives hhonest hargs a) ht
  | .quantifier _ _ _ _ _ _ _ => exact quantifier_gives
  | .method _ _ _ hargs ht =>
    exact bindInstance_gives hhonest (BindsAll.gives hhonest hargs a) ht
  | .index ht _ htype =>
    intro v hv
    rw [Bound.eval] at hv
    obtain ⟨x, hx, hv⟩ := except_seq_eq_ok.1 hv
    obtain ⟨y, -, hv⟩ := except_seq_eq_ok.1 hv
    exact indexInto_admits htype (Binds.gives hhonest ht a x hx) hv
  | .unary ht htype => exact unary_gives (Binds.gives hhonest ht a) htype
  | .binary hl hr htype =>
    have hleft := Binds.gives hhonest hl a
    have hright := Binds.gives hhonest hr a
    exact binary_gives hleft hright htype
  | .conditional _ _ hTrue hFalse htype =>
    have honTrue := Binds.gives hhonest hTrue a
    have honFalse := Binds.gives hhonest hFalse a
    exact conditional_gives honTrue honFalse htype
  | .array _ =>
    exact .map fun _ => admits_of_type_eq rfl

/-- The values of a list that resolves are values of their types. -/
theorem BindsAll.gives (hhonest : env.policy.registry.Honest) {scope : Scope} {next after : Nat}
    {es : List (Expr Mark)} {ts : List Typed} (h : env.BindsAll scope next es ts after)
    (a : Activation) : ArgsGive a ts := by
  match h with
  | .nil =>
    intro args hargs
    obtain rfl := Except.ok.inj hargs
    exact .nil
  | .cons hhead hrest =>
    intro args hargs
    rw [List.map_cons, Bound.evalAll] at hargs
    obtain ⟨v, hv, hargs⟩ := except_seq_eq_ok.1 hargs
    obtain ⟨vs, hvs, hargs⟩ := except_seq_eq_ok.1 hargs
    obtain rfl := Except.ok.inj hargs
    have hfirst := Binds.gives hhonest hhead a v hv
    have hothers := BindsAll.gives hhonest hrest a vs hvs
    exact .cons hfirst hothers

end

end Env

/-! ## Whole expressions -/

/-- The static type of a whole expression admits each of its values. -/
theorem Env.bind_admits (hhonest : env.policy.registry.Honest) {e : Expr Mark} {t : Typed}
    (h : env.bind e = .ok t) {v : Value} (hv : t.tree.eval a = .ok v) : t.type.Admits v := by
  obtain ⟨after, hbinds⟩ := Env.binds_of_bind h
  exact hbinds.gives hhonest a v hv

theorem Gate.bindPredicate_eq_notBool {g : Gate} {e : Expr Mark} {type : ValueType}
    (h : g.bindPredicate e = .error (.notBool type)) :
    ∃ t, g.env.bind e = .ok t ∧ t.type = type ∧ t.type.maybeBool = false := by
  unfold Gate.bindPredicate at h
  split at h
  · cases h
  · rename_i t ht
    split at h
    · cases h
    · rename_i hbool
      cases h
      exact ⟨t, ht, rfl, Bool.not_eq_true _ ▸ hbool⟩

/-- The standard catalog keeps its word, and where all overloads do so do static types: under every
activation, a value is one that the type of the expression admits. In particular an expression that
is refused because it gives no truth value could not have given one over any bags. -/
theorem static_types_sound :
    Registry.standard.Honest ∧
      ∀ g : Gate, g.policy.registry.Honest → ∀ e : Expr Mark,
        (∀ t a v, g.env.bind e = .ok t → t.tree.eval a = .ok v → t.type.Admits v) ∧
          ∀ type, g.bindPredicate e = .error (.notBool type) →
            ∃ t, g.env.bind e = .ok t ∧ t.type = type ∧
              ∀ bags b, t.tree.eval (.ofBags bags) ≠ .ok (.bool b) := by
  refine ⟨Registry.standard_honest, fun g hhonest e => ⟨?_, ?_⟩⟩
  · intro t a v hbind hv
    exact Env.bind_admits hhonest hbind hv
  · intro type h
    obtain ⟨t, hbind, htype, hbool⟩ := Gate.bindPredicate_eq_notBool h
    refine ⟨t, hbind, htype, fun bags b hv => ?_⟩
    have hadmits : t.type.Admits (.bool b) := Env.bind_admits hhonest hbind hv
    have hmaybe : t.type.maybeBool = true := maybeBool_of_covers hadmits
    rw [hmaybe] at hbool
    cases hbool

/-- `true ? null : 1` is of type `int` and gives null; it is refused as a predicate, and rightly
so. -/
theorem static_types_sound_null_branch :
    let e : Expr Mark := .conditional ⟨4, 0, 15⟩ (.literal ⟨1, 0, 4⟩ (.bool true))
      (.literal ⟨2, 7, 11⟩ .null) (.literal ⟨3, 14, 15⟩ (.int 1))
    let bound : Bound := .conditional (.const (.bool true)) (.const .null) (.const (.int 1))
    Registry.standard.Honest ∧ Gate.standard.env.bind e = .ok ⟨bound, .int⟩ ∧
      ValueType.Admits .int .null ∧
      ∃ t, Gate.standard.env.bind e = .ok t ∧ t.type = .int ∧
        ∀ bags b, t.tree.eval (.ofBags bags) ≠ .ok (.bool b) := by
  intro e bound
  obtain ⟨hhonest, hsound⟩ := static_types_sound
  obtain ⟨hadmits, hrefused⟩ := hsound .standard hhonest e
  have hbind : Gate.standard.env.bind e = .ok ⟨bound, .int⟩ := rfl
  have heval : bound.eval (.ofBags (.empty .standard)) = .ok .null := rfl
  exact ⟨hhonest, hbind, hadmits _ _ _ hbind heval, hrefused .int rfl⟩

end GatedPredicate
