import GatedPredicate.Proofs.Compile
import GatedPredicate.Proofs.Syntax.Height
import GatedPredicate.Proofs.Typing.Exact
import GatedPredicate.Proofs.Typing.Soundness

/-!
# Conditionals that mix numbers

A conditional whose branches are numbers of different types has their common type, but hands the
branch that is taken on as it is. Over the standard catalog nothing else separates the value of an
expression from its static type: where no such conditional is in the way, a value is null or of the
type that is known of the expression.

- `Bound.type?`: the static type, read off the bound tree
- `Bound.mixes`: trees whose value may come from a conditional that mixes numbers
- `Env.Binds.exact`: the values of what resolves, rule by rule
- `Gate.known_types_exact`: what is known of the value of an expression
-/

namespace GatedPredicate

open GatedPredicate.Syntax GatedPredicate.ValueType

/-! ## Types of bound trees -/

namespace Bound

mutual

/-- The static type of a tree, where it has one. -/
def type? : Bound → Option ValueType
  | .const v => some v.type
  | .field _ _ => some .dynamic
  | .param _ => some .dynamic
  | .array _ => some .list
  | .unary op operand => operand.type?.bind fun t => (unaryType op t).toOption
  | .binary op left right =>
    left.type?.bind fun s => right.type?.bind fun t => (binaryType op s t).toOption
  | .conditional _ onTrue onFalse =>
    onTrue.type?.bind fun s => onFalse.type?.bind fun t => (conditionalType s t).toOption
  | .index target position =>
    target.type?.bind fun s => position.type?.bind fun t => (indexType s t).toOption
  | .call _ overload args => (typeAll? args).bind overload.resultType?
  | .member _ _ candidates args =>
    (typeAll? args).bind fun types =>
      (candidates.mapM fun c : Candidate => c.overload.resultType? types).bind Env.commonType
  | .quantifier _ _ _ _ => some .bool

def typeAll? : List Bound → Option (List ValueType)
  | [] => some []
  | e :: rest => e.type?.bind fun t => (typeAll? rest).map (t :: ·)

end

/-- Whether two branches are numbers of different types. -/
def areMixed (onTrue onFalse : Bound) : Bool :=
  onTrue.type? != onFalse.type? && onTrue.type?.any isNumeric && onFalse.type?.any isNumeric

mutual

/-- Whether the value of a tree may come from a conditional that mixes numbers: as the branch that
is taken, as an operand, or as an argument of an overload whose type depends on its arguments. -/
def mixes : Bound → Bool
  | .conditional _ onTrue onFalse =>
    areMixed onTrue onFalse || onTrue.mixes || onFalse.mixes
  | .unary _ operand => operand.mixes
  | .binary _ left right => left.mixes || right.mixes
  | .call _ overload args => overload.result == .promoted && mixesAny args
  | .member _ _ candidates args =>
    candidates.any (fun c => c.overload.result == .promoted) && mixesAny args
  | _ => false

def mixesAny : List Bound → Bool
  | [] => false
  | e :: rest => e.mixes || mixesAny rest

end

end Bound

/-! ## Types that are read off -/

namespace Env

variable {env : Env}

theorem mapM_resultType? {types : List ValueType} {fs : List Fit}
    (h : ∀ f ∈ fs, f.overload.resultType? types = some f.type) :
    ((fs.map Fit.candidate).mapM fun c => c.overload.resultType? types) =
      some (fs.map Fit.type) := by
  induction fs with
  | nil => rfl
  | cons f rest ih =>
    rw [List.forall_mem_cons] at h
    simp [ih h.2, Fit.candidate, h.1]

theorem type?_of_bindStatic {callee : Callee} {ts : List Typed} {t : Typed}
    (h : bindStatic callee ts = .ok t)
    (hargs : Bound.typeAll? (ts.map Typed.tree) = some (ts.map Typed.type)) :
    t.tree.type? = some t.type := by
  obtain ⟨o, type, -, htype, rfl⟩ := bindStatic_eq_ok h
  rw [Bound.type?, hargs, Option.bind_some, htype]

theorem type?_of_bindInstance {receiver t : Typed} {name : String} {isProperty : Bool}
    {ts : List Typed} (h : env.bindInstance receiver name isProperty ts = .ok t)
    (hargs : Bound.typeAll? (ts.map Typed.tree) = some (ts.map Typed.type)) :
    t.tree.type? = some t.type := by
  obtain ⟨type, htype, rfl⟩ := bindInstance_eq_ok h
  have hresults : ∀ f ∈ env.fits receiver.type name isProperty (ts.map Typed.type),
      f.overload.resultType? (ts.map Typed.type) = some f.type := by
    intro f hf
    obtain ⟨-, -, hfit⟩ := mem_fits hf
    obtain ⟨-, -, -, -, hresult⟩ := fit?_eq_some hfit
    exact hresult
  rw [Bound.type?, hargs, Option.bind_some, mapM_resultType? hresults, Option.bind_some, htype]

mutual

/-- The type that is found with a tree is the one that is read off the tree. -/
theorem Binds.type? {scope : Scope} {next after : Nat} {e : Expr Mark} {t : Typed}
    (h : env.Binds scope next e t after) : t.tree.type? = some t.type := by
  match h with
  | .literal _ | .param _ | .imported _ _ _ _ | .field _ _ | .constant _ _ _ _
  | .quantifier _ _ _ _ _ _ _ | .array _ => rfl
  | .property _ _ _ ht => exact type?_of_bindInstance ht rfl
  | .importedCall _ _ _ hargs ht => exact type?_of_bindStatic ht hargs.typeAll?
  | .moduleCall _ _ _ hargs ht => exact type?_of_bindStatic ht hargs.typeAll?
  | .method _ _ _ hargs ht => exact type?_of_bindInstance ht hargs.typeAll?
  | .index ht hp htype =>
    rw [Bound.type?, ht.type?, hp.type?, Option.bind_some, Option.bind_some, htype]
    rfl
  | .unary ht htype =>
    rw [Bound.type?, ht.type?, Option.bind_some, htype]
    rfl
  | .binary hl hr htype =>
    rw [Bound.type?, hl.type?, hr.type?, Option.bind_some, Option.bind_some, htype]
    rfl
  | .conditional _ _ hTrue hFalse htype =>
    rw [Bound.type?, hTrue.type?, hFalse.type?, Option.bind_some, Option.bind_some, htype]
    rfl

theorem BindsAll.typeAll? {scope : Scope} {next after : Nat} {es : List (Expr Mark)}
    {ts : List Typed} (h : env.BindsAll scope next es ts after) :
    Bound.typeAll? (ts.map Typed.tree) = some (ts.map Typed.type) := by
  match h with
  | .nil => rfl
  | .cons hhead hrest =>
    rw [List.map_cons, Bound.typeAll?, hhead.type?, Option.bind_some, hrest.typeAll?]
    rfl

end

end Env

/-! ## Calls and members -/

variable {env : Env} {a : Activation}

/-- The arguments of a call have values of just their types. -/
def ArgsExact (a : Activation) (ts : List Typed) : Prop :=
  ∀ args, Bound.evalAll a (ts.map Typed.tree) = .ok args →
    List.Forall₂ ValueType.Exact (ts.map Typed.type) args

theorem ArgsExact.nil : ArgsExact a [] := by
  intro args hargs
  obtain rfl := Except.ok.inj hargs
  exact .nil

theorem ArgsExact.gives {ts : List Typed} (h : ArgsExact a ts) : ArgsGive a ts :=
  fun args hargs => (h args hargs).imp fun _ _ => Exact.admits

theorem bindStatic_exact {name : String} {f : Function} {ts : List Typed} {t : Typed} {v : Value}
    (hexact : ∀ o ∈ f.overloads, o.Exact []) (hargs : ArgsGive a ts)
    (h : Env.bindStatic ⟨name, f.overloads⟩ ts = .ok t) (hmixes : t.tree.mixes = false)
    (hall : Bound.mixesAny (ts.map Typed.tree) = false → ArgsExact a ts)
    (hv : t.tree.eval a = .ok v) : t.type.Exact v := by
  obtain ⟨o, args, hrun⟩ := bindStatic_eval h hv
  -- the arguments count only where the type of the result depends on them
  have hpromoted : o.result = .promoted →
      List.Forall₂ ValueType.Exact (ts.map Typed.type) args := by
    intro hresult
    rw [hrun.tree, Bound.mixes, hresult] at hmixes
    exact hall hmixes args hrun.values
  exact hexact o hrun.overload _ args t.type hrun.arity (hargs args hrun.values) hpromoted hrun.type
    v hrun.result

theorem exact_of_commonType {types : List ValueType} {s t : ValueType} {v : Value}
    (h : Env.commonType types = some t) (hs : s ∈ types) (hv : s.Exact v) : t.Exact v := by
  by_cases ht : t = .dynamic
  · exact .inl ht
  · exact eq_of_commonType h ht hs ▸ hv

theorem bindInstance_exact {receiver t : Typed} {name : String} {isProperty : Bool}
    {ts : List Typed} {v : Value} (hexact : env.policy.registry.Exact) (hargs : ArgsGive a ts)
    (h : env.bindInstance receiver name isProperty ts = .ok t) (hmixes : t.tree.mixes = false)
    (hall : Bound.mixesAny (ts.map Typed.tree) = false → ArgsExact a ts)
    (hv : t.tree.eval a = .ok v) : t.type.Exact v := by
  obtain ⟨f, r, args, hrun⟩ := bindInstance_eval h hv
  obtain ⟨types, hmem, hcommon⟩ := hrun.common
  obtain ⟨_, candidates, hcandidate, htree⟩ := hrun.tree
  have hpromoted : f.overload.result = .promoted →
      List.Forall₂ ValueType.Exact (ts.map Typed.type) args := by
    intro hpromoted
    have hany : (f.candidate.overload.result == .promoted) = true := by
      simp [Env.Fit.candidate, hpromoted]
    rw [htree, Bound.mixes, List.any_eq_true.2 ⟨f.candidate, hcandidate, hany⟩] at hmixes
    exact hall hmixes args hrun.values
  have hmember := hexact.members f.member hrun.member f.overload hrun.overload r hrun.accepts
  have hv : f.type.Exact v := hmember _ args f.type hrun.arity (hargs args hrun.values) hpromoted
    hrun.type v hrun.result
  exact exact_of_commonType hcommon hmem hv

/-! ## Conditionals -/

/-- The types of two branches with a common type are equal or those of different numbers, unless
one of them leaves the choice to the other or nothing is known of it. -/
theorem conditionalType_cases {s t type : ValueType} (h : conditionalType s t = .ok type) :
    type = .dynamic ∨ ((s = type ∨ s = .null) ∧ (t = type ∨ t = .null)) ∨
      (s ≠ t ∧ s.isNumeric = true ∧ t.isNumeric = true) := by
  cases s <;> cases t <;> cases h <;> decide

theorem exact_of_branch {s t : ValueType} {v : Value} (hs : s = t ∨ s = .null) (hv : s.Exact v) :
    t.Exact v := by
  rcases hs with rfl | rfl
  · exact hv
  · -- the only value of type `null` is null, which every type has
    rcases hv with hdynamic | hnull | hnull
    · cases hdynamic
    · exact .inr (.inl hnull)
    · exact .inr (.inl hnull)

/-- Branches of the same type hand their values on with that type. -/
theorem conditional_exact {c p q : Typed} {type : ValueType} {v : Value}
    (htype : conditionalType p.type q.type = .ok type) (hp : p.tree.type? = some p.type)
    (hq : q.tree.type? = some q.type)
    (hmixed : Bound.areMixed p.tree q.tree = false)
    (honTrue : ∀ v, p.tree.eval a = .ok v → p.type.Exact v)
    (honFalse : ∀ v, q.tree.eval a = .ok v → q.type.Exact v)
    (hv : Bound.eval a (.conditional c.tree p.tree q.tree) = .ok v) : type.Exact v := by
  rcases conditionalType_cases htype with hdynamic | ⟨hleft, hright⟩ | ⟨hne, hs, ht⟩
  · exact .inl hdynamic
  · rw [Bound.eval] at hv
    obtain ⟨_, -, hv⟩ := except_seq_eq_ok.1 hv
    obtain ⟨b, -, hv⟩ := except_seq_eq_ok.1 hv
    split at hv
    · exact exact_of_branch hleft (honTrue v hv)
    · exact exact_of_branch hright (honFalse v hv)
  · -- different numbers are a mixture, which there is none of
    simp [Bound.areMixed, hp, hq, hs, ht, hne] at hmixed

/-! ## Operators -/

theorem unary_exact {op : UnaryOp} {t : Typed} {type : ValueType} {v : Value}
    (htype : unaryType op t.type = .ok type)
    (ht : ∀ v, t.tree.eval a = .ok v → t.type.Exact v) (hadmits : type.Admits v)
    (hv : Bound.eval a (.unary op t.tree) = .ok v) : type.Exact v := by
  cases op with
  | not =>
    simp only [unaryType] at htype
    split at htype
    · obtain rfl := Except.ok.inj htype
      exact hadmits.exact rfl
    · cases htype
  | neg =>
    rw [Bound.eval] at hv
    obtain ⟨x, hx, hv⟩ := except_seq_eq_ok.1 hv
    exact negate_exact htype (ht x hx) hv

theorem binary_exact {op : BinaryOp} {l r : Typed} {type : ValueType} {v : Value}
    (htype : binaryType op l.type r.type = .ok type)
    (hl : ∀ v, l.tree.eval a = .ok v → l.type.Exact v)
    (hr : ∀ v, r.tree.eval a = .ok v → r.type.Exact v) (hadmits : type.Admits v)
    (hv : Bound.eval a (.binary op l.tree r.tree) = .ok v) : type.Exact v := by
  by_cases hlazy : op = .and ∨ op = .or
  · obtain rfl := binaryType_lazy hlazy htype
    exact hadmits.exact rfl
  · rw [not_or] at hlazy
    rw [eval_binary hlazy.1 hlazy.2] at hv
    obtain ⟨x, hx, hv⟩ := except_seq_eq_ok.1 hv
    obtain ⟨y, hy, hv⟩ := except_seq_eq_ok.1 hv
    exact applyBinary_exact hlazy.1 hlazy.2 htype (hl x hx) (hr y hy) hv

/-- What is found at an index is no number, as far as its type is known. -/
theorem isFractional_of_indexType {s t type : ValueType} (h : indexType s t = .ok type) :
    type.isFractional = false := by
  cases s <;> cases t <;> cases h <;> rfl

/-! ## Trees -/

namespace Env

open GatedPredicate.Bound

mutual

/-- What resolves to a tree without mixtures gives null and values of just its type. -/
theorem Binds.exact (hhonest : env.policy.registry.Honest) (hexact : env.policy.registry.Exact)
    {scope : Scope} {next after : Nat} {e : Expr Mark} {t : Typed}
    (h : env.Binds scope next e t after) (a : Activation) (hmixes : t.tree.mixes = false)
    (v : Value) (hv : t.tree.eval a = .ok v) : t.type.Exact v := by
  have hadmits : t.type.Admits v := h.gives hhonest a v hv
  match h with
  | .literal _ | .imported _ _ _ _ | .constant _ _ _ _ =>
    obtain rfl := Except.ok.inj hv
    exact exact_type
  | .param _ | .field _ _ => exact .dynamic
  | .quantifier _ _ _ _ _ _ _ | .array _ => exact hadmits.exact rfl
  -- a property takes no arguments, so there is nothing that could be mixed
  | .property _ _ _ ht =>
    exact bindInstance_exact hexact ArgsExact.nil.gives ht hmixes (fun _ => .nil) hv
  | .importedCall _ hf _ hargs ht =>
    obtain ⟨hmodule, hfunction⟩ := Registry.importedFunction?_eq_some hf
    exact bindStatic_exact (hexact.functions _ hmodule _ _ hfunction) (hargs.gives hhonest a) ht
      hmixes (BindsAll.exact hhonest hexact hargs a) hv
  | .moduleCall hmodule _ hf hargs ht =>
    exact bindStatic_exact (hexact.functions _ (mem_of_moduleFor? hmodule) _ _ hf)
      (hargs.gives hhonest a) ht hmixes (BindsAll.exact hhonest hexact hargs a) hv
  | .method _ _ _ hargs ht =>
    exact bindInstance_exact hexact (hargs.gives hhonest a) ht hmixes
      (BindsAll.exact hhonest hexact hargs a) hv
  | .index _ _ htype => exact hadmits.exact (isFractional_of_indexType htype)
  | .unary ht htype => exact unary_exact htype (Binds.exact hhonest hexact ht a hmixes) hadmits hv
  | .binary hl hr htype =>
    rw [mixes, Bool.or_eq_false_iff] at hmixes
    have hleft := Binds.exact hhonest hexact hl a hmixes.1
    have hright := Binds.exact hhonest hexact hr a hmixes.2
    exact binary_exact htype hleft hright hadmits hv
  | .conditional _ _ hTrue hFalse htype =>
    simp only [mixes, Bool.or_eq_false_iff] at hmixes
    obtain ⟨⟨hmixed, hleft⟩, hright⟩ := hmixes
    exact conditional_exact htype hTrue.type? hFalse.type? hmixed
      (Binds.exact hhonest hexact hTrue a hleft) (Binds.exact hhonest hexact hFalse a hright) hv

theorem BindsAll.exact (hhonest : env.policy.registry.Honest)
    (hexact : env.policy.registry.Exact) {scope : Scope} {next after : Nat}
    {es : List (Expr Mark)} {ts : List Typed} (h : env.BindsAll scope next es ts after)
    (a : Activation) (hmixes : mixesAny (ts.map Typed.tree) = false) : ArgsExact a ts := by
  match h with
  | .nil =>
    intro args hargs
    obtain rfl := Except.ok.inj hargs
    exact .nil
  | .cons hhead hrest =>
    intro args hargs
    rw [List.map_cons, mixesAny, Bool.or_eq_false_iff] at hmixes
    rw [List.map_cons, evalAll] at hargs
    obtain ⟨v, hv, hargs⟩ := except_seq_eq_ok.1 hargs
    obtain ⟨vs, hvs, hargs⟩ := except_seq_eq_ok.1 hargs
    obtain rfl := Except.ok.inj hargs
    exact .cons (Binds.exact hhonest hexact hhead a hmixes.1 v hv)
      (BindsAll.exact hhonest hexact hrest a hmixes.2 vs hvs)

end

end Env

/-! ## Whole expressions -/

/-- Over the standard catalog, a value of an expression of known type is null or of just that type,
except that a conditional with branches of different types of numbers may give the value of a branch
as it is. Then the static type is `float` or `decimal`, and the value is a number all the same. -/
theorem Gate.known_types_exact (g : Gate) (hstandard : g.policy.registry = .standard)
    (e : Expr Mark) (t : Typed) (hbind : g.env.bind e = .ok t) (hknown : t.type ≠ .dynamic)
    (a : Activation) (v : Value) (hv : t.tree.eval a = .ok v) (hnull : v ≠ .null) :
    v.type = t.type ∨
      ((t.type = .float ∨ t.type = .decimal) ∧ v.type.isNumeric = true ∧
        t.tree.mixes = true) := by
  have hhonest : g.policy.registry.Honest := hstandard ▸ Registry.standard_honest
  have hexact : g.policy.registry.Exact := hstandard ▸ Registry.standard_exact
  obtain ⟨after, hbinds⟩ := Env.binds_of_bind hbind
  have htype : v.type ≠ .null := fun h => hnull (by cases v <;> first | rfl | cases h)
  have hadmits : t.type.Admits v := hbinds.gives hhonest a v hv
  rcases hadmits with hdynamic | h | hsame | hrest
  · exact absurd hdynamic hknown
  · exact absurd h htype
  · exact .inl hsame
  -- a number of another kind, for which there must be a mixture
  · by_cases hmixes : t.tree.mixes = true
    · refine .inr ?_
      rcases hrest with ⟨hfloat, hnumeric⟩ | ⟨hdecimal, hint | huint⟩
      · exact ⟨.inl hfloat, hnumeric, hmixes⟩
      · exact ⟨.inr hdecimal, hint ▸ rfl, hmixes⟩
      · exact ⟨.inr hdecimal, huint ▸ rfl, hmixes⟩
    · rw [Bool.not_eq_true] at hmixes
      rcases hbinds.exact hhonest hexact a hmixes v hv with h | h | h
      · exact absurd h hknown
      · exact absurd h htype
      · exact .inl h

/-- `-(true ? 1.5m : null)` is of type `decimal`, has no branches to mix and gives a decimal. -/
theorem Gate.known_types_exact_decimal :
    let e : Expr Mark := .unary ⟨5, 0, 22⟩ .neg (.conditional ⟨4, 2, 21⟩
      (.literal ⟨1, 2, 6⟩ (.bool true)) (.literal ⟨2, 9, 13⟩ (.decimal "1.5"))
      (.literal ⟨3, 16, 20⟩ .null))
    let d : Decimal := ⟨false, 15, 1, by decide, by decide⟩
    let bound : Bound := .unary .neg (.conditional (.const (.bool true)) (.const (.decimal d))
      (.const .null))
    Gate.standard.policy.registry = .standard ∧
      Gate.standard.env.bind e = .ok ⟨bound, .decimal⟩ ∧ bound.mixes = false ∧
      ∀ a : Activation, bound.eval a = .ok (.decimal d.negate) ∧
        (Value.decimal d.negate).type = .decimal := by
  intro e d bound
  have hbind : Gate.standard.env.bind e = .ok ⟨bound, .decimal⟩ := by rfl
  have hmixes : bound.mixes = false := by rfl
  refine ⟨rfl, hbind, hmixes, fun a => ?_⟩
  have heval : bound.eval a = .ok (.decimal d.negate) := by rfl
  rcases Gate.known_types_exact .standard rfl e _ hbind nofun a _ heval nofun with h | ⟨-, -, h⟩
  · exact ⟨heval, h⟩
  · rw [hmixes] at h
    cases h

/-- A conditional of type `decimal` that gives a signed integer over all bags. -/
theorem Gate.conditional_without_promotion :
    ∃ e t, Gate.standard.parse "true ? 1 : 2.5m" = .ok e ∧ Gate.standard.env.bind e = .ok t ∧
      t.type = .decimal ∧ ∀ a : Activation, t.tree.eval a = .ok (.int 1) := by
  let ls : List Lexeme := [⟨.literal (.bool true), ⟨0, 4⟩⟩, ⟨.symbol .question, ⟨5, 6⟩⟩,
    ⟨.literal (.int 1), ⟨7, 8⟩⟩, ⟨.symbol .colon, ⟨9, 10⟩⟩,
    ⟨.literal (.decimal "2.5"), ⟨11, 15⟩⟩]
  let tree : Expr Mark := .conditional ⟨4, 0, 15⟩ (.literal ⟨1, 0, 4⟩ (.bool true))
    (.literal ⟨2, 7, 8⟩ (.int 1)) (.literal ⟨3, 11, 15⟩ (.decimal "2.5"))
  have hlex : lex "true ? 1 : 2.5m" = .ok ls := by decide +kernel
  have hparse : parseLexemes 64 ls = .complete tree :=
    (parseLexemes_of_parseNested rfl rfl).trans rfl
  have hparsed : Gate.standard.parse "true ? 1 : 2.5m" = .ok tree := by
    change (Syntax.parse 64 "true ? 1 : 2.5m").toExcept = .ok tree
    simp only [Syntax.parse, hlex, hparse, Parsed.toExcept]
  exact ⟨tree, _, hparsed, rfl, rfl, fun _ => rfl⟩

end GatedPredicate
