import GatedPredicate.Gate
import GatedPredicate.Proofs.Bound.Binds
import GatedPredicate.Proofs.Policy.Forbidden

/-!
# Renaming lambda parameters

The name of a lambda parameter is gone from the bound tree, where only its slot is left. So it may
be replaced by any other name that is not in use inside the lambda, whatever that name means
outside: a parameter hides bags, modules and imported constants, the old name as well as the new
one.

- `Expr.names`: what a new name must stay clear of
- `Expr.rename`: a new name for one parameter, which leaves inner parameters of the old name alone
- `Context`, `Context.plug`: a place in a tree
- `Scope.Renamed`, `Env.Binds.rename`: the body of the lambda resolves as before
- `Env.Binds.plug`: so does everything around it
- `Env.bind_renamed_parameter`: and thus every tree with the lambda in it
-/

namespace GatedPredicate

namespace Syntax

variable {α : Type}

/-! ## Names in a tree -/

mutual

/-- The identifiers and lambda parameters of a tree. Names of members are none of them. -/
def Expr.names : Expr α → List String
  | .literal _ _ | .typeOf _ _ => []
  | .ident _ name => [name]
  | .member _ target _ => target.names
  | .call _ callee args => callee.names ++ namesAll args
  | .index _ target position => target.names ++ position.names
  | .unary _ _ operand => operand.names
  | .binary _ _ left right => left.names ++ right.names
  | .conditional _ cond onTrue onFalse => cond.names ++ (onTrue.names ++ onFalse.names)
  | .array _ items => namesAll items
  | .lambda _ param body => param :: body.names

/-- The identifiers and lambda parameters of a list of trees. -/
def namesAll : List (Expr α) → List String
  | [] => []
  | e :: rest => e.names ++ namesAll rest

end

/-- The name that stands for `name` once `x` is called `y`. -/
def renamed (x y name : String) : String :=
  if name = x then y else name

mutual

/-- Replaces the identifier `x` by `y`, except where a lambda inside has a parameter `x` of its
own. -/
def Expr.rename (x y : String) : Expr α → Expr α
  | .literal m value => .literal m value
  | .typeOf m name => .typeOf m name
  | .ident m name => .ident m (renamed x y name)
  | .member m target name => .member m (target.rename x y) name
  | .call m callee args => .call m (callee.rename x y) (renameAll x y args)
  | .index m target position => .index m (target.rename x y) (position.rename x y)
  | .unary m op operand => .unary m op (operand.rename x y)
  | .binary m op left right => .binary m op (left.rename x y) (right.rename x y)
  | .conditional m cond onTrue onFalse =>
    .conditional m (cond.rename x y) (onTrue.rename x y) (onFalse.rename x y)
  | .array m items => .array m (renameAll x y items)
  | .lambda m param body => .lambda m param (if param = x then body else body.rename x y)

/-- Replaces an identifier in a list of trees. -/
def renameAll (x y : String) : List (Expr α) → List (Expr α)
  | [] => []
  | e :: rest => e.rename x y :: renameAll x y rest

end

/-! ## Places in a tree -/

/-- A tree with a hole in it. -/
inductive Context (α : Type) where
  | hole
  | inTarget (mark : α) (c : Context α) (name : String)
  | inCallee (mark : α) (c : Context α) (args : List (Expr α))
  | inArg (mark : α) (callee : Expr α) (before : List (Expr α)) (c : Context α)
      (behind : List (Expr α))
  | inIndexed (mark : α) (c : Context α) (position : Expr α)
  | inPosition (mark : α) (target : Expr α) (c : Context α)
  | inOperand (mark : α) (op : UnaryOp) (c : Context α)
  | inLeft (mark : α) (op : BinaryOp) (c : Context α) (right : Expr α)
  | inRight (mark : α) (op : BinaryOp) (left : Expr α) (c : Context α)
  | inCond (mark : α) (c : Context α) (onTrue : Expr α) (onFalse : Expr α)
  | inTrue (mark : α) (cond : Expr α) (c : Context α) (onFalse : Expr α)
  | inFalse (mark : α) (cond : Expr α) (onTrue : Expr α) (c : Context α)
  | inItem (mark : α) (before : List (Expr α)) (c : Context α) (behind : List (Expr α))
  | inBody (mark : α) (param : String) (c : Context α)

/-- The tree with `e` in the hole. -/
def Context.plug (e : Expr α) : Context α → Expr α
  | .hole => e
  | .inTarget m c name => .member m (c.plug e) name
  | .inCallee m c args => .call m (c.plug e) args
  | .inArg m callee before c behind => .call m callee (before ++ c.plug e :: behind)
  | .inIndexed m c position => .index m (c.plug e) position
  | .inPosition m target c => .index m target (c.plug e)
  | .inOperand m op c => .unary m op (c.plug e)
  | .inLeft m op c right => .binary m op (c.plug e) right
  | .inRight m op left c => .binary m op left (c.plug e)
  | .inCond m c onTrue onFalse => .conditional m (c.plug e) onTrue onFalse
  | .inTrue m cond c onFalse => .conditional m cond (c.plug e) onFalse
  | .inFalse m cond onTrue c => .conditional m cond onTrue (c.plug e)
  | .inItem m before c behind => .array m (before ++ c.plug e :: behind)
  | .inBody m param c => .lambda m param (c.plug e)

/-! ## Chains and lambdas -/

/-- Whether a tree is a lambda, which only a quantifier accepts. -/
def Expr.isLambda : Expr α → Bool
  | .lambda _ _ _ => true
  | _ => false

/-- A chain of names starts with an identifier. -/
theorem Expr.mem_names_of_dottedPath? (e : Expr α) {root : String} {rest : List String}
    (h : e.dottedPath? = some (root :: rest)) : root ∈ e.names := by
  match e with
  | .ident _ name =>
    obtain ⟨rfl, -⟩ := List.cons.inj (Option.some.inj h)
    exact List.mem_singleton_self _
  | .member _ target name =>
    obtain ⟨path, hpath, heq⟩ := Option.map_eq_some_iff.1 h
    obtain ⟨first, more, rfl⟩ := List.exists_cons_of_ne_nil (Policy.dottedPath?_ne_nil hpath)
    obtain ⟨rfl, -⟩ := List.cons.inj heq
    exact target.mem_names_of_dottedPath? hpath

/-- Renaming touches the root of a chain alone. -/
theorem Expr.dottedPath?_rename (x y : String) (e : Expr α) :
    (e.rename x y).dottedPath? = e.dottedPath?.map (List.modifyHead (renamed x y)) := by
  match e with
  | .ident _ name => rfl
  | .member _ target name =>
    rw [rename, dottedPath?, target.dottedPath?_rename x y, dottedPath?]
    cases hpath : target.dottedPath? with
    | none => rfl
    | some path =>
      obtain ⟨root, rest, rfl⟩ := List.exists_cons_of_ne_nil (Policy.dottedPath?_ne_nil hpath)
      rfl
  | .literal .. | .call .. | .index .. | .unary .. | .binary .. | .conditional .. | .array ..
  | .lambda .. | .typeOf .. => rfl

theorem Expr.isLambda_rename (x y : String) (e : Expr α) :
    (e.rename x y).isLambda = e.isLambda := by
  cases e <;> rfl

theorem isLambda_renameAll (x y : String) (es : List (Expr α)) :
    (renameAll x y es).map Expr.isLambda = es.map Expr.isLambda := by
  induction es with
  | nil => rfl
  | cons e rest ih => rw [renameAll, List.map_cons, List.map_cons, Expr.isLambda_rename, ih]

@[simp]
theorem renamed_self (x name : String) : renamed x x name = name := by
  unfold renamed
  split
  · rename_i h
    exact h.symm
  · rfl

mutual

/-- A new name that is the old one changes nothing. -/
theorem Expr.rename_self (x : String) (e : Expr α) : e.rename x x = e := by
  match e with
  | .literal .. | .typeOf .. => rfl
  | .ident _ name => rw [Expr.rename, renamed_self]
  | .member _ target name => rw [Expr.rename, target.rename_self x]
  | .call _ callee args => rw [Expr.rename, callee.rename_self x, renameAll_self x args]
  | .index _ target position => rw [Expr.rename, target.rename_self x, position.rename_self x]
  | .unary _ _ operand => rw [Expr.rename, operand.rename_self x]
  | .binary _ _ left right => rw [Expr.rename, left.rename_self x, right.rename_self x]
  | .conditional _ cond onTrue onFalse =>
    rw [Expr.rename, cond.rename_self x, onTrue.rename_self x, onFalse.rename_self x]
  | .array _ items => rw [Expr.rename, renameAll_self x items]
  | .lambda _ param body => rw [Expr.rename, body.rename_self x, ite_self]

theorem renameAll_self (x : String) (es : List (Expr α)) : renameAll x x es = es := by
  match es with
  | [] => rfl
  | e :: rest => rw [renameAll, e.rename_self x, renameAll_self x rest]

end

end Syntax

open GatedPredicate.Syntax

/-! ## Scopes -/

namespace Scope

variable {x y param : String} {names : List String} {scope scope' : Scope}

@[simp]
theorem slot?_push (param name : String) (slot : Nat) (scope : Scope) :
    slot? ((param, slot) :: scope) name = if param = name then some slot else scope.slot? name := by
  unfold slot?
  by_cases h : param = name
  · simp [h]
  · simp [beq_eq_false_iff_ne.2 h, h]

/-- Two scopes of which the second one has `y` where the first one has `x`, as far as the names of
a list can tell. A name that is not a parameter in either keeps its name. -/
structure Renamed (x y : String) (names : List String) (scope scope' : Scope) : Prop where
  slot : ∀ name ∈ names, scope'.slot? (renamed x y name) = scope.slot? name
  clear : y = x ∨ y ∉ names ∧ (scope.slot? x).isSome = true

theorem Renamed.mono {fewer : List String} (h : Renamed x y names scope scope')
    (hsub : ∀ name ∈ fewer, name ∈ names) : Renamed x y fewer scope scope' where
  slot name hname := h.slot name (hsub name hname)
  clear := h.clear.imp_right (And.imp_left fun hy hmem => hy (hsub y hmem))

/-- A lambda parameter is renamed in the body of its lambda. -/
theorem Renamed.start (h : y ∉ names) (slot : Nat) (scope : Scope) :
    Renamed x y names ((x, slot) :: scope) ((y, slot) :: scope) where
  slot name hname := by
    by_cases hx : name = x
    · simp [renamed, hx]
    · have hy : y ≠ name := fun heq => h (heq ▸ hname)
      simp [renamed, hx, hy, Ne.symm hx]
  clear := .inr ⟨h, by simp⟩

/-- A parameter of another name further inside is the same on both sides. -/
theorem Renamed.push (h : Renamed x y (param :: names) scope scope') (hparam : param ≠ x)
    (slot : Nat) : Renamed x y names ((param, slot) :: scope) ((param, slot) :: scope') where
  slot name hname := by
    have hold := h.slot name (List.mem_cons_of_mem _ hname)
    by_cases hself : param = name
    · subst hself
      simp [renamed, hparam]
    · -- the new name is none of those inside, so that the parameter does not capture it
      have hfree : param ≠ renamed x y name := by
        unfold renamed
        split
        · rename_i hx
          rcases h.clear with heq | ⟨hy, -⟩
          · rwa [heq]
          · exact fun heq => hy (heq ▸ List.mem_cons_self)
        · exact hself
      simp [hself, hfree, hold]
  clear := by
    refine h.clear.imp_right fun ⟨hy, hx⟩ => ⟨fun hmem => hy (List.mem_cons_of_mem _ hmem), ?_⟩
    simpa [hparam] using hx

/-- A parameter of the old name further inside ends the renaming. -/
theorem Renamed.hide (h : Renamed x y (x :: names) scope scope') (slot : Nat) :
    Renamed x x names ((x, slot) :: scope) ((x, slot) :: scope') where
  slot name hname := by
    rw [renamed_self, slot?_push, slot?_push]
    split
    · rfl
    · rename_i hx
      have hold := h.slot name (List.mem_cons_of_mem _ hname)
      rwa [renamed, if_neg (Ne.symm hx)] at hold
  clear := .inl rfl

/-- A name that is no parameter keeps its name. -/
theorem Renamed.renamed_eq (h : Renamed x y names scope scope') {name : String}
    (hslot : scope.slot? name = none) : renamed x y name = name := by
  unfold renamed
  split
  · rename_i hx
    subst hx
    rcases h.clear with heq | ⟨-, hbound⟩
    · exact heq
    · rw [hslot] at hbound
      cases hbound
  · rfl

theorem Renamed.slot?_eq_none (h : Renamed x y names scope scope') {name : String}
    (hname : name ∈ names) (hslot : scope.slot? name = none) : scope'.slot? name = none := by
  have hnew := h.slot name hname
  rwa [h.renamed_eq hslot, hslot] at hnew

end Scope

namespace Env

variable {env : Env} {scope scope' : Scope} {next after : Nat} {t : Typed}

/-! ## Inside the lambda -/

theorem quantifier?_eq_none {name : String} {args : List (Expr Mark)} :
    quantifier? name args = none ↔
      Quantifier.ofName? name = none ∨ args.map Expr.isLambda ≠ [true] := by
  unfold quantifier?
  split
  · rename_i hkind
    simp [hkind, Expr.isLambda]
  · rename_i hother
    refine iff_of_true rfl ?_
    cases hkind : Quantifier.ofName? name with
    | none => exact .inl rfl
    | some kind =>
      refine .inr fun hshape => ?_
      obtain ⟨e, rfl, hlambda⟩ := List.map_eq_singleton_iff.1 hshape
      cases e with
      | lambda m param body => exact hother kind m param body hkind rfl
      | _ => cases hlambda

section Lookups

variable {x y : String} {target : Expr Mark}

theorem moduleFor?_rename (h : Scope.Renamed x y target.names scope scope') :
    env.moduleFor? scope' (target.rename x y) = env.moduleFor? scope target := by
  unfold moduleFor?
  rw [Expr.dottedPath?_rename]
  cases hpath : target.dottedPath? with
  | none => rfl
  | some path =>
    obtain ⟨root, rest, rfl⟩ := List.exists_cons_of_ne_nil (Policy.dottedPath?_ne_nil hpath)
    have hroot := target.mem_names_of_dottedPath? hpath
    simp only [Option.map_some, List.modifyHead_cons, Option.bind_some, List.head?_cons]
    rw [h.slot root hroot]
    cases hslot : scope.slot? root with
    | none => rw [h.renamed_eq hslot]
    | some slot => rfl

theorem bagFor?_rename (h : Scope.Renamed x y target.names scope scope') :
    env.bagFor? scope' (target.rename x y) = env.bagFor? scope target := by
  match target with
  | .ident _ root =>
    have hroot := h.slot root (List.mem_singleton_self _)
    rw [Expr.rename, bagFor?, bagFor?, hroot]
    cases hslot : scope.slot? root with
    | none => rw [h.renamed_eq hslot]
    | some slot => rfl
  | .literal .. | .member .. | .call .. | .index .. | .unary .. | .binary .. | .conditional ..
  | .array .. | .lambda .. | .typeOf .. => rfl

end Lookups

mutual

/-- A tree resolves alike under another name of a parameter. -/
theorem Binds.rename {x y : String} {scope scope' : Scope} {next after : Nat} {e : Expr Mark}
    {t : Typed} (h : env.Binds scope next e t after)
    (hscope : Scope.Renamed x y e.names scope scope') :
    env.Binds scope' next (e.rename x y) t after := by
  match h with
  | .literal hv => exact .literal hv
  | .param hslot => exact .param ((hscope.slot _ (List.mem_singleton_self _)).trans hslot)
  | .imported hslot hbag hconst hmodule =>
    rw [Expr.rename, hscope.renamed_eq hslot]
    exact .imported (hscope.slot?_eq_none (List.mem_singleton_self _) hslot) hbag hconst hmodule
  | .field hbag hstrict =>
    refine .field ((bagFor?_rename ?_).trans hbag) hstrict
    exact hscope
  | .constant hbag hmodule hallowed hv =>
    refine .constant ((bagFor?_rename ?_).trans hbag) ((moduleFor?_rename ?_).trans hmodule)
      hallowed hv
    · exact hscope
    · exact hscope
  | .property hbag hmodule hr ht =>
    refine .property ((bagFor?_rename ?_).trans hbag) ((moduleFor?_rename ?_).trans hmodule)
      (hr.rename hscope) ht
    · exact hscope
    · exact hscope
  | .importedCall hslot hf hallowed hargs ht =>
    have hcallee := hscope.mono (List.subset_append_left _ _)
    rw [Expr.rename, Expr.rename, hscope.renamed_eq hslot]
    exact .importedCall (hcallee.slot?_eq_none (List.mem_singleton_self _) hslot) hf hallowed
      (hargs.rename (hscope.mono (List.subset_append_right _ _))) ht
  | .moduleCall hmodule hallowed hf hargs ht =>
    have htarget := hscope.mono (List.subset_append_left _ _)
    refine .moduleCall ((moduleFor?_rename ?_).trans hmodule) hallowed hf
      (hargs.rename (hscope.mono (List.subset_append_right _ _))) ht
    exact htarget
  | .quantifier hmodule hkind hsequences hr hquantifiable hbody hbool =>
    have htarget := hscope.mono (List.subset_append_left _ _)
    have hlambda : Scope.Renamed x y (_ :: _) scope scope' :=
      hscope.mono fun _ hname => List.mem_append_right _ (List.mem_append_left _ hname)
    refine .quantifier ((moduleFor?_rename ?_).trans hmodule) hkind hsequences (hr.rename htarget)
      hquantifiable ?_ hbool
    · exact htarget
    · -- the parameter of the inner lambda may have the old name, but not the new one
      split
      · rename_i hparam
        subst hparam
        have hkept := hbody.rename (hlambda.hide _)
        rwa [Expr.rename_self] at hkept
      · rename_i hparam
        exact hbody.rename (hlambda.push hparam _)
  | .method hmodule hquantifier hr hargs ht =>
    have htarget := hscope.mono (List.subset_append_left _ _)
    refine .method ((moduleFor?_rename ?_).trans hmodule) ?_ (hr.rename htarget)
      (hargs.rename (hscope.mono (List.subset_append_right _ _))) ht
    · exact htarget
    · rw [quantifier?_eq_none, isLambda_renameAll]
      exact quantifier?_eq_none.1 hquantifier
  | .index ht hp htype =>
    exact .index (ht.rename (hscope.mono (List.subset_append_left _ _)))
      (hp.rename (hscope.mono (List.subset_append_right _ _))) htype
  | .unary ht htype => exact .unary (ht.rename hscope) htype
  | .binary hl hr htype =>
    exact .binary (hl.rename (hscope.mono (List.subset_append_left _ _)))
      (hr.rename (hscope.mono (List.subset_append_right _ _))) htype
  | .conditional hc hcond ha hb htype =>
    have hbranches := hscope.mono (List.subset_append_right _ _)
    exact .conditional (hc.rename (hscope.mono (List.subset_append_left _ _))) hcond
      (ha.rename (hbranches.mono (List.subset_append_left _ _)))
      (hb.rename (hbranches.mono (List.subset_append_right _ _))) htype
  | .array hitems => exact .array (hitems.rename hscope)

/-- The trees of a list resolve alike under another name of a parameter. -/
theorem BindsAll.rename {x y : String} {scope scope' : Scope} {next after : Nat}
    {es : List (Expr Mark)} {ts : List Typed} (h : env.BindsAll scope next es ts after)
    (hscope : Scope.Renamed x y (namesAll es) scope scope') :
    env.BindsAll scope' next (renameAll x y es) ts after := by
  match h with
  | .nil => exact .nil
  | .cons ht hts =>
    exact .cons (ht.rename (hscope.mono (List.subset_append_left _ _)))
      (hts.rename (hscope.mono (List.subset_append_right _ _)))

end

/-! ## Around the lambda -/

/-- One tree of a list is replaced by another one that resolves to the same. -/
theorem BindsAll.replace {e e' : Expr Mark} {before behind : List (Expr Mark)} {ts : List Typed}
    (he : ∀ next t after, env.Binds scope next e t after → env.Binds scope next e' t after)
    (h : env.BindsAll scope next (before ++ e :: behind) ts after) :
    env.BindsAll scope next (before ++ e' :: behind) ts after := by
  induction before generalizing next ts with
  | nil =>
    cases h with
    | cons ht hts => exact .cons (he _ _ _ ht) hts
  | cons first rest ih =>
    cases h with
    | cons ht hts => exact .cons ht (ih hts)

section Plug

variable {m m' : Mark} {f f' : Expr Mark} {args args' : List (Expr Mark)}

/-- What stands around a call is no chain of names. -/
theorem dottedPath?_plug (c : Context Mark) : (c.plug (.call m f args)).dottedPath? = none := by
  induction c with
  | inTarget _ c name ih => rw [Context.plug, Expr.dottedPath?, ih, Option.map_none]
  | _ => rfl

theorem moduleFor?_plug (c : Context Mark) :
    env.moduleFor? scope (c.plug (.call m f args)) = none := by
  rw [moduleFor?, dottedPath?_plug]
  rfl

theorem bagFor?_plug (c : Context Mark) :
    env.bagFor? scope (c.plug (.call m f args)) = none := by
  cases c <;> rfl

theorem isLambda_plug (c : Context Mark) :
    (c.plug (.call m f args)).isLambda = (c.plug (.call m' f' args')).isLambda := by
  cases c <;> rfl

/-- A call is replaced, at any place of a tree, by another one that resolves to the same. -/
theorem Binds.plug
    (hcall : ∀ scope next t after, env.Binds scope next (.call m f args) t after →
      env.Binds scope next (.call m' f' args') t after)
    (c : Context Mark) {scope : Scope} {next after : Nat} {t : Typed}
    (h : env.Binds scope next (c.plug (.call m f args)) t after) :
    env.Binds scope next (c.plug (.call m' f' args')) t after := by
  match c with
  | .hole => exact hcall _ _ _ _ h
  | .inTarget _ c _ =>
    cases h with
    | field hbag _ =>
      rw [bagFor?_plug] at hbag
      cases hbag
    | constant _ hmodule _ _ =>
      rw [moduleFor?_plug] at hmodule
      cases hmodule
    | property _ _ hr ht =>
      exact .property (bagFor?_plug c) (moduleFor?_plug c) (Binds.plug hcall c hr) ht
  | .inCallee _ (.inTarget _ c _) _ =>
    cases h with
    | moduleCall hmodule _ _ _ _ =>
      rw [moduleFor?_plug] at hmodule
      cases hmodule
    | quantifier _ hkind hsequences hr hquantifiable hbody hbool =>
      exact .quantifier (moduleFor?_plug c) hkind hsequences (Binds.plug hcall c hr) hquantifiable
        hbody hbool
    | method _ hquantifier hr hargs ht =>
      exact .method (moduleFor?_plug c) hquantifier (Binds.plug hcall c hr) hargs ht
  | .inCallee _ .hole _ | .inCallee _ (.inCallee ..) _ | .inCallee _ (.inArg ..) _
  | .inCallee _ (.inIndexed ..) _ | .inCallee _ (.inPosition ..) _ | .inCallee _ (.inOperand ..) _
  | .inCallee _ (.inLeft ..) _ | .inCallee _ (.inRight ..) _ | .inCallee _ (.inCond ..) _
  | .inCallee _ (.inTrue ..) _ | .inCallee _ (.inFalse ..) _ | .inCallee _ (.inItem ..) _
  | .inCallee _ (.inBody ..) _ => cases h
  | .inArg _ callee before c behind =>
    have hlambda : (c.plug (.call m' f' args')).isLambda = (c.plug (.call m f args)).isLambda :=
      isLambda_plug c
    have hlambdas : (before ++ c.plug (.call m' f' args') :: behind).map Expr.isLambda =
        (before ++ c.plug (.call m f args) :: behind).map Expr.isLambda := by
      simp only [List.map_append, List.map_cons, hlambda]
    have hreplace {next : Nat} {ts : List Typed} {after : Nat} :
        env.BindsAll scope next (before ++ c.plug (.call m f args) :: behind) ts after →
        env.BindsAll scope next (before ++ c.plug (.call m' f' args') :: behind) ts after :=
      BindsAll.replace fun _ _ _ => Binds.plug hcall c
    rw [Context.plug] at h ⊢
    generalize hlist : before ++ c.plug (.call m f args) :: behind = list at h hlambdas hreplace
    cases h with
    | importedCall hslot hf hallowed hargs ht =>
      exact .importedCall hslot hf hallowed (hreplace hargs) ht
    | moduleCall hmodule hallowed hf hargs ht =>
      exact .moduleCall hmodule hallowed hf (hreplace hargs) ht
    | quantifier hmodule hkind hsequences hr hquantifiable hbody hbool =>
      -- the call is somewhere in the body of the lambda
      obtain ⟨rfl, hbodyAt, rfl⟩ : before = [] ∧ c.plug (.call m f args) = _ ∧ behind = [] := by
        simpa [List.append_eq_singleton_iff] using hlist
      match c with
      | .inBody _ _ c =>
        cases hbodyAt
        exact .quantifier hmodule hkind hsequences hr hquantifiable (Binds.plug hcall c hbody) hbool
    | method hmodule hquantifier hr hargs ht =>
      refine .method hmodule ?_ hr (hreplace hargs) ht
      rw [quantifier?_eq_none, hlambdas]
      exact quantifier?_eq_none.1 hquantifier
  | .inIndexed _ c _ =>
    cases h with
    | index ht hp htype => exact .index (Binds.plug hcall c ht) hp htype
  | .inPosition _ _ c =>
    cases h with
    | index ht hp htype => exact .index ht (Binds.plug hcall c hp) htype
  | .inOperand _ _ c =>
    cases h with
    | unary ht htype => exact .unary (Binds.plug hcall c ht) htype
  | .inLeft _ _ c _ =>
    cases h with
    | binary hl hr htype => exact .binary (Binds.plug hcall c hl) hr htype
  | .inRight _ _ _ c =>
    cases h with
    | binary hl hr htype => exact .binary hl (Binds.plug hcall c hr) htype
  | .inCond _ c _ _ =>
    cases h with
    | conditional hc hcond ha hb htype =>
      exact .conditional (Binds.plug hcall c hc) hcond ha hb htype
  | .inTrue _ _ c _ =>
    cases h with
    | conditional hc hcond ha hb htype =>
      exact .conditional hc hcond (Binds.plug hcall c ha) hb htype
  | .inFalse _ _ _ c =>
    cases h with
    | conditional hc hcond ha hb htype =>
      exact .conditional hc hcond ha (Binds.plug hcall c hb) htype
  | .inItem _ before c behind =>
    cases h with
    | array hitems => exact .array (hitems.replace fun _ _ _ => Binds.plug hcall c)
  | .inBody .. => cases h

end Plug

/-! ## Whole trees -/

section Whole

variable {m i j : Mark} {kind : Quantifier} {target body : Expr Mark} {param other : String}

/-- The call with the lambda resolves alike with another name for the parameter. -/
theorem Binds.rename_parameter (hother : other ∉ body.names)
    (h : env.Binds scope next (.call m (.member i target kind.name) [.lambda j param body]) t
      after) :
    env.Binds scope next
      (.call m (.member i target kind.name) [.lambda j other (body.rename param other)]) t
      after := by
  cases h with
  | quantifier hmodule hkind hsequences hr hquantifiable hbody hbool =>
    exact .quantifier hmodule hkind hsequences hr hquantifiable
      (hbody.rename (.start hother _ _)) hbool
  -- no other call accepts a lambda
  | moduleCall _ _ _ hargs _ =>
    cases hargs with
    | cons hlambda _ => cases hlambda
  | method _ _ _ hargs _ =>
    cases hargs with
    | cons hlambda _ => cases hlambda

/-- Wherever a tree that is resolved has a lambda under `All` or `Any`, its parameter may be given
any name that does not occur in the body, as an identifier or as a parameter: with the identifiers
that mean the parameter renamed, the tree resolves to the same bound tree of the same type. Neither
name needs to be clear of those of bags, modules and constants. -/
theorem bind_renamed_parameter (env : Env) (c : Context Mark) (m i j : Mark) (kind : Quantifier)
    (target body : Expr Mark) (param other : String) (hother : other ∉ body.names) (t : Typed)
    (h : env.bind (c.plug (.call m (.member i target kind.name) [.lambda j param body])) = .ok t) :
    env.bind (c.plug (.call m (.member i target kind.name)
      [.lambda j other (body.rename param other)])) = .ok t := by
  obtain ⟨after, hbinds⟩ := binds_of_bind h
  have hrenamed := hbinds.plug (fun _ _ _ _ => Binds.rename_parameter hother) c
  rw [bind, hrenamed.bindTree_eq]
  rfl

/-- In `[1].Any(item => item == 1 && [2].All(item => item == 2)) && true` the outer `item`, which is
the name of a bag, becomes `Math`, which is the name of a module. The inner `item` stays. -/
theorem bind_renamed_parameter_item :
    let name (n : String) : Expr Mark := .ident ⟨0, 0, 0⟩ n
    let int (n : Int64) : Expr Mark := .literal ⟨0, 0, 0⟩ (.int n)
    let equals (x y : Expr Mark) : Expr Mark := .binary ⟨0, 0, 0⟩ .eq x y
    let one : Expr Mark := .array ⟨0, 0, 0⟩ [int 1]
    let inner : Expr Mark := .call ⟨0, 0, 0⟩
      (.member ⟨0, 0, 0⟩ (.array ⟨0, 0, 0⟩ [int 2]) "All")
      [.lambda ⟨0, 0, 0⟩ "item" (equals (name "item") (int 2))]
    let body (outer : Expr Mark) : Expr Mark := .binary ⟨0, 0, 0⟩ .and (equals outer (int 1)) inner
    let whole (param : String) : Expr Mark := .binary ⟨0, 0, 0⟩ .and
      (.call ⟨0, 0, 0⟩ (.member ⟨0, 0, 0⟩ one "Any")
        [.lambda ⟨0, 0, 0⟩ param (body (name param))]) (.literal ⟨0, 0, 0⟩ (.bool true))
    let all : Bound := .quantifier .all (.array [.const (.int 2)]) 1
      (.binary .eq (.param 1) (.const (.int 2)))
    let any : Bound := .quantifier .any (.array [.const (.int 1)]) 0
      (.binary .and (.binary .eq (.param 0) (.const (.int 1))) all)
    let t : Typed := ⟨.binary .and any (.const (.bool true)), .bool⟩
    "Math" ∉ (body (name "item")).names ∧ Gate.standard.env.bind (whole "item") = .ok t ∧
      Gate.standard.env.bind (whole "Math") = .ok t := by
  intro name int equals one inner body whole all any t
  have hother : "Math" ∉ (body (name "item")).names := by decide
  have hbind : Gate.standard.env.bind (whole "item") = .ok t := by rfl
  let c : Context Mark := .inLeft ⟨0, 0, 0⟩ .and .hole (.literal ⟨0, 0, 0⟩ (.bool true))
  exact ⟨hother, hbind, bind_renamed_parameter _ c _ _ _ .any one (body (name "item")) "item"
    "Math" hother t hbind⟩

end Whole

end Env

end GatedPredicate
