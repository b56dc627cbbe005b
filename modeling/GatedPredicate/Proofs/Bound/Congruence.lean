import GatedPredicate.Proofs.Bound.Binds

/-!
# What resolution asks a policy

Resolution reads the registry of a policy and asks whether the namespaces of registered modules
and members are allowed, and that of the sequences. It asks nothing else, so two policies that
agree on this much resolve every tree alike, errors included.

- `Policy.Alike`: two policies that answer alike
- `Env.bindTree_congr`, `Env.bindAll_congr`: trees and lists of trees, at any slot
- `Env.bind_congr`: whole trees
-/

namespace GatedPredicate

open GatedPredicate.Syntax

/-- Two policies with one registry that answer alike about the namespaces in it. -/
structure Policy.Alike (p q : Policy) : Prop where
  registry : q.registry = p.registry
  modules : ∀ m ∈ p.registry.modules, q.isAllowed m.tag = p.isAllowed m.tag
  members : ∀ m ∈ p.registry.allMembers, q.isAllowed m.module = p.isAllowed m.module
  sequences : q.isAllowed Catalog.sequenceTag = p.isAllowed Catalog.sequenceTag

namespace Env

variable {p q : Policy} {schema : Schema} {strict : Bool} {scope : Scope} {next : Nat}

/-! ## Lookups -/

theorem requireModule_congr (h : p.Alike q) {m : Module} (hm : m ∈ p.registry.modules) :
    requireModule ⟨schema, q, strict⟩ m = requireModule ⟨schema, p, strict⟩ m := by
  unfold requireModule
  rw [h.modules m hm]

theorem bindName_congr (h : p.Alike q) (name : String) :
    bindName ⟨schema, q, strict⟩ scope name = bindName ⟨schema, p, strict⟩ scope name := by
  unfold bindName
  simp only [h.registry]
  cases hconst : p.registry.importedConstant? name with
  | none => rfl
  | some found =>
    obtain ⟨m, v⟩ := found
    have hm : m ∈ p.registry.modules := (Registry.importedConstant?_eq_some hconst).1
    simp only [requireModule_congr h hm]

theorem moduleFor?_congr (h : p.Alike q) (target : Expr Mark) :
    moduleFor? ⟨schema, q, strict⟩ scope target = moduleFor? ⟨schema, p, strict⟩ scope target := by
  unfold moduleFor?
  simp only [h.registry]

theorem bindConstant_congr (h : p.Alike q) {m : Module} (hm : m ∈ p.registry.modules)
    (name : String) :
    bindConstant ⟨schema, q, strict⟩ m name = bindConstant ⟨schema, p, strict⟩ m name := by
  unfold bindConstant
  rw [requireModule_congr h hm]

theorem importedCallee_congr (h : p.Alike q) (name : String) :
    importedCallee ⟨schema, q, strict⟩ scope name =
      importedCallee ⟨schema, p, strict⟩ scope name := by
  unfold importedCallee
  simp only [h.registry]
  cases hfunction : p.registry.importedFunction? name with
  | none => rfl
  | some found =>
    obtain ⟨m, f⟩ := found
    have hm : m ∈ p.registry.modules := (Registry.importedFunction?_eq_some hfunction).1
    simp only [requireModule_congr h hm]

theorem moduleCallee_congr (h : p.Alike q) {m : Module} (hm : m ∈ p.registry.modules)
    (name : String) :
    moduleCallee ⟨schema, q, strict⟩ m name = moduleCallee ⟨schema, p, strict⟩ m name := by
  unfold moduleCallee
  rw [requireModule_congr h hm]

theorem requireSequences_congr (h : p.Alike q) (kind : Quantifier) :
    requireSequences ⟨schema, q, strict⟩ kind = requireSequences ⟨schema, p, strict⟩ kind := by
  unfold requireSequences
  rw [h.sequences]

/-- The members that fit are registered ones, so both policies let the same of them pass. -/
theorem bindInstance_congr (h : p.Alike q) (receiver : Typed) (name : String)
    (isProperty : Bool) (args : List Typed) :
    bindInstance ⟨schema, q, strict⟩ receiver name isProperty args =
      bindInstance ⟨schema, p, strict⟩ receiver name isProperty args := by
  have hfits : ∀ f ∈ (p.registry.members name).filterMap
      (fit? receiver.type isProperty (args.map Typed.type)),
      q.isAllowed f.member.module = p.isAllowed f.member.module := by
    intro f hf
    obtain ⟨m, hm, hfit⟩ := List.mem_filterMap.1 hf
    obtain ⟨rfl, -⟩ := fit?_eq_some hfit
    exact h.members f.member (List.mem_filter.1 hm).1
  unfold bindInstance
  simp only [h.registry]
  rw [List.filter_congr hfits, List.filter_congr fun f hf => congrArg not (hfits f hf)]

/-! ## Trees -/

mutual

/-- A tree resolves alike under policies that answer alike. -/
theorem bindTree_congr (h : p.Alike q) (e : Expr Mark) (scope : Scope) (next : Nat) :
    bindTree ⟨schema, q, strict⟩ scope next e = bindTree ⟨schema, p, strict⟩ scope next e := by
  match e with
  | .literal .. | .lambda .. | .typeOf .. => rfl
  | .ident _ name => simp only [bindTree, bindName_congr h]
  | .member _ target name =>
    -- the bag that a target stands for is a matter of the schema alone
    have hbags : bagFor? ⟨schema, q, strict⟩ scope target =
      bagFor? ⟨schema, p, strict⟩ scope target := rfl
    rw [bindTree, bindTree, moduleFor?_congr h, hbags]
    cases bagFor? ⟨schema, p, strict⟩ scope target with
    | some bag => rfl
    | none =>
      cases hmodule : moduleFor? ⟨schema, p, strict⟩ scope target with
      | some m =>
        have hm : m ∈ p.registry.modules := mem_of_moduleFor? hmodule
        simp only [bindConstant_congr h hm]
      | none => simp only [bindTree_congr h target, bindInstance_congr h]
  | .call _ (.ident _ name) args =>
    simp only [bindTree, importedCallee_congr h, bindAll_congr h args]
  | .call _ (.member _ target name) args =>
    cases hmodule : moduleFor? ⟨schema, p, strict⟩ scope target with
    | some m =>
      have hmodule' : moduleFor? ⟨schema, q, strict⟩ scope target = some m :=
        (moduleFor?_congr h target).trans hmodule
      have hm : m ∈ p.registry.modules := mem_of_moduleFor? hmodule
      rw [bindTree_moduleCall hmodule, bindTree_moduleCall hmodule']
      simp only [moduleCallee_congr h hm, bindAll_congr h args]
    | none =>
      have hmodule' : moduleFor? ⟨schema, q, strict⟩ scope target = none :=
        (moduleFor?_congr h target).trans hmodule
      cases hquantifier : quantifier? name args with
      | some found =>
        obtain ⟨kind, param, body⟩ := found
        obtain ⟨hkind, j, rfl⟩ := quantifier?_eq_some hquantifier
        rw [bindTree_quantifier hmodule hkind, bindTree_quantifier hmodule' hkind]
        simp only [requireSequences_congr h, bindTree_congr h target, bindTree_congr h body]
      | none =>
        rw [bindTree_method hmodule hquantifier, bindTree_method hmodule' hquantifier]
        simp only [bindTree_congr h target, bindAll_congr h args, bindInstance_congr h]
  -- nothing else can be called
  | .call _ (.literal ..) _ | .call _ (.call ..) _ | .call _ (.index ..) _
  | .call _ (.unary ..) _ | .call _ (.binary ..) _ | .call _ (.conditional ..) _
  | .call _ (.array ..) _ | .call _ (.lambda ..) _ | .call _ (.typeOf ..) _ => rfl
  | .index _ target position =>
    simp only [bindTree, bindTree_congr h target, bindTree_congr h position]
  | .unary _ _ operand => simp only [bindTree, bindTree_congr h operand]
  | .binary _ _ left right =>
    simp only [bindTree, bindTree_congr h left, bindTree_congr h right]
  | .conditional _ cond onTrue onFalse =>
    simp only [bindTree, bindTree_congr h cond, bindTree_congr h onTrue, bindTree_congr h onFalse]
  | .array _ items => simp only [bindTree, bindAll_congr h items]

/-- A list of trees resolves alike under policies that answer alike. -/
theorem bindAll_congr (h : p.Alike q) (es : List (Expr Mark)) (scope : Scope) (next : Nat) :
    bindAll ⟨schema, q, strict⟩ scope next es = bindAll ⟨schema, p, strict⟩ scope next es := by
  match es with
  | [] => rfl
  | e :: rest => simp only [bindAll, bindTree_congr h e, bindAll_congr h rest]

end

/-- A whole tree resolves alike under policies that answer alike. -/
theorem bind_congr (h : p.Alike q) (e : Expr Mark) :
    bind ⟨schema, q, strict⟩ e = bind ⟨schema, p, strict⟩ e := by
  rw [bind, bind, bindTree_congr h]

end Env

end GatedPredicate
