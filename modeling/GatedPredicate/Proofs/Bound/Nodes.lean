import GatedPredicate.Proofs.Bound.Agreement
import Mathlib.Data.List.Intervals

/-!
# The nodes of bound trees

A quantifier owns the slot that its elements are bound to, and a parameter stands for the element
of the quantifier that owns its slot. So it matters which quantifiers enclose a node: `nodesUnder`
lists the nodes of a tree, each with the slots that are bound where it stands.

- `Bound.nodesUnder`, `Bound.nodes`, `Bound.slots`
- `Bound.WellFormed`: slots are owned once, parameters stand below their owners, and calls and
  members pass as many arguments as their overloads take
- `Env.bind_wellFormed`: what is resolved is well-formed
-/

namespace GatedPredicate

open GatedPredicate.Syntax

namespace Bound

mutual

/-- The nodes of a tree, each with the slots that are bound where it stands: those of the
quantifiers in whose bodies it stands, innermost first, and then those in `scope`. A node comes
after those below it, but a quantifier comes before its body. -/
def nodesUnder (scope : List Nat) : Bound → List (List Nat × Bound)
  | .const v => [(scope, .const v)]
  | .field bag name => [(scope, .field bag name)]
  | .param slot => [(scope, .param slot)]
  | .array items => nodesAllUnder scope items ++ [(scope, .array items)]
  | .unary op operand => nodesUnder scope operand ++ [(scope, .unary op operand)]
  | .binary op left right =>
    nodesUnder scope left ++ (nodesUnder scope right ++ [(scope, .binary op left right)])
  | .conditional cond onTrue onFalse =>
    nodesUnder scope cond ++ (nodesUnder scope onTrue ++
      (nodesUnder scope onFalse ++ [(scope, .conditional cond onTrue onFalse)]))
  | .index target position =>
    nodesUnder scope target ++ (nodesUnder scope position ++ [(scope, .index target position)])
  | .call name overload args =>
    nodesAllUnder scope args ++ [(scope, .call name overload args)]
  | .member name receiver candidates args =>
    nodesUnder scope receiver ++
      (nodesAllUnder scope args ++ [(scope, .member name receiver candidates args)])
  | .quantifier kind receiver slot body =>
    nodesUnder scope receiver ++
      (scope, .quantifier kind receiver slot body) :: nodesUnder (slot :: scope) body

/-- The nodes of all trees of a list. -/
def nodesAllUnder (scope : List Nat) : List Bound → List (List Nat × Bound)
  | [] => []
  | b :: rest => nodesUnder scope b ++ nodesAllUnder scope rest

end

/-- The nodes of a tree that stands alone. -/
def nodes (b : Bound) : List Bound :=
  (b.nodesUnder []).map Prod.snd

/-- The slot that a node owns. -/
def ownSlot? : Bound → Option Nat
  | .quantifier _ _ slot _ => some slot
  | _ => none

/-- The slots that the quantifiers among some nodes own. -/
def slotsOf (nodes : List (List Nat × Bound)) : List Nat :=
  nodes.filterMap fun n => n.2.ownSlot?

/-- The slots that the quantifiers of a tree own. -/
def slots (b : Bound) : List Nat :=
  slotsOf (b.nodesUnder [])

/-- What evaluation relies on. -/
structure WellFormed (b : Bound) : Prop where
  /-- No two quantifiers own the same slot. -/
  slots_nodup : b.slots.Nodup
  /-- A parameter stands in the body of the quantifier that owns its slot. -/
  params_enclosed : ∀ scope slot, (scope, .param slot) ∈ b.nodesUnder [] → slot ∈ scope
  calls_counted : ∀ name overload args, .call name overload args ∈ b.nodes →
    args.length = overload.arity
  /-- The receiver comes on top of the arguments that are counted. -/
  members_counted : ∀ name receiver candidates args,
    .member name receiver candidates args ∈ b.nodes →
      ∀ c ∈ candidates, args.length = c.overload.arity

@[simp]
theorem slotsOf_nil : slotsOf [] = [] := rfl

@[simp]
theorem slotsOf_append (ms ns : List (List Nat × Bound)) :
    slotsOf (ms ++ ns) = slotsOf ms ++ slotsOf ns :=
  List.filterMap_append

@[simp]
theorem slotsOf_cons (scope : List Nat) (b : Bound) (rest : List (List Nat × Bound)) :
    slotsOf ((scope, b) :: rest) = b.ownSlot?.toList ++ slotsOf rest := by
  unfold slotsOf
  cases h : b.ownSlot? with
  | none => simp [h]
  | some slot => simp [h]

end Bound

/-! ## Slots -/

namespace Env

open GatedPredicate.Bound

section Slots

variable {callee : Callee} {receiver t : Typed} {ts : List Typed}

theorem bindStatic_slots (h : bindStatic callee ts = .ok t) (slots : List Nat) :
    slotsOf (t.tree.nodesUnder slots) = slotsOf (nodesAllUnder slots (ts.map Typed.tree)) := by
  obtain ⟨o, type, -, -, rfl⟩ := bindStatic_eq_ok h
  simp [nodesUnder, ownSlot?]

theorem bindInstance_slots {env : Env} {name : String} {isProperty : Bool}
    (h : env.bindInstance receiver name isProperty ts = .ok t) (slots : List Nat) :
    slotsOf (t.tree.nodesUnder slots) =
      slotsOf (receiver.tree.nodesUnder slots) ++
        slotsOf (nodesAllUnder slots (ts.map Typed.tree)) := by
  obtain ⟨type, -, rfl⟩ := bindInstance_eq_ok h
  simp [nodesUnder, ownSlot?]

end Slots

mutual

/-- The quantifiers of a tree own the slots that its resolution has taken, in order. -/
theorem Binds.slots_eq {env : Env} {scope : Scope} {next after : Nat} {e : Expr Mark} {t : Typed}
    (h : env.Binds scope next e t after) (slots : List Nat) :
    slotsOf (t.tree.nodesUnder slots) = List.Ico next after := by
  match h with
  | .literal _ | .param _ | .imported _ _ _ _ | .field _ _ | .constant _ _ _ _ =>
    simp [Typed.ofValue, nodesUnder, ownSlot?]
  | .property _ _ hr ht =>
    rw [bindInstance_slots ht, hr.slots_eq slots]
    simp [nodesAllUnder]
  | .importedCall _ _ _ hargs ht =>
    rw [bindStatic_slots ht, hargs.slots_eq slots]
  | .moduleCall _ _ _ hargs ht =>
    rw [bindStatic_slots ht, hargs.slots_eq slots]
  | .quantifier _ _ _ hr _ hbody _ =>
    -- the slot of the quantifier stands between those of the receiver and those of the body
    have hown := List.Ico.eq_cons (Nat.lt_of_succ_le hbody.le)
    have hjoin := List.Ico.append_consecutive hr.le (Nat.le_of_lt hbody.le)
    simp only [nodesUnder, slotsOf_append, slotsOf_cons, ownSlot?, hr.slots_eq slots,
      hbody.slots_eq]
    rw [Option.toList_some, List.singleton_append, ← hown, hjoin]
  | .method _ _ hr hargs ht =>
    rw [bindInstance_slots ht, hr.slots_eq slots, hargs.slots_eq slots]
    exact List.Ico.append_consecutive hr.le hargs.le
  | .index ht hp _ =>
    have hjoin := List.Ico.append_consecutive ht.le hp.le
    simp [nodesUnder, ownSlot?, ht.slots_eq slots, hp.slots_eq slots, hjoin]
  | .unary ht _ =>
    simp [nodesUnder, ownSlot?, ht.slots_eq slots]
  | .binary hl hr _ =>
    have hjoin := List.Ico.append_consecutive hl.le hr.le
    simp [nodesUnder, ownSlot?, hl.slots_eq slots, hr.slots_eq slots, hjoin]
  | .conditional hc _ hTrue hFalse _ =>
    have hbranches := List.Ico.append_consecutive hTrue.le hFalse.le
    have hjoin := List.Ico.append_consecutive hc.le (Nat.le_trans hTrue.le hFalse.le)
    simp [nodesUnder, ownSlot?, hc.slots_eq slots, hTrue.slots_eq slots, hFalse.slots_eq slots,
      hbranches, hjoin]
  | .array hitems =>
    simp [nodesUnder, ownSlot?, hitems.slots_eq slots]

theorem BindsAll.slots_eq {env : Env} {scope : Scope} {next after : Nat} {es : List (Expr Mark)}
    {ts : List Typed} (h : env.BindsAll scope next es ts after) (slots : List Nat) :
    slotsOf (nodesAllUnder slots (ts.map Typed.tree)) = List.Ico next after := by
  match h with
  | .nil => simp [nodesAllUnder]
  | .cons hhead hrest =>
    rw [List.map_cons, nodesAllUnder, slotsOf_append, hhead.slots_eq slots, hrest.slots_eq slots]
    exact List.Ico.append_consecutive hhead.le hrest.le

end

end Env

/-! ## Nodes -/

namespace Registry

/-- The overloads of all functions. -/
def functionOverloads (r : Registry) : List Overload :=
  r.modules.flatMap fun m => m.functions.flatMap Function.overloads

/-- The overloads of all members. -/
def memberOverloads (r : Registry) : List Overload :=
  r.allMembers.flatMap Member.overloads

theorem mem_functionOverloads {r : Registry} {m : Module} (hm : m ∈ r.modules) {name : String}
    {f : Function} (hf : m.function? name = some f) {o : Overload} (ho : o ∈ f.overloads) :
    o ∈ r.functionOverloads :=
  List.mem_flatMap.2 ⟨m, hm, List.mem_flatMap.2 ⟨f, List.mem_of_find?_eq_some hf, ho⟩⟩

theorem mem_memberOverloads {r : Registry} {m : Member} (hm : m ∈ r.allMembers) {o : Overload}
    (ho : o ∈ m.overloads) : o ∈ r.memberOverloads :=
  List.mem_flatMap.2 ⟨m, hm, ho⟩

end Registry

/-- What resolution sees to at a node that stands where `slots` are bound. -/
def Registry.Supports (r : Registry) (slots : List Nat) : Bound → Prop
  | .param slot => slot ∈ slots
  | .call _ overload args => overload ∈ r.functionOverloads ∧ args.length = overload.arity
  | .member _ _ candidates args => ∀ c ∈ candidates,
    c.overload ∈ r.memberOverloads ∧ args.length = c.overload.arity
  | _ => True

namespace Env

open GatedPredicate.Bound

/-- The slots of parameters in scope are bound. -/
theorem mem_of_slot? {scope : Scope} {name : String} {slot : Nat}
    (h : scope.slot? name = some slot) : slot ∈ scope.map Prod.snd := by
  obtain ⟨p, hp, rfl⟩ := Option.map_eq_some_iff.1 h
  exact List.mem_map_of_mem (List.mem_of_find?_eq_some hp)

section Calls

variable {env : Env} {receiver t : Typed} {ts : List Typed} {slots : List Nat}

theorem bindStatic_supported {r : Registry} {m : Module} (hm : m ∈ r.modules) {name called : String}
    {f : Function} (hf : m.function? name = some f)
    (h : bindStatic ⟨called, f.overloads⟩ ts = .ok t)
    (hargs : ∀ n ∈ nodesAllUnder slots (ts.map Typed.tree), r.Supports n.1 n.2) :
    ∀ n ∈ t.tree.nodesUnder slots, r.Supports n.1 n.2 := by
  obtain ⟨o, type, ho, -, rfl⟩ := bindStatic_eq_ok h
  obtain ⟨hmem, harity⟩ := findOverload?_eq_some ho
  rw [nodesUnder, List.forall_mem_append]
  refine ⟨hargs, List.forall_mem_singleton.2 ⟨Registry.mem_functionOverloads hm hf hmem, ?_⟩⟩
  rw [List.length_map, harity]

theorem bindInstance_supported {name : String} {isProperty : Bool}
    (h : env.bindInstance receiver name isProperty ts = .ok t)
    (hr : ∀ n ∈ receiver.tree.nodesUnder slots, env.policy.registry.Supports n.1 n.2)
    (hargs : ∀ n ∈ nodesAllUnder slots (ts.map Typed.tree),
      env.policy.registry.Supports n.1 n.2) :
    ∀ n ∈ t.tree.nodesUnder slots, env.policy.registry.Supports n.1 n.2 := by
  obtain ⟨type, -, rfl⟩ := bindInstance_eq_ok h
  rw [nodesUnder, List.forall_mem_append, List.forall_mem_append]
  refine ⟨hr, hargs, List.forall_mem_singleton.2 fun c hc => ?_⟩
  obtain ⟨f, hf, rfl⟩ := List.mem_map.1 hc
  obtain ⟨hmember, -, hfit⟩ := mem_fits hf
  obtain ⟨-, -, -, ho, -⟩ := fit?_eq_some hfit
  obtain ⟨hoverload, harity⟩ := findOverload?_eq_some ho
  have hall : f.member ∈ env.policy.registry.allMembers := (List.mem_filter.1 hmember).1
  refine ⟨Registry.mem_memberOverloads hall hoverload, ?_⟩
  rw [List.length_map] at harity ⊢
  exact harity.symm

end Calls

mutual

/-- Resolution sees to every node. -/
theorem Binds.supported {env : Env} {scope : Scope} {next after : Nat} {e : Expr Mark} {t : Typed}
    (h : env.Binds scope next e t after) :
    ∀ n ∈ t.tree.nodesUnder (scope.map Prod.snd), env.policy.registry.Supports n.1 n.2 := by
  match h with
  | .literal _ | .imported _ _ _ _ | .field _ _ | .constant _ _ _ _ =>
    exact List.forall_mem_singleton.2 trivial
  | .param hslot => exact List.forall_mem_singleton.2 (mem_of_slot? hslot)
  | .property _ _ hr ht => exact bindInstance_supported ht hr.supported nofun
  | .importedCall _ hf _ hargs ht =>
    obtain ⟨hmodule, hfunction⟩ := Registry.importedFunction?_eq_some hf
    exact bindStatic_supported hmodule hfunction ht hargs.supported
  | .moduleCall hmodule _ hf hargs ht =>
    exact bindStatic_supported (mem_of_moduleFor? hmodule) hf ht hargs.supported
  | .quantifier _ _ _ hr _ hbody _ =>
    rw [nodesUnder, List.forall_mem_append, List.forall_mem_cons]
    -- in the body the slot of the quantifier is bound as well
    exact ⟨hr.supported, trivial, hbody.supported⟩
  | .method _ _ hr hargs ht => exact bindInstance_supported ht hr.supported hargs.supported
  | .index ht hp _ =>
    simp only [nodesUnder, List.forall_mem_append, List.forall_mem_singleton]
    exact ⟨ht.supported, hp.supported, trivial⟩
  | .unary ht _ =>
    simp only [nodesUnder, List.forall_mem_append, List.forall_mem_singleton]
    exact ⟨ht.supported, trivial⟩
  | .binary hl hr _ =>
    simp only [nodesUnder, List.forall_mem_append, List.forall_mem_singleton]
    exact ⟨hl.supported, hr.supported, trivial⟩
  | .conditional hc _ hTrue hFalse _ =>
    simp only [nodesUnder, List.forall_mem_append, List.forall_mem_singleton]
    exact ⟨hc.supported, hTrue.supported, hFalse.supported, trivial⟩
  | .array hitems =>
    simp only [nodesUnder, List.forall_mem_append, List.forall_mem_singleton]
    exact ⟨hitems.supported, trivial⟩

theorem BindsAll.supported {env : Env} {scope : Scope} {next after : Nat}
    {es : List (Expr Mark)} {ts : List Typed} (h : env.BindsAll scope next es ts after) :
    ∀ n ∈ nodesAllUnder (scope.map Prod.snd) (ts.map Typed.tree),
      env.policy.registry.Supports n.1 n.2 := by
  match h with
  | .nil => exact List.forall_mem_nil _
  | .cons hhead hrest =>
    rw [List.map_cons, nodesAllUnder, List.forall_mem_append]
    exact ⟨hhead.supported, hrest.supported⟩

end

/-! ## Whole trees -/

variable {env : Env} {e : Expr Mark} {t : Typed}

/-- Resolution sees to every node of a whole tree. -/
theorem bind_supported (h : env.bind e = .ok t) :
    ∀ n ∈ t.tree.nodesUnder [], env.policy.registry.Supports n.1 n.2 := by
  obtain ⟨after, hbinds⟩ := binds_of_bind h
  exact hbinds.supported

theorem bind_wellFormed (h : env.bind e = .ok t) : t.tree.WellFormed := by
  obtain ⟨after, hbinds⟩ := binds_of_bind h
  have hnodes := bind_supported h
  constructor
  case slots_nodup =>
    have hslots : t.tree.slots = List.Ico 0 after := hbinds.slots_eq []
    rw [hslots]
    exact List.Ico.nodup 0 after
  case params_enclosed =>
    intro scope slot hslot
    exact hnodes _ hslot
  case calls_counted =>
    intro name overload args hcall
    obtain ⟨⟨scope, _⟩, hn, rfl⟩ := List.mem_map.1 hcall
    exact (hnodes _ hn).2
  case members_counted =>
    intro name receiver candidates args hmember c hc
    obtain ⟨⟨scope, _⟩, hn, rfl⟩ := List.mem_map.1 hmember
    exact (hnodes _ hn c hc).2

end Env

end GatedPredicate
