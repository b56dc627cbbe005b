import GatedPredicate.Catalog.Registry
import GatedPredicate.Proofs.Typing.Admits
import Mathlib.Data.List.Forall2

/-!
# Overloads that keep their word

An overload declares the type of its result and computes the result by a function of which nothing
is known. It is honest if every result is one that the declared type admits; for an overload
without a fixed type, whenever the types of the arguments admit the arguments. A registry to which
only honest modules and members are added is honest, in whatever way its modules are merged.

- `Outcome.Gives`: computations that give values of a type, and how they are composed
- `Overload.Honest`, `Function.Honest`, `Module.Honest`, `Member.Honest`, `Registry.Honest`
- `Registry.Honest.addModule`, `Registry.Honest.addMember`
-/

namespace GatedPredicate

open GatedPredicate.ValueType

/-! ## Computations that give values of a type -/

/-- Whatever the computation gives, the type admits it. -/
def Outcome.Gives (x : Outcome Value) (t : ValueType) : Prop :=
  ∀ v, x = .ok v → t.Admits v

namespace Outcome.Gives

variable {α : Type} {t : ValueType}

theorem ok {v : Value} (h : t.Admits v) : Outcome.Gives (.ok v) t :=
  fun _ hv => Except.ok.inj hv ▸ h

theorem error {e : RuntimeError} : Outcome.Gives (.error e) t := nofun

theorem map {x : Outcome α} {f : α → Value} (h : ∀ a, t.Admits (f a)) :
    Outcome.Gives (x.map f) t := by
  intro v hv
  obtain ⟨a, -, rfl⟩ := except_map_eq_ok.1 hv
  exact h a

theorem bind {x : Outcome α} {f : α → Outcome Value} (h : ∀ a, Outcome.Gives (f a) t) :
    Outcome.Gives (x.bind f) t := by
  intro v hv
  obtain ⟨a, -, hv⟩ := except_bind_eq_ok.1 hv
  exact h a v hv

end Outcome.Gives

/-! ## Honesty -/

/-- Every result for arguments that stand after `front` is one that the declared type admits. -/
def Overload.Honest (o : Overload) (front : List Value) : Prop :=
  ∀ types args t, types.length = o.arity → List.Forall₂ ValueType.Admits types args →
    o.resultType? types = some t → Outcome.Gives (o.run (front ++ args)) t

/-- A function all of whose overloads are honest. -/
def Function.Honest (f : Function) : Prop :=
  ∀ o ∈ f.overloads, o.Honest []

/-- A module all of whose functions that can be found are honest. -/
def Module.Honest (m : Module) : Prop :=
  ∀ name f, m.function? name = some f → f.Honest

/-- A member that is honest for all receivers that it accepts. -/
def Member.Honest (m : Member) : Prop :=
  ∀ o ∈ m.overloads, ∀ r, m.receiver.accepts r = true → o.Honest [r]

/-- A registry all of whose modules and members are honest. -/
structure Registry.Honest (r : Registry) : Prop where
  modules : ∀ m ∈ r.modules, m.Honest
  members : ∀ m ∈ r.allMembers, m.Honest

/-! ## Registration -/

theorem Module.honest_of_functions {m : Module} (h : ∀ f ∈ m.functions, f.Honest) : m.Honest :=
  fun _ f hf => h f (List.mem_of_find?_eq_some hf)

/-- In a merged module the function of a name is that of one of its parts. -/
theorem Module.Honest.merge {m later : Module} (hm : m.Honest) (hlater : later.Honest) :
    (m.merge later).Honest := by
  intro name f hf
  rw [Module.function?, Module.merge, List.find?_append, Option.or_eq_some_iff] at hf
  rcases hf with hf | ⟨-, hf⟩
  · exact hlater name f hf
  · exact hm name f hf

theorem Registry.insertModule_honest {m : Module} {ms : List Module} (hm : m.Honest)
    (hms : ∀ n ∈ ms, n.Honest) : ∀ n ∈ Registry.insertModule m ms, n.Honest := by
  induction ms with
  | nil => simpa [Registry.insertModule] using hm
  | cons first rest ih =>
    rw [List.forall_mem_cons] at hms
    rw [Registry.insertModule]
    split
    · exact List.forall_mem_cons.2 ⟨hms.1.merge hm, hms.2⟩
    · exact List.forall_mem_cons.2 ⟨hms.1, ih hms.2⟩

namespace Registry.Honest

theorem empty : Registry.empty.Honest where
  modules := nofun
  members := nofun

theorem addModule {r : Registry} (h : r.Honest) {m : Module} (hm : m.Honest) :
    (r.addModule m).Honest where
  modules := insertModule_honest hm h.modules
  members := h.members

theorem addMember {r : Registry} (h : r.Honest) {m : Member} (hm : m.Honest) :
    (r.addMember m).Honest where
  modules := h.modules
  members n hn := by
    rcases List.mem_append.1 hn with hn | hn
    · exact h.members n hn
    · exact List.mem_singleton.1 hn ▸ hm

theorem addModules {r : Registry} (h : r.Honest) {ms : List Module} (hms : ∀ m ∈ ms, m.Honest) :
    (ms.foldl Registry.addModule r).Honest := by
  induction ms generalizing r with
  | nil => exact h
  | cons m rest ih =>
    rw [List.forall_mem_cons] at hms
    exact ih (h.addModule hms.1) hms.2

theorem addMembers {r : Registry} (h : r.Honest) {ms : List Member} (hms : ∀ m ∈ ms, m.Honest) :
    (ms.foldl Registry.addMember r).Honest := by
  induction ms generalizing r with
  | nil => exact h
  | cons m rest ih =>
    rw [List.forall_mem_cons] at hms
    exact ih (h.addMember hms.1) hms.2

end Registry.Honest

/-! ## Overloads of a fixed number of arguments -/

namespace Overload

theorem honest_of_fixed {o : Overload} {front : List Value} {t : ValueType}
    (ho : o.result = .fixed t) (h : ∀ args, Outcome.Gives (o.run (front ++ args)) t) :
    o.Honest front := by
  intro types args s _ _ hs
  unfold resultType? at hs
  rw [ho] at hs
  exact Option.some.inj hs ▸ h args

/-- Where the type of the result depends on the arguments it is their common type. -/
theorem common_of_promoted {o : Overload} {first t : ValueType} {rest : List ValueType}
    (ho : o.result = .promoted) (h : o.resultType? (first :: rest) = some t) :
    rest.foldlM ValueType.promote first = some t := by
  unfold resultType? at h
  rw [ho] at h
  dsimp only at h
  split at h
  · exact h
  · cases h

theorem gives_run1 {f : Value → Outcome Value} {t : ValueType} {args : List Value}
    (h : ∀ a ∈ args.head?, Outcome.Gives (f a) t) : Outcome.Gives (run1 f args) t := by
  unfold run1
  split
  · exact h _ rfl
  · exact .error

theorem gives_run2 {f : Value → Value → Outcome Value} {t : ValueType} {args : List Value}
    (h : ∀ a ∈ args.head?, ∀ b, Outcome.Gives (f a b) t) : Outcome.Gives (run2 f args) t := by
  unfold run2
  split
  · exact h _ rfl _
  · exact .error

theorem gives_run3 {f : Value → Value → Value → Outcome Value} {t : ValueType}
    {args : List Value} (h : ∀ a ∈ args.head?, ∀ b c, Outcome.Gives (f a b c) t) :
    Outcome.Gives (run3 f args) t := by
  unfold run3
  split
  · exact h _ rfl _ _
  · exact .error

variable {t : ValueType} {r : Value}

theorem honest_unary {f : Value → Outcome Value} (h : ∀ x, Outcome.Gives (f x) t) :
    (unary (.fixed t) f).Honest [] :=
  honest_of_fixed rfl fun _ => gives_run1 fun x _ => h x

theorem honest_binary {f : Value → Value → Outcome Value}
    (h : ∀ x y, Outcome.Gives (f x y) t) : (binary (.fixed t) f).Honest [] :=
  honest_of_fixed rfl fun _ => gives_run2 fun x _ => h x

theorem honest_ternary {f : Value → Value → Value → Outcome Value}
    (h : ∀ x y z, Outcome.Gives (f x y z) t) : (ternary (.fixed t) f).Honest [] :=
  honest_of_fixed rfl fun _ => gives_run3 fun x _ => h x

/-- A getter need keep its word for its receiver only. -/
theorem honest_getter {f : Value → Outcome Value} (h : Outcome.Gives (f r) t) :
    (getter t f).Honest [r] :=
  honest_of_fixed rfl fun _ => gives_run1 fun _ hx => Option.some.inj hx ▸ h

theorem honest_method1 {f : Value → Value → Outcome Value}
    (h : ∀ x, Outcome.Gives (f r x) t) : (method1 t f).Honest [r] :=
  honest_of_fixed rfl fun _ => gives_run2 fun _ hx => Option.some.inj hx ▸ h

theorem honest_method2 {f : Value → Value → Value → Outcome Value}
    (h : ∀ x y, Outcome.Gives (f r x y) t) : (method2 t f).Honest [r] :=
  honest_of_fixed rfl fun _ => gives_run3 fun _ hx => Option.some.inj hx ▸ h

end Overload

/-- A function with a single overload. -/
theorem Function.Honest.single {name : String} {o : Overload} (h : o.Honest []) :
    Function.Honest ⟨name, [o]⟩ :=
  fun _ ho => List.mem_singleton.1 ho ▸ h

/-- A member with a single overload. -/
theorem Member.Honest.single {name module : String} {receiver : Receiver} {isProperty : Bool}
    {o : Overload} (h : ∀ r, receiver.accepts r = true → o.Honest [r]) :
    Member.Honest ⟨name, module, receiver, isProperty, [o]⟩ :=
  fun _ ho r hr => List.mem_singleton.1 ho ▸ h r hr

end GatedPredicate
