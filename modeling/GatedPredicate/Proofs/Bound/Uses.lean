import GatedPredicate.Proofs.Bound.Agreement
import GatedPredicate.Proofs.Bound.Safety

/-!
# What calls and members give

A resolved call runs an overload of a registered function on the values of its arguments, and a
resolved use of a member runs an overload of the first registered member of its name and kind that
accepts the receiver. What either gives depends on the registry, on names and on values alone, so
that it can be said without trees.

- `Registry.call?`: a function of a module, by their names
- `Registry.use`: a member of a value, by its name
- `Registry.ofOwner`: the members of one owner, where a value would decide for another one's
- `bindStatic_call`, `bindInstance_use`: resolved trees evaluate to these
- `Policy.Plain.standard`: so do those of the standard policy
-/

namespace GatedPredicate

open GatedPredicate.Syntax

namespace Registry

/-- What calling a function of a module gives, if the registry has it for so many arguments. -/
def call? (r : Registry) (module function : String) (args : List Value) :
    Option (Outcome Value) := do
  let m ← r.module? module
  let f ← m.function? function
  let o ← findOverload? f.overloads args.length
  some (o.run args)

/-- What using a member on a value gives: of the members with the name the first one runs that is of
the kind, accepts the value and takes so many arguments. -/
def use (r : Registry) (name : String) (isProperty : Bool) (v : Value) (args : List Value) :
    Outcome Value :=
  match (r.members name).findSome? fun m => m.fitting? isProperty args.length v with
  | some o => o.run (v :: args)
  | none => .error (.typeMismatch name (.noMember v.type name))

/-- The registry without the members of other owners. -/
def ofOwner (r : Registry) (owner : Receiver) : Registry :=
  { r with allMembers := r.allMembers.filter fun m => m.receiver = owner }

end Registry

variable {env : Env} {a : Activation} {t : Typed} {ts : List Typed} {name : String}

/-- A resolved call of a function of a module gives what calling it on the values of its arguments
gives. -/
theorem bindStatic_call {module : String} {m : Module} {callee : Env.Callee} {values : List Value}
    (hmodule : env.policy.registry.module? module = some m)
    (hcallee : env.moduleCallee m name = .ok callee) (h : Env.bindStatic callee ts = .ok t)
    (hvalues : Bound.evalAll a (ts.map Typed.tree) = .ok values) :
    env.policy.registry.call? module name values = some (t.tree.eval a) := by
  obtain ⟨-, f, hf, rfl⟩ := Env.moduleCallee_eq_ok hcallee
  obtain ⟨o, type, ho, -, rfl⟩ := Env.bindStatic_eq_ok h
  have hcount : values.length = ts.length := by
    rw [Bound.length_of_evalAll hvalues, List.length_map]
  rw [Registry.call?, hmodule, Bound.eval, hvalues, hcount]
  simp only [Option.bind_eq_bind, Option.bind_some, hf, ho]
  rfl

/-- A resolved use of a member gives what using it on the values of receiver and arguments gives. -/
theorem bindInstance_use {receiver : Typed} {isProperty : Bool} {v : Value} {values : List Value}
    (hp : env.policy.Plain) (h : env.bindInstance receiver name isProperty ts = .ok t)
    (hreceiver : receiver.tree.eval a = .ok v) (hv : receiver.type.Admits v)
    (hvalues : Bound.evalAll a (ts.map Typed.tree) = .ok values) :
    t.tree.eval a = env.policy.registry.use name isProperty v values := by
  obtain ⟨type, -, rfl⟩ := Env.bindInstance_eq_ok h
  have hnamed : ∀ m ∈ env.policy.registry.members name, m ∈ env.policy.registry.allMembers :=
    fun m hm => (List.mem_filter.1 hm).1
  have hcount : values.length = (ts.map Typed.type).length := by
    rw [Bound.length_of_evalAll hvalues, List.length_map, List.length_map]
  -- resolution keeps the candidate that the value decides for
  have hfits : (((env.fits receiver.type name isProperty (ts.map Typed.type)).map
      Env.Fit.candidate).find? fun c => c.receiver.accepts v).map Candidate.overload =
        (env.policy.registry.members name).findSome? fun m =>
          m.fitting? isProperty (ts.map Typed.type).length v :=
    findSome?_fits hv (fun m hm => hp.membersAllowed m (hnamed m hm))
      fun m hm => hp.membersFixed m (hnamed m hm)
  rw [Registry.use, hcount, ← hfits, Bound.eval, hreceiver, except_ok_seq, dispatch]
  cases ((env.fits receiver.type name isProperty (ts.map Typed.type)).map
      Env.Fit.candidate).find? fun c => c.receiver.accepts v with
  | none => rfl
  | some c =>
    rw [except_ok_seq, hvalues]
    rfl

/-- The standard policy leaves no trace in a run. -/
theorem Policy.Plain.standard : Policy.standard.Plain :=
  ⟨Registry.standard_honest, Registry.standard_membersFixed, Policy.Built.standard.membersAllowed⟩

end GatedPredicate
