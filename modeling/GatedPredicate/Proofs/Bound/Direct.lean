import GatedPredicate.Bag.Bags
import GatedPredicate.Bound.Eval
import GatedPredicate.Bound.Binder

/-!
# Running a tree as it is written

An interpreter that needs no resolution: it works on the tree with its names and looks a name up at
the moment it is needed. It knows nothing of policies, static types or slots, so it says what an
expression means in the plainest way.

- `World`: where names lead
- `Locals`: the lambda parameters in scope, with their values
- `Halt`: a run fails as evaluation does, or stops at a name that leads nowhere
- `World.run`, `World.runAll`
-/

namespace GatedPredicate

open GatedPredicate.Syntax

/-- Where the names of an expression lead. -/
structure World where
  schema : Schema
  registry : Registry
  bags : Bags

/-- Lambda parameters with their values, innermost first. -/
abbrev Locals := List (String × Value)

/-- The value of the innermost parameter of the given name. -/
def Locals.value? (locals : Locals) (name : String) : Option Value :=
  (locals.find? fun p => p.1 == name).map Prod.snd

/-- Why a run ends without a value. -/
inductive Halt where
  | failed (e : RuntimeError)
  /-- A name or a form of expression without a meaning. -/
  | unresolved

/-- A run gives a value or ends without one. -/
abbrev Run (α : Type) := Except Halt α

/-- An operation on values as a part of a run. -/
def Run.ofOutcome {α : Type} (x : Outcome α) : Run α :=
  x.mapError .failed

/-- What a lookup finds. -/
def Run.ofLookup {α : Type} (found : Option α) : Run α :=
  match found with
  | some a => .ok a
  | none => .error .unresolved

/-- Tests elements in order until one settles the quantifier: a true one settles `Any`, a false one
settles `All`. -/
def iterate (kind : Quantifier) (test : Value → Run Bool) : List Value → Run Bool
  | [] => .ok (kind == .all)
  | v :: rest => do
    let b ← test v
    if b = (kind == .any) then .ok b else iterate kind test rest

/-- What a member runs if it is of a kind, takes a number of arguments and accepts the receiver. -/
def Member.fitting? (m : Member) (isProperty : Bool) (count : Nat) (receiver : Value) :
    Option Overload :=
  if m.isProperty == isProperty && m.receiver.accepts receiver then findOverload? m.overloads count
  else none

namespace World

variable (w : World)

/-! ## Names -/

/-- A name that stands alone: the innermost parameter of that name, or else an imported constant. -/
def name (locals : Locals) (name : String) : Run Value :=
  match locals.value? name with
  | some v => .ok v
  | none => .ofLookup ((w.registry.importedConstant? name).map Prod.snd)

/-- The bag that a target names, if it is no parameter. -/
def bag? (locals : Locals) (target : Expr Mark) : Option BagDecl :=
  match target with
  | .ident _ name => if (locals.value? name).isSome then none else w.schema.get? name
  | _ => none

/-- The module that a dotted target names, if its root is neither a parameter nor a bag. -/
def module? (locals : Locals) (target : Expr Mark) : Option Module :=
  match target.dottedPath? with
  | some (root :: rest) =>
    if (locals.value? root).isSome || w.schema.isBag root then none
    else w.registry.module? (".".intercalate (root :: rest))
  | _ => none

/-- A field of a bag. -/
def field (bag name : String) : Run Value :=
  match (w.bags.get? bag).bind fun b => b.get? name with
  | some v => .ok v
  | none => .error (.failed (.propertyNotFound bag name))

/-- The overload of an imported function for a number of arguments. -/
def importedFunction (locals : Locals) (name : String) (count : Nat) : Run Overload :=
  if (locals.value? name).isSome then .error .unresolved
  else
    .ofLookup ((w.registry.importedFunction? name).bind fun (_, f) =>
      findOverload? f.overloads count)

/-- What the first member of a name runs that is of a kind, takes a number of arguments and accepts
the receiver. -/
def member (name : String) (isProperty : Bool) (count : Nat) (receiver : Value) : Run Overload :=
  match (w.registry.members name).findSome? fun m => m.fitting? isProperty count receiver with
  | some o => .ok o
  | none => .error (.failed (.typeMismatch name (.noMember receiver.type name)))

/-! ## Trees -/

mutual

/-- The value of a tree. -/
def run (locals : Locals) : Expr Mark → Run Value
  | .literal _ l => .ofLookup (literalValue l).toOption
  | .ident _ name => w.name locals name
  | .member _ target name =>
    match w.bag? locals target, w.module? locals target with
    | some bag, _ => w.field bag.name name
    | none, some m => .ofLookup (m.constant? name)
    | none, none => do
      let r ← run locals target
      let o ← w.member name true 0 r
      .ofOutcome (o.run [r])
  | .call _ (.ident _ name) args => do
    let o ← w.importedFunction locals name args.length
    let values ← runAll locals args
    .ofOutcome (o.run values)
  | .call _ (.member _ target name) args =>
    match w.module? locals target with
    | some m => do
      let o ← Run.ofLookup ((m.function? name).bind fun f => findOverload? f.overloads args.length)
      let values ← runAll locals args
      .ofOutcome (o.run values)
    | none =>
      match Quantifier.ofName? name, args with
      | some kind, [.lambda _ param body] => do
        let items ← Run.ofOutcome (Catalog.elements (← run locals target))
        let test (v : Value) : Run Bool := do
          .ofOutcome ((← run ((param, v) :: locals) body).asBool kind.name)
        let b ← iterate kind test items
        .ok (.bool b)
      | _, args => do
        let r ← run locals target
        let o ← w.member name false args.length r
        let values ← runAll locals args
        .ofOutcome (o.run (r :: values))
  | .index _ target position => do
    let t ← run locals target
    let p ← run locals position
    .ofOutcome (indexInto t p)
  | .unary _ .not operand => do
    let b ← Run.ofOutcome ((← run locals operand).asBool "!")
    .ok (.bool !b)
  | .unary _ .neg operand => do
    .ofOutcome (← run locals operand).negate
  | .binary _ .and left right => do
    if ← Run.ofOutcome ((← run locals left).asBool "&&") then
      let b ← Run.ofOutcome ((← run locals right).asBool "&&")
      .ok (.bool b)
    else .ok (.bool false)
  | .binary _ .or left right => do
    if ← Run.ofOutcome ((← run locals left).asBool "||") then .ok (.bool true)
    else
      let b ← Run.ofOutcome ((← run locals right).asBool "||")
      .ok (.bool b)
  | .binary _ op left right => do
    let l ← run locals left
    let r ← run locals right
    .ofOutcome (applyBinary op l r)
  | .conditional _ cond onTrue onFalse => do
    if ← Run.ofOutcome ((← run locals cond).asBool "?:") then run locals onTrue
    else run locals onFalse
  | .array _ items => do
    let values ← runAll locals items
    .ok (.list values)
  | .call _ _ _ | .lambda _ _ _ | .typeOf _ _ => .error .unresolved

/-- The values of a list of trees, up to the first that has none. -/
def runAll (locals : Locals) : List (Expr Mark) → Run (List Value)
  | [] => .ok []
  | e :: rest => do
    let v ← run locals e
    let vs ← runAll locals rest
    .ok (v :: vs)

end

end World

end GatedPredicate
