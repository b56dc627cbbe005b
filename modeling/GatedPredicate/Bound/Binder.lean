import GatedPredicate.Bag.Schema
import GatedPredicate.Bound.Typing
import GatedPredicate.Catalog.Sequence
import GatedPredicate.Decimal.Reader
import GatedPredicate.Policy.Basic
import GatedPredicate.Syntax.Expr

/-!
# Resolution of names

Turns a tree with names into a bound tree and finds its static type. A lambda parameter hides
every other meaning of its name, a bag hides modules, and a module is named by its tag or an
alias. All other members are looked up among those of the registry with the right name, kind and
number of arguments; where the type of the receiver is not known, all of them stay candidates.

- `Env`: what names are resolved against
- `Typed`: a bound tree with its type
- `bindTree`: by recursion on the tree, with the next free slot threaded through
- `bindPredicate`: a tree that must be able to give a truth value
-/

namespace GatedPredicate

open GatedPredicate.Syntax

/-- What names are resolved against. -/
structure Env where
  schema : Schema
  policy : Policy
  strictFields : Bool

/-- Lambda parameters with their slots, innermost first. -/
abbrev Scope := List (String × Nat)

/-- The slot of the innermost parameter of the given name. -/
def Scope.slot? (scope : Scope) (name : String) : Option Nat :=
  (scope.find? fun p => p.1 == name).map Prod.snd

/-- A bound tree with its static type. -/
structure Typed where
  tree : Bound
  type : ValueType

/-- Either a result or the reason why there is none. -/
abbrev Binding (α : Type) := Except BindError α

/-! ## Leaves -/

def literalValue : Literal → Binding Value
  | .null => .ok .null
  | .bool b => .ok (.bool b)
  | .int n => .ok (.int n)
  | .uint n => .ok (.uint n)
  | .float x => .ok (.float x)
  | .decimal digits =>
    match Decimal.read? digits.toList with
    | some d => .ok (.decimal d)
    | none => .error (.malformedDecimal digits)
  | .char c => .ok (.char c)
  | .string s => .ok (.string s)

/-- A value as a tree. -/
def Typed.ofValue (v : Value) : Typed :=
  ⟨.const v, v.type⟩

namespace Env

/-- Refuses a module whose namespace is not allowed. -/
def requireModule (env : Env) (m : Module) : Binding Unit :=
  if env.policy.isAllowed m.tag then .ok () else .error (.notAllowed m.tag)

/-- Resolves a name that stands alone. -/
def bindName (env : Env) (scope : Scope) (name : String) : Binding Typed :=
  match scope.slot? name with
  | some slot => .ok ⟨.param slot, .dynamic⟩
  | none =>
    if env.schema.isBag name then .error (.bagAsValue name)
    else
      match env.policy.registry.importedConstant? name with
      | some (m, v) => (env.requireModule m).map fun _ => .ofValue v
      | none =>
        if (env.policy.registry.module? name).isSome then .error (.typeAsValue name)
        else .error (.unknownName name)

/-- The module that a chain of names stands for, unless its root is data. -/
def moduleFor? (env : Env) (scope : Scope) (target : Expr Mark) : Option Module :=
  target.dottedPath?.bind fun path =>
    path.head?.bind fun root =>
      if (scope.slot? root).isSome || env.schema.isBag root then none
      else env.policy.registry.module? (".".intercalate path)

/-- The declaration of the bag that a target stands for. -/
def bagFor? (env : Env) (scope : Scope) (target : Expr Mark) : Option BagDecl :=
  match target with
  | .ident _ root => if (scope.slot? root).isSome then none else env.schema.get? root
  | _ => none

/-- Resolves a field of a bag. -/
def bindField (env : Env) (bag : BagDecl) (name : String) : Binding Typed :=
  if env.strictFields && !bag.declares name then .error (.undeclaredField bag.name name)
  else .ok ⟨.field bag.name name, .dynamic⟩

/-- Resolves a constant of a module. -/
def bindConstant (env : Env) (m : Module) (name : String) : Binding Typed :=
  (env.requireModule m).bind fun _ =>
    match m.constant? name with
    | some v => .ok (.ofValue v)
    | none => .error (.noConstant m.displayName name)

/-! ## Calls -/

/-- A function by its name in messages, with its overloads. -/
structure Callee where
  name : String
  overloads : List Overload

/-- Resolves a function that is called without naming a module. -/
def importedCallee (env : Env) (scope : Scope) (name : String) : Binding Callee :=
  if (scope.slot? name).isSome then .error (.parameterCall name)
  else
    match env.policy.registry.importedFunction? name with
    | none => .error (.unknownFunction name)
    | some (m, f) =>
      (env.requireModule m).map fun _ => ⟨m.displayName ++ "." ++ name, f.overloads⟩

/-- Resolves a function of a module. -/
def moduleCallee (env : Env) (m : Module) (name : String) : Binding Callee :=
  (env.requireModule m).bind fun _ =>
    let qualified := m.displayName ++ "." ++ name
    match m.function? name with
    | some f => .ok ⟨qualified, f.overloads⟩
    | none => .error (.unknownFunction qualified)

/-- Chooses the overload of a static call. -/
def bindStatic (callee : Callee) (args : List Typed) : Binding Typed :=
  match findOverload? callee.overloads args.length with
  | none => .error (.noOverload callee.name args.length)
  | some o =>
    let types := args.map Typed.type
    match o.resultType? types with
    | none => .error (.notApplicable callee.name types)
    | some t => .ok ⟨.call callee.name o (args.map Typed.tree), t⟩

/-- A member that fits a use of its name, with the type of the result. -/
structure Fit where
  member : Member
  overload : Overload
  type : ValueType

/-- Whether a member fits, policy aside. -/
def fit? (receiver : ValueType) (isProperty : Bool) (args : List ValueType) (m : Member) :
    Option Fit :=
  if m.isProperty == isProperty && m.receiver.acceptsType receiver then
    (findOverload? m.overloads args.length).bind fun o =>
      (o.resultType? args).map fun t => ⟨m, o, t⟩
  else none

/-- The common type of results: `dynamic` where they differ. -/
def commonType : List ValueType → Option ValueType
  | [] => none
  | t :: rest => some (if rest.all (· == t) then t else .dynamic)

/-- A member as a candidate. -/
def Fit.candidate (f : Fit) : Candidate :=
  ⟨f.member.receiver, f.member.qualifiedName, f.overload⟩

/-- Resolves a method call or property read on a value. -/
def bindInstance (env : Env) (receiver : Typed) (name : String) (isProperty : Bool)
    (args : List Typed) : Binding Typed :=
  let fits := (env.policy.registry.members name).filterMap
    (fit? receiver.type isProperty (args.map Typed.type))
  -- the policy is asked last, so that a refusal can name the namespace that stands in the way
  let allowed := fits.filter fun f => env.policy.isAllowed f.member.module
  let blocked := fits.filter fun f => !env.policy.isAllowed f.member.module
  match commonType (allowed.map Fit.type), blocked.getLast? with
  | some t, _ =>
    .ok ⟨.member name receiver.tree (allowed.map Fit.candidate) (args.map Typed.tree), t⟩
  | none, some f => .error (.blockedMember name f.member.module)
  | none, none =>
    if isProperty then .error (.noProperty receiver.type name)
    else .error (.noMethod receiver.type name args.length)

/-! ## Quantifiers -/

/-- Whether a quantifier may run over values of a type. -/
def isQuantifiable (t : ValueType) : Bool :=
  t == .list || t == .string || t == .json || t == .dynamic

/-- Refuses quantifiers where sequences are not allowed. -/
def requireSequences (env : Env) (kind : Quantifier) : Binding Unit :=
  if env.policy.isAllowed Catalog.sequenceTag then .ok ()
  else .error (.blockedMember kind.name Catalog.sequenceTag)

/-- Refuses receivers of a quantifier that are no sequence. -/
def requireQuantifiable (kind : Quantifier) (t : ValueType) : Binding Unit :=
  if isQuantifiable t then .ok () else .error (.notSequence t kind)

/-- Refuses a body of a quantifier that gives no truth value. -/
def requireTest (kind : Quantifier) (t : ValueType) : Binding Unit :=
  if t.maybeBool then .ok () else .error (.lambdaResult kind t)

/-- The quantifier that a call of `name` with `args` stands for, with parameter and body. -/
def quantifier? (name : String) (args : List (Expr Mark)) :
    Option (Quantifier × String × Expr Mark) :=
  match Quantifier.ofName? name, args with
  | some kind, [.lambda _ param body] => some (kind, param, body)
  | _, _ => none

/-- Refuses a condition that gives no truth value. -/
def requireCondition (t : ValueType) : Binding Unit :=
  if t.maybeBool then .ok () else .error (.condition t)

/-! ## Trees -/

mutual

/-- Resolves a tree. `next` is the first slot that is free; the first one that is free
afterwards is given back. -/
def bindTree (env : Env) (scope : Scope) (next : Nat) : Expr Mark → Binding (Typed × Nat)
  | .literal _ l => do
    let v ← literalValue l
    .ok (.ofValue v, next)
  | .ident _ name => do
    let t ← env.bindName scope name
    .ok (t, next)
  | .member _ target name =>
    -- a bag hides a module of the same name, and either is only meant if no parameter is
    match env.bagFor? scope target, env.moduleFor? scope target with
    | some bag, _ => do
      let t ← env.bindField bag name
      .ok (t, next)
    | none, some m => do
      let t ← env.bindConstant m name
      .ok (t, next)
    | none, none => do
      let (receiver, next) ← bindTree env scope next target
      let t ← env.bindInstance receiver name true []
      .ok (t, next)
  | .call _ (.ident _ name) args => do
    let callee ← env.importedCallee scope name
    let (args, next) ← bindAll env scope next args
    let t ← bindStatic callee args
    .ok (t, next)
  | .call _ (.member _ target name) args =>
    match env.moduleFor? scope target with
    | some m => do
      let callee ← env.moduleCallee m name
      let (args, next) ← bindAll env scope next args
      let t ← bindStatic callee args
      .ok (t, next)
    | none =>
      match Quantifier.ofName? name, args with
      | some kind, [.lambda _ param body] => do
        env.requireSequences kind
        let (receiver, slot) ← bindTree env scope next target
        requireQuantifiable kind receiver.type
        -- the slot that is free after the receiver becomes that of the parameter
        let (test, next) ← bindTree env ((param, slot) :: scope) (slot + 1) body
        requireTest kind test.type
        .ok (⟨.quantifier kind receiver.tree slot test.tree, .bool⟩, next)
      | _, args => do
        let (receiver, next) ← bindTree env scope next target
        let (args, next) ← bindAll env scope next args
        let t ← env.bindInstance receiver name false args
        .ok (t, next)
  | .call _ _ _ => .error .notCallable
  | .index _ target position => do
    let (t, next) ← bindTree env scope next target
    let (p, next) ← bindTree env scope next position
    let type ← indexType t.type p.type
    .ok (⟨.index t.tree p.tree, type⟩, next)
  | .unary _ op operand => do
    let (t, next) ← bindTree env scope next operand
    let type ← unaryType op t.type
    .ok (⟨.unary op t.tree, type⟩, next)
  | .binary _ op left right => do
    let (l, next) ← bindTree env scope next left
    let (r, next) ← bindTree env scope next right
    let type ← binaryType op l.type r.type
    .ok (⟨.binary op l.tree r.tree, type⟩, next)
  | .conditional _ cond onTrue onFalse => do
    let (c, next) ← bindTree env scope next cond
    requireCondition c.type
    let (a, next) ← bindTree env scope next onTrue
    let (b, next) ← bindTree env scope next onFalse
    let type ← conditionalType a.type b.type
    .ok (⟨.conditional c.tree a.tree b.tree, type⟩, next)
  | .array _ items => do
    let (items, next) ← bindAll env scope next items
    .ok (⟨.array (items.map Typed.tree), .list⟩, next)
  | .lambda _ _ _ => .error .misplacedLambda
  | .typeOf _ _ => .error .typeOf

/-- Resolves a list of trees, from left to right. -/
def bindAll (env : Env) (scope : Scope) (next : Nat) :
    List (Expr Mark) → Binding (List Typed × Nat)
  | [] => .ok ([], next)
  | e :: rest => do
    let (t, next) ← bindTree env scope next e
    let (ts, next) ← bindAll env scope next rest
    .ok (t :: ts, next)

end

/-- Resolves a whole tree. -/
def bind (env : Env) (e : Expr Mark) : Binding Typed :=
  (env.bindTree [] 0 e).map Prod.fst

end Env

end GatedPredicate
