import GatedPredicate.Bag.Schema
import GatedPredicate.Policy.Basic
import GatedPredicate.Syntax.Expr

/-!
# The policy check

The check walks a whole tree and reports everything that the policy forbids: denied names
wherever they stand, inspection of types, and references to namespaces that are not allowed. A
chain `a.b.c` whose root is a lambda parameter, a bag or an imported constant is data; any other
chain refers to the namespace `a.b`.

- `Violation`, `Violation.message`
- `Policy.findings`: violations with the place of the node that they were found in
- `Policy.check`: violations in the order of their places, each reported once
-/

namespace GatedPredicate

open GatedPredicate.Syntax

/-- Something that a policy forbids. -/
inductive Violation where
  | disallowedNamespace (path : String)
  | deniedName (name : String)
  | reflection
deriving DecidableEq

def Violation.message : Violation → String
  | .disallowedNamespace path => "namespace '" ++ path ++ "' is not allowed"
  | .deniedName name => "'" ++ name ++ "' is not allowed in a predicate"
  | .reflection => "reflection is not allowed in a predicate"

/-- A violation and the offset of the node that it was found in. -/
structure Finding where
  place : Nat
  violation : Violation

namespace Policy

/-- The violations of one name: inspection of types, then a denied name. -/
def nameViolations (p : Policy) (name : String) : List Violation :=
  (if isReflectionName name && !p.reflectionAllowed then [.reflection] else []) ++
    (if p.isDenied name then [.deniedName name] else [])

/-- Whether the root of a chain is data. -/
def isDataRoot (p : Policy) (schema : Schema) (params : List String) (root : String) : Bool :=
  params.contains root || schema.isBag root || (p.registry.importedConstant? root).isSome

/-- The violation of a reference to a namespace that is not allowed. -/
def namespaceViolations (p : Policy) (path : List String) : List Violation :=
  let target := p.registry.expandAlias (".".intercalate path.dropLast)
  if p.isAllowed target then [] else [.disallowedNamespace target]

/-- The violations of a chain of names. -/
def chainViolations (p : Policy) (schema : Schema) (params path : List String) :
    List Violation :=
  path.flatMap p.nameViolations ++
    match path with
    | [] => []
    | root :: _ => if p.isDataRoot schema params root then [] else p.namespaceViolations path

/-- The violations of the operand of `typeof`, which is one itself. -/
def typeOfViolations (p : Policy) (name : String) : List Violation :=
  (if p.reflectionAllowed then [] else [.reflection]) ++
    (Text.segments name).flatMap fun segment =>
      if p.isDenied segment then [.deniedName segment] else []

/-- Violations found at one place. -/
def found (place : Nat) (violations : List Violation) : List Finding :=
  violations.map fun v => ⟨place, v⟩

mutual

/-- What the policy forbids in a tree, in the order of a walk from the outside in. `params` are
the lambda parameters in scope. -/
def findings (p : Policy) (schema : Schema) (params : List String) : Expr Mark → List Finding
  | .literal _ _ => []
  | .ident m name => found m.span.start (p.nameViolations name)
  | .member m target name =>
    match target.dottedPath? with
    -- a whole chain at once: the walk does not enter it again
    | some path => found m.span.start (p.chainViolations schema params (path ++ [name]))
    | none => p.findings schema params target ++ found m.span.start (p.nameViolations name)
  | .call _ callee args =>
    p.findings schema params callee ++ p.findingsAll schema params args
  | .index _ target position =>
    p.findings schema params target ++ p.findings schema params position
  | .unary _ _ operand => p.findings schema params operand
  | .binary _ _ left right => p.findings schema params left ++ p.findings schema params right
  | .conditional _ cond onTrue onFalse =>
    p.findings schema params cond ++ p.findings schema params onTrue ++
      p.findings schema params onFalse
  | .array _ items => p.findingsAll schema params items
  | .lambda m param body =>
    found m.span.start (p.nameViolations param) ++ p.findings schema (param :: params) body
  | .typeOf m name => found m.span.start (p.typeOfViolations name)

/-- What the policy forbids in a list of trees. -/
def findingsAll (p : Policy) (schema : Schema) (params : List String) :
    List (Expr Mark) → List Finding
  | [] => []
  | e :: rest => p.findings schema params e ++ p.findingsAll schema params rest

end

/-- The violations of a tree, each once, in the order of the places they were found in. -/
def check (p : Policy) (schema : Schema) (e : Expr Mark) : List Violation :=
  let sorted := (p.findings schema [] e).mergeSort fun a b => a.place ≤ b.place
  (sorted.map Finding.violation).eraseDups

end Policy

end GatedPredicate
