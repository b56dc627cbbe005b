import GatedPredicate.Bound.Binder
import GatedPredicate.Bound.Eval
import GatedPredicate.Policy.Check
import GatedPredicate.Policy.Config
import GatedPredicate.Text.Blank

/-!
# The gate

A gate pairs a policy with a schema and options. Source text passes it by being parsed, checked
against the policy and resolved; what comes out is a predicate that can be evaluated over any
bags. Nothing is resolved unless the policy check finds nothing.

- `CompileError`
- `Predicate`, `Predicate.evaluate`
- `Gate`, `Gate.compile`, `Gate.run`
-/

namespace GatedPredicate

open GatedPredicate.Syntax GatedPredicate.Text

/-! ## Errors -/

/-- Why a source text is no predicate. -/
inductive CompileError where
  | empty
  | tooLong (limit : Nat)
  | syntaxError (e : SyntaxError)
  | violations (vs : List Violation)
  | notBool (t : ValueType)
  | binding (e : BindError)

def CompileError.message : CompileError → String
  | .empty => "snippet is empty"
  | .tooLong limit => "syntax error: snippet is longer than " ++ toString limit ++ " bytes"
  | .syntaxError e => "syntax error: " ++ e.located
  | .violations vs => "policy violation: " ++ "; ".intercalate (vs.map Violation.message)
  | .notBool t => "predicate must produce a bool, but produces " ++ t.name
  | .binding e => "bind error: " ++ e.message

/-! ## Predicates -/

/-- A source text that has passed a gate. -/
structure Predicate where
  source : String
  tree : Expr Mark
  bound : Bound
  /-- `bool`, or `dynamic` where the data decides. -/
  type : ValueType
  schema : Schema
  policy : Policy

/-- The truth value of a predicate over bags. -/
def Predicate.evaluate (p : Predicate) (bags : Bags) : Outcome Bool :=
  (p.bound.eval (.ofBags bags)).bind (Value.asBool "predicate")

/-! ## Gates -/

/-- What source text is compiled against. -/
structure Gate where
  policy : Policy
  schema : Schema
  options : Options

/-- The outcome of compiling and evaluating in one step. -/
inductive Verdict where
  | holds (b : Bool)
  | refused (e : CompileError)
  | failed (e : RuntimeError)

/-- The verdict of an evaluation. -/
def Verdict.ofOutcome : Outcome Bool → Verdict
  | .ok b => .holds b
  | .error e => .failed e

namespace Gate

/-- The standard policy, schema and options. -/
def standard : Gate := ⟨.standard, .standard, .standard⟩

/-- The gate that a configuration describes. -/
def ofConfig (c : Config) : Gate where
  policy := .ofConfig c
  schema := c.bags.getD .standard
  options := c.options

/-- The gate with another policy in place of its own. -/
def withPolicy (g : Gate) (p : Policy) : Gate := { g with policy := p }

/-- What names are resolved against. -/
def env (g : Gate) : Env := ⟨g.schema, g.policy, g.options.strictFields⟩

/-- No bags yet, with the coercion that the options ask for. -/
def bags (g : Gate) : Bags := .empty g.options.coercion

/-- The tree of a source text. -/
def parse (g : Gate) (source : String) : Except SyntaxError (Expr Mark) :=
  (Syntax.parse g.options.maxDepth.toNat source).toExcept

/-- Refuses a tree that the policy forbids. -/
def check (g : Gate) (tree : Expr Mark) : Except CompileError Unit :=
  match g.policy.check g.schema tree with
  | [] => .ok ()
  | vs => .error (.violations vs)

/-- Resolves a tree that must be able to give a truth value. -/
def bindPredicate (g : Gate) (tree : Expr Mark) : Except CompileError Typed :=
  match g.env.bind tree with
  | .error e => .error (.binding e)
  | .ok t => if t.type.maybeBool then .ok t else .error (.notBool t.type)

/-- Turns a source text into a predicate. Blanks around it do not count. -/
def compile (g : Gate) (text : String) : Except CompileError Predicate :=
  let source := trim text
  if source.isEmpty then .error .empty
  else if g.options.maxLength.toNat < source.utf8ByteSize then
    .error (.tooLong g.options.maxLength.toNat)
  else
    match g.parse source with
    | .error e => .error (.syntaxError e)
    | .ok tree => do
      g.check tree
      let t ← g.bindPredicate tree
      .ok ⟨source, tree, t.tree, t.type, g.schema, g.policy⟩

/-- Compiles and evaluates in one step. -/
def run (g : Gate) (text : String) (bags : Bags) : Verdict :=
  match g.compile text with
  | .ok p => .ofOutcome (p.evaluate bags)
  | .error e => .refused e

/-- Compiles and evaluates over bags made from raw input. -/
def runRaw (g : Gate) (text : String) (raw : List (String × List (String × Raw))) : Verdict :=
  g.run text (raw.foldl (fun b e => b.insertBag e.1 e.2) g.bags)

end Gate

end GatedPredicate
