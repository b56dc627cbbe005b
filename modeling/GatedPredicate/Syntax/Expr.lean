import GatedPredicate.Syntax.Operator
import GatedPredicate.Syntax.Token

/-!
# Expression trees

The tree of an expression. Each node carries a mark: the parser gives identifiers and byte ranges,
and what only looks at the shape takes any mark at all. There is no statement, declaration or loop
node, so nothing a source text says can iterate on its own.

- `Expr`: the tree
- `Expr.dottedPath?`, `Expr.chainRoot?`: member chains `a.b.c`
- `Expr.height`, `Expr.depth`: the longest path, by recursion and by work list
- `Mark`, `Expr.nodes`: what the parser marks nodes with, and the nodes in post-order
-/

namespace GatedPredicate.Syntax

/-- An expression whose nodes carry marks of type `α`. -/
inductive Expr (α : Type) where
  | literal (mark : α) (value : Literal)
  | ident (mark : α) (name : String)
  /-- `target.name` -/
  | member (mark : α) (target : Expr α) (name : String)
  /-- `callee(args)` -/
  | call (mark : α) (callee : Expr α) (args : List (Expr α))
  /-- `target[position]` -/
  | index (mark : α) (target : Expr α) (position : Expr α)
  | unary (mark : α) (op : UnaryOp) (operand : Expr α)
  | binary (mark : α) (op : BinaryOp) (left : Expr α) (right : Expr α)
  /-- `cond ? onTrue : onFalse` -/
  | conditional (mark : α) (cond : Expr α) (onTrue : Expr α) (onFalse : Expr α)
  /-- `[a, b]` or `new[] { a, b }` -/
  | array (mark : α) (items : List (Expr α))
  /-- `param => body` -/
  | lambda (mark : α) (param : String) (body : Expr α)
  /-- `typeof(name)`, a node of its own so that it is recognised by shape. -/
  | typeOf (mark : α) (name : String)

variable {α β : Type}

/-- The mark of the root. -/
def Expr.mark : Expr α → α
  | .literal m _ => m
  | .ident m _ => m
  | .member m _ _ => m
  | .call m _ _ => m
  | .index m _ _ => m
  | .unary m _ _ => m
  | .binary m _ _ _ => m
  | .conditional m _ _ _ => m
  | .array m _ => m
  | .lambda m _ _ => m
  | .typeOf m _ => m

/-- The direct subexpressions, left to right. -/
def Expr.children : Expr α → List (Expr α)
  | .literal _ _ | .ident _ _ | .typeOf _ _ => []
  | .member _ target _ => [target]
  | .call _ callee args => callee :: args
  | .index _ target position => [target, position]
  | .unary _ _ operand => [operand]
  | .binary _ _ left right => [left, right]
  | .conditional _ cond onTrue onFalse => [cond, onTrue, onFalse]
  | .array _ items => items
  | .lambda _ _ body => [body]

/-! ## Member chains -/

/-- The segments of an identifier/member chain `a.b.c`, the root first. -/
def Expr.dottedPath? : Expr α → Option (List String)
  | .ident _ name => some [name]
  | .member _ target name => target.dottedPath?.map (· ++ [name])
  | _ => none

/-- The root identifier of a chain, looking through member accesses only. -/
def Expr.chainRoot? : Expr α → Option String
  | .ident _ name => some name
  | .member _ target _ => target.chainRoot?
  | _ => none

/-! ## Height -/

mutual

/-- The number of nodes on the longest path from the root to a leaf. -/
def Expr.height : Expr α → Nat
  | .literal _ _ | .ident _ _ | .typeOf _ _ => 1
  | .member _ target _ => target.height + 1
  | .call _ callee args => max callee.height (heights args) + 1
  | .index _ target position => max target.height position.height + 1
  | .unary _ _ operand => operand.height + 1
  | .binary _ _ left right => max left.height right.height + 1
  | .conditional _ cond onTrue onFalse =>
    max cond.height (max onTrue.height onFalse.height) + 1
  | .array _ items => heights items + 1
  | .lambda _ _ body => body.height + 1

/-- The largest height in a list, zero for an empty one. -/
def heights : List (Expr α) → Nat
  | [] => 0
  | e :: rest => max e.height (heights rest)

end

mutual

/-- The number of nodes. -/
def Expr.size : Expr α → Nat
  | .literal _ _ | .ident _ _ | .typeOf _ _ => 1
  | .member _ target _ => target.size + 1
  | .call _ callee args => callee.size + sizes args + 1
  | .index _ target position => target.size + position.size + 1
  | .unary _ _ operand => operand.size + 1
  | .binary _ _ left right => left.size + right.size + 1
  | .conditional _ cond onTrue onFalse => cond.size + onTrue.size + onFalse.size + 1
  | .array _ items => sizes items + 1
  | .lambda _ _ body => body.size + 1

/-- The number of nodes in a list of trees. -/
def sizes : List (Expr α) → Nat
  | [] => 0
  | e :: rest => e.size + sizes rest

end

/-- The nodes still to be visited, each with its distance from the root. -/
abbrev WorkList (α : Type) := List (Expr α × Nat)

/-- The number of nodes below a work list. -/
def WorkList.size (work : WorkList α) : Nat :=
  sizes (work.map Prod.fst)

theorem sizes_append (xs ys : List (Expr α)) : sizes (xs ++ ys) = sizes xs + sizes ys := by
  induction xs with
  | nil => simp [sizes]
  | cons e rest ih => simp only [List.cons_append, sizes, ih]; omega

/-- A node counts one more than its children. -/
theorem Expr.size_eq (e : Expr α) : e.size = sizes e.children + 1 := by
  cases e <;> simp only [Expr.size, Expr.children, sizes] <;> omega

/-- Visits a work list, deepest path so far in `deepest`; needs no recursion on the tree. -/
def depthLoop (deepest : Nat) (work : WorkList α) : Nat :=
  match work with
  | [] => deepest
  | (e, distance) :: rest =>
    depthLoop (max deepest distance) (e.children.map (·, distance + 1) ++ rest)
termination_by WorkList.size work
decreasing_by
  simp only [WorkList.size, List.map_append, List.map_map, List.map_cons, sizes_append, sizes]
  rw [Expr.size_eq e]
  simp [Function.comp_def]

/-- The number of nodes on the longest path, found with an explicit work list. -/
def Expr.depth (e : Expr α) : Nat :=
  depthLoop 0 [(e, 1)]

/-! ## Nodes -/

/-- What the parser gives each node: its identifier and its range. -/
structure Mark where
  id : Nat
  span : Span
deriving DecidableEq, Repr

mutual

/-- All nodes in post-order, which is the order in which they are made. -/
def Expr.nodes : Expr α → List (Expr α)
  | .literal m value => [.literal m value]
  | .ident m name => [.ident m name]
  | .typeOf m name => [.typeOf m name]
  | .member m target name => target.nodes ++ [.member m target name]
  | .call m callee args => callee.nodes ++ nodesAll args ++ [.call m callee args]
  | .index m target position =>
    target.nodes ++ position.nodes ++ [.index m target position]
  | .unary m op operand => operand.nodes ++ [.unary m op operand]
  | .binary m op left right => left.nodes ++ right.nodes ++ [.binary m op left right]
  | .conditional m cond onTrue onFalse =>
    cond.nodes ++ onTrue.nodes ++ onFalse.nodes ++ [.conditional m cond onTrue onFalse]
  | .array m items => nodesAll items ++ [.array m items]
  | .lambda m param body => body.nodes ++ [.lambda m param body]

/-- All nodes of a list of trees. -/
def nodesAll : List (Expr α) → List (Expr α)
  | [] => []
  | e :: rest => e.nodes ++ nodesAll rest

end

end GatedPredicate.Syntax
