import GatedPredicate.Syntax.Parser

/-!
# Height by work list

A tree may be too high for a recursion, so its depth is found with a list of the nodes that are
still to be visited. The list knows for each node how far from the root it stands; how far it can
still lead is what a step of the loop keeps.

- `WorkList.reach`: the longest path through a node of a work list
- `Expr.depth_eq_height`: the work list finds the height
- `parseLexemes_of_parseNested`: an input that is read to its end is accepted unless it is too high
-/

namespace GatedPredicate.Syntax

variable {α : Type}

/-- One more than the number of nodes on the longest path from the root through a node of the work
list, zero for an empty one. -/
def WorkList.reach : WorkList α → Nat
  | [] => 0
  | (e, distance) :: rest => max (distance + e.height) (WorkList.reach rest)

theorem WorkList.reach_append (xs ys : WorkList α) :
    WorkList.reach (xs ++ ys) = max (WorkList.reach xs) (WorkList.reach ys) := by
  induction xs with
  | nil => simp [WorkList.reach]
  | cons x rest ih =>
    simp only [List.cons_append, WorkList.reach, ih]
    omega

/-- A node is one higher than the highest of its children. -/
theorem Expr.height_eq (e : Expr α) : e.height = heights e.children + 1 := by
  cases e <;> simp [Expr.height, Expr.children, heights]

/-- Trees at the same distance reach as far as the highest of them. -/
theorem WorkList.reach_level (es : List (Expr α)) (distance : Nat) :
    max distance (WorkList.reach (es.map (·, distance))) = distance + heights es := by
  induction es with
  | nil => simp [WorkList.reach, heights]
  | cons e rest ih =>
    simp only [List.map_cons, WorkList.reach, heights]
    omega

/-- Visiting a node changes nothing in how far the loop will have come at its end. -/
theorem depthLoop_eq (deepest : Nat) (work : WorkList α) :
    depthLoop deepest work + 1 = max (deepest + 1) work.reach := by
  fun_induction depthLoop deepest work with
  | case1 deepest => simp [WorkList.reach]
  | case2 deepest e distance rest ih =>
    have hchildren := WorkList.reach_level e.children (distance + 1)
    have hheight := e.height_eq
    rw [ih, WorkList.reach_append, WorkList.reach]
    omega

/-- The work list finds the height. -/
theorem Expr.depth_eq_height (e : Expr α) : e.depth = e.height := by
  have hloop := depthLoop_eq 0 [(e, 1)]
  have hheight := e.height_eq
  simp only [WorkList.reach] at hloop
  rw [Expr.depth]
  omega

/-- An expression that fills the input is its tree, unless that is too high. -/
theorem parseLexemes_of_parseNested {maxDepth next : Nat} {input : List Lexeme} {last : Lexeme}
    {tree : Expr Mark} (hlast : (dropTrailingSemicolons input).getLast? = some last)
    (h : parseNested ⟨last.span.stop, maxDepth⟩ maxDepth 1 (dropTrailingSemicolons input) =
      .ok (tree, next, [])) :
    parseLexemes maxDepth input =
      if maxDepth < tree.height then .flawed tree ⟨.tooDeep maxDepth, tree.mark.span⟩
      else .complete tree := by
  unfold parseLexemes
  simp only [hlast, h, tree.depth_eq_height]

end GatedPredicate.Syntax
