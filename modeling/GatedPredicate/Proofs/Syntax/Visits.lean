import GatedPredicate.Proofs.Syntax.Height
import Mathlib.Algebra.BigOperators.Group.Multiset.Basic
import Mathlib.Data.Multiset.Lattice
import Mathlib.Order.Lattice.Nat

/-!
# Depth in any order of visits

The loop that finds the depth of a tree visits the node on top of its work list. Which pending node
a round takes plays no part, and neither does the order in which children become pending: every run
of rounds ends after as many rounds as the tree has nodes, with its height. The work list of the
loop is one such order.

- `DepthSearch.Round`, `DepthSearch.Rounds`: visits of pending nodes, in no order
- `Round.size`, `Round.reach`: what a round does to the nodes that are left and to where they lead
- `depthLoop_rounds`: the loop makes such rounds
- `depth_by_visits`
-/

namespace GatedPredicate.Syntax

variable {α : Type}

/-! ## Rounds -/

/-- Where a search for the depth stands: the deepest node that has been visited, and the nodes that
are still to be visited, each with its distance from the root. -/
structure DepthSearch (α : Type) where
  deepest : Nat
  pending : Multiset (Expr α × Nat)

namespace DepthSearch

variable {n : Nat} {s t : DepthSearch α}

/-- Nothing has been visited yet. -/
def start (e : Expr α) : DepthSearch α :=
  ⟨0, {(e, 1)}⟩

/-- Some pending node is visited, and its children are pending in its place. -/
inductive Round : DepthSearch α → DepthSearch α → Prop where
  | visit (deepest distance : Nat) (e : Expr α) (others : Multiset (Expr α × Nat)) :
      Round ⟨deepest, (e, distance) ::ₘ others⟩
        ⟨max deepest distance, ↑(e.children.map (·, distance + 1)) + others⟩

/-- A number of rounds, one after another. -/
inductive Rounds : Nat → DepthSearch α → DepthSearch α → Prop where
  | none (s : DepthSearch α) : Rounds 0 s s
  | more {n : Nat} {s t u : DepthSearch α} : Round s t → Rounds n t u → Rounds (n + 1) s u

/-- The number of nodes that are still to be visited, those below pending ones included. -/
def size (s : DepthSearch α) : Nat :=
  (s.pending.map fun p => p.1.size).sum

/-- One more than the distance of the deepest node that has been visited or will be. -/
def reach (s : DepthSearch α) : Nat :=
  max (s.deepest + 1) (s.pending.map fun p => p.2 + p.1.height).sup

/-- Unless nothing is pending there is another round. -/
theorem exists_visit (h : s.pending ≠ 0) : ∃ t, Round s t := by
  obtain ⟨deepest, pending⟩ := s
  obtain ⟨⟨e, distance⟩, hp⟩ := Multiset.exists_mem_of_ne_zero h
  obtain ⟨others, rfl⟩ := Multiset.exists_cons_of_mem hp
  exact ⟨_, .visit deepest distance e others⟩

/-- For a work list, the nodes that are left are those it has below it. -/
theorem sum_eq_size (work : WorkList α) :
    ((Multiset.ofList work).map fun p => p.1.size).sum = work.size := by
  unfold WorkList.size
  induction work with
  | nil => rfl
  | cons p rest ih =>
    rw [← Multiset.cons_coe, Multiset.map_cons, Multiset.sum_cons, ih, List.map_cons, sizes]

theorem sup_eq_reach (work : WorkList α) :
    ((Multiset.ofList work).map fun p => p.2 + p.1.height).sup = work.reach := by
  induction work with
  | nil => rfl
  | cons p rest ih =>
    rw [← Multiset.cons_coe, Multiset.map_cons, Multiset.sup_cons, ih]
    rfl

/-- A round visits one node. -/
theorem Round.size (h : Round s t) : s.size = t.size + 1 := by
  obtain ⟨deepest, distance, e, others⟩ := h
  have hchildren : WorkList.size (e.children.map (·, distance + 1)) = sizes e.children := by
    simp [WorkList.size, Function.comp_def]
  simp only [DepthSearch.size, Multiset.map_cons, Multiset.sum_cons, Multiset.map_add,
    Multiset.sum_add, sum_eq_size, hchildren, e.size_eq]
  omega

/-- A round changes nothing in how deep the search will have come at its end. -/
theorem Round.reach (h : Round s t) : s.reach = t.reach := by
  obtain ⟨deepest, distance, e, others⟩ := h
  have hheight := e.height_eq
  have hchildren := WorkList.reach_level e.children (distance + 1)
  simp only [DepthSearch.reach, Multiset.map_cons, Multiset.sup_cons, Multiset.map_add,
    Multiset.sup_add, sup_eq_reach]
  grind

theorem Rounds.size (h : Rounds n s t) : s.size = t.size + n := by
  induction h with
  | none => rfl
  | more hround _ ih =>
    rw [hround.size, ih]
    omega

theorem Rounds.reach (h : Rounds n s t) : s.reach = t.reach := by
  induction h with
  | none => rfl
  | more hround _ ih => rw [hround.reach, ih]

end DepthSearch

open DepthSearch

/-! ## The loop -/

/-- The loop makes rounds until nothing is pending. -/
theorem depthLoop_rounds (deepest : Nat) (work : WorkList α) :
    Rounds work.size ⟨deepest, Multiset.ofList work⟩ ⟨depthLoop deepest work, 0⟩ := by
  fun_induction depthLoop deepest work with
  | case1 deepest => exact .none _
  | case2 deepest e distance rest ih =>
    have hround : Round ⟨deepest, Multiset.ofList ((e, distance) :: rest)⟩
        ⟨max deepest distance, Multiset.ofList (e.children.map (·, distance + 1) ++ rest)⟩ := by
      rw [← Multiset.cons_coe, ← Multiset.coe_add]
      exact .visit deepest distance e rest
    have hsize := hround.size
    simp only [DepthSearch.size, sum_eq_size] at hsize
    rw [hsize]
    exact .more hround ih

theorem heights_eq_foldr (es : List (Expr α)) :
    heights es = (es.map Expr.height).foldr max 0 := by
  induction es with
  | nil => rfl
  | cons e rest ih => rw [heights, ih, List.map_cons, List.foldr_cons]

/-- The loop that finds the depth of a tree ends after as many rounds as the tree has nodes, with
the height of the tree: one for a leaf, and one more than the largest height of a child for any
other node. So does every other run of rounds, whichever nodes it visits first: it can go on until
nothing is pending, and is then as long and has come as deep. -/
theorem depth_by_visits (e : Expr α) :
    Rounds e.size (start e) ⟨e.depth, 0⟩ ∧ e.depth = e.height ∧
      e.depth = (e.children.map Expr.depth).foldr max 0 + 1 ∧
        ∀ n s, Rounds n (start e) s →
          n ≤ e.size ∧ (s.pending ≠ 0 → ∃ t, Round s t) ∧
            (s.pending = 0 → n = e.size ∧ s.deepest = e.depth) := by
  have hchildren : (e.children.map Expr.depth) = e.children.map Expr.height :=
    List.map_congr_left fun c _ => c.depth_eq_height
  refine ⟨?_, e.depth_eq_height, ?_, fun n s h => ?_⟩
  · have hrounds := depthLoop_rounds 0 [(e, 1)]
    rwa [show WorkList.size [(e, 1)] = e.size from by simp [WorkList.size, sizes]] at hrounds
  · rw [hchildren, ← heights_eq_foldr, e.depth_eq_height, e.height_eq]
  · have hsize : e.size = s.size + n := by
      simpa [DepthSearch.size, start] using h.size
    have hreach : max 1 (1 + e.height) = s.reach := by
      simpa [DepthSearch.reach, start] using h.reach
    refine ⟨by omega, exists_visit, fun hpending => ?_⟩
    simp only [DepthSearch.size, DepthSearch.reach, hpending, Multiset.map_zero,
      Multiset.sum_zero, Multiset.sup_zero] at hsize hreach
    rw [e.depth_eq_height]
    constructor
    · omega
    · simp at hreach
      omega

/-- A sum, whose right operand is visited before its left one. -/
theorem depth_by_visits_right_first :
    let sum : Expr Unit := .binary () .add (.ident () "x") (.ident () "y")
    (Rounds 0 (start sum) (start sum) ∧ (start sum).pending ≠ 0 ∧ ∃ t, Round (start sum) t) ∧
      Rounds 3 (start sum) ⟨2, 0⟩ ∧ 3 = sum.size ∧ 2 = sum.depth := by
  intro sum
  have hpending : (start sum).pending ≠ 0 := Multiset.singleton_ne_zero _
  -- both operands are pending, and the right one is taken
  have hoperands : Multiset.ofList (sum.children.map (·, 1 + 1)) + 0 =
      (.ident () "y", 2) ::ₘ {(.ident () "x", 2)} := Multiset.cons_swap _ _ 0
  have hright := Round.visit 1 2 (.ident () "y" : Expr Unit) {(.ident () "x", 2)}
  rw [← hoperands] at hright
  have hrounds : Rounds 3 (start sum) ⟨2, 0⟩ :=
    .more (.visit 0 1 sum 0) <| .more hright <| .more (.visit 2 2 (.ident () "x") 0) (.none _)
  obtain ⟨-, -, -, hruns⟩ := depth_by_visits sum
  exact ⟨⟨.none _, hpending, (hruns 0 _ (.none _)).2.1 hpending⟩, hrounds,
    (hruns 3 _ hrounds).2.2 rfl⟩

end GatedPredicate.Syntax
