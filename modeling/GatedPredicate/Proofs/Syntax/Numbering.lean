import GatedPredicate.Syntax.Expr

/-!
# Nodes and their numbers

Numbering gives a node its number when all of its children have theirs, so the numbers of a tree
are consecutive in post-order. What the functions on trees do at a node is the same for all kinds of
nodes once its children are taken as a list; the proofs here go by induction on that list of
children and never look at the kind of a node.

- `Expr.inductionOnChildren`: induction with all children of a node at once
- `Expr.nodes_sublist`: the nodes below a node
- `Expr.numberFrom`, `Expr.number`: trees with the numbers that their nodes are to have
- `number_ids`, `number_child_lt`: the numbers of a tree
- `mem_nodes_numberFrom`: numbering changes nothing else
-/

namespace GatedPredicate.Syntax

variable {α : Type}

/-! ## Nodes by their children -/

theorem size_le_sizes {c : Expr α} {es : List (Expr α)} (h : c ∈ es) : c.size ≤ sizes es := by
  induction es with
  | nil => cases h
  | cons e rest ih =>
    rw [sizes]
    rcases List.mem_cons.mp h with rfl | h
    · omega
    · have hle := ih h
      omega

/-- A subexpression has fewer nodes. -/
theorem Expr.size_lt_of_mem_children {c e : Expr α} (h : c ∈ e.children) : c.size < e.size := by
  have hle := size_le_sizes h
  rw [Expr.size_eq e]
  omega

/-- What holds of a node whenever it holds of its children holds of every tree. -/
@[elab_as_elim]
theorem Expr.inductionOnChildren {motive : Expr α → Prop}
    (node : ∀ e : Expr α, (∀ c ∈ e.children, motive c) → motive e) (e : Expr α) : motive e :=
  node e fun c hc =>
    have := Expr.size_lt_of_mem_children hc
    c.inductionOnChildren node
termination_by e.size

theorem nodesAll_eq_flatMap (es : List (Expr α)) : nodesAll es = es.flatMap Expr.nodes := by
  induction es with
  | nil => rfl
  | cons e rest ih => rw [nodesAll, ih, List.flatMap_cons]

/-- The nodes below a node come before it. -/
theorem Expr.nodes_eq (e : Expr α) : e.nodes = nodesAll e.children ++ [e] := by
  cases e <;> simp [Expr.nodes, Expr.children, nodesAll]

theorem mem_nodesAll {n : Expr α} {es : List (Expr α)} :
    n ∈ nodesAll es ↔ ∃ e ∈ es, n ∈ e.nodes := by
  rw [nodesAll_eq_flatMap, List.mem_flatMap]

theorem Expr.mem_nodes {n e : Expr α} : n ∈ e.nodes ↔ (∃ c ∈ e.children, n ∈ c.nodes) ∨ n = e := by
  rw [Expr.nodes_eq, List.mem_append, mem_nodesAll, List.mem_singleton]

theorem Expr.self_mem_nodes (e : Expr α) : e ∈ e.nodes :=
  Expr.mem_nodes.mpr (.inr rfl)

theorem nodes_sublist_nodesAll {c : Expr α} {es : List (Expr α)} (h : c ∈ es) :
    c.nodes.Sublist (nodesAll es) := by
  rw [nodesAll_eq_flatMap, List.flatMap_def]
  exact List.sublist_flatten_of_mem (List.mem_map_of_mem h)

/-- The nodes at and below a node are among those of the tree, in the same order. -/
theorem Expr.nodes_sublist {n e : Expr α} (h : n ∈ e.nodes) : n.nodes.Sublist e.nodes := by
  induction e using Expr.inductionOnChildren with
  | node e ih =>
    rcases Expr.mem_nodes.mp h with ⟨c, hc, hn⟩ | rfl
    · -- the node stands below a child, whose nodes are a part of those below the root
      have hbelow : n.nodes.Sublist (nodesAll e.children) :=
        (ih c hc hn).trans (nodes_sublist_nodesAll hc)
      rw [e.nodes_eq]
      exact hbelow.trans (List.sublist_append_left _ _)
    · exact List.Sublist.refl _

/-! ## Numbering -/

mutual

/-- Numbers the nodes of a tree in post-order from `next` on and gives the next free number. -/
def Expr.numberFrom (next : Nat) : Expr Span → Expr Mark × Nat
  | .literal m value => (.literal ⟨next, m⟩ value, next + 1)
  | .ident m name => (.ident ⟨next, m⟩ name, next + 1)
  | .typeOf m name => (.typeOf ⟨next, m⟩ name, next + 1)
  | .member m target name =>
    let (target, next) := target.numberFrom next
    (.member ⟨next, m⟩ target name, next + 1)
  | .call m callee args =>
    let (callee, next) := callee.numberFrom next
    let (args, next) := numberAll next args
    (.call ⟨next, m⟩ callee args, next + 1)
  | .index m target position =>
    let (target, next) := target.numberFrom next
    let (position, next) := position.numberFrom next
    (.index ⟨next, m⟩ target position, next + 1)
  | .unary m op operand =>
    let (operand, next) := operand.numberFrom next
    (.unary ⟨next, m⟩ op operand, next + 1)
  | .binary m op left right =>
    let (left, next) := left.numberFrom next
    let (right, next) := right.numberFrom next
    (.binary ⟨next, m⟩ op left right, next + 1)
  | .conditional m cond onTrue onFalse =>
    let (cond, next) := cond.numberFrom next
    let (onTrue, next) := onTrue.numberFrom next
    let (onFalse, next) := onFalse.numberFrom next
    (.conditional ⟨next, m⟩ cond onTrue onFalse, next + 1)
  | .array m items =>
    let (items, next) := numberAll next items
    (.array ⟨next, m⟩ items, next + 1)
  | .lambda m param body =>
    let (body, next) := body.numberFrom next
    (.lambda ⟨next, m⟩ param body, next + 1)

/-- Numbers a list of trees, left to right. -/
def numberAll (next : Nat) : List (Expr Span) → List (Expr Mark) × Nat
  | [] => ([], next)
  | e :: rest =>
    let (e, next) := e.numberFrom next
    let (rest, next) := numberAll next rest
    (e :: rest, next)

end

/-- Gives the nodes of a tree the identifiers `1, 2, …` in post-order. -/
def Expr.number (e : Expr Span) : Expr Mark :=
  (e.numberFrom 1).1

/-! ## What numbering does at a node -/

theorem numberFrom_children (next : Nat) (e : Expr Span) :
    (e.numberFrom next).1.children = (numberAll next e.children).1 := by
  cases e <;> simp [Expr.numberFrom, Expr.children, numberAll]

/-- A node is numbered after its children. -/
theorem numberFrom_mark (next : Nat) (e : Expr Span) :
    (e.numberFrom next).1.mark = ⟨(numberAll next e.children).2, e.mark⟩ := by
  cases e <;> simp [Expr.numberFrom, Expr.children, Expr.mark, numberAll]

theorem numberFrom_next (next : Nat) (e : Expr Span) :
    (e.numberFrom next).2 = (numberAll next e.children).2 + 1 := by
  cases e <;> simp [Expr.numberFrom, Expr.children, numberAll]

theorem numberAll_spans (next : Nat) (es : List (Expr Span)) :
    (numberAll next es).1.map (fun c => c.mark.span) = es.map Expr.mark := by
  induction es generalizing next with
  | nil => rfl
  | cons e rest ih => simp [numberAll, numberFrom_mark, ih]

theorem mem_numberAll {next : Nat} {es : List (Expr Span)} {c : Expr Mark}
    (h : c ∈ (numberAll next es).1) : ∃ e ∈ es, ∃ k, c = (e.numberFrom k).1 := by
  induction es generalizing next with
  | nil => cases h
  | cons e rest ih =>
    rcases List.mem_cons.mp h with rfl | h
    · exact ⟨e, List.mem_cons_self, next, rfl⟩
    · obtain ⟨e', he', k, rfl⟩ := ih h
      exact ⟨e', List.mem_cons_of_mem _ he', k, rfl⟩

/-- Every node of a numbered tree is a node of the tree, numbered from somewhere on. -/
theorem mem_nodes_numberFrom {e : Expr Span} {next : Nat} {n : Expr Mark}
    (h : n ∈ (e.numberFrom next).1.nodes) : ∃ m ∈ e.nodes, ∃ k, n = (m.numberFrom k).1 := by
  induction e using Expr.inductionOnChildren generalizing next with
  | node e ih =>
    rcases Expr.mem_nodes.mp h with ⟨c, hc, hn⟩ | rfl
    · rw [numberFrom_children] at hc
      obtain ⟨e', he', k, rfl⟩ := mem_numberAll hc
      obtain ⟨m, hm, hmark⟩ := ih e' he' hn
      exact ⟨m, Expr.mem_nodes.mpr (.inl ⟨e', he', hm⟩), hmark⟩
    · exact ⟨e, e.self_mem_nodes, next, rfl⟩

/-! ## The numbers of a tree -/

/-- The numbers of the nodes in post-order. -/
def idsOf (nodes : List (Expr Mark)) : List Nat :=
  nodes.map fun n => n.mark.id

theorem idsOf_append (xs ys : List (Expr Mark)) : idsOf (xs ++ ys) = idsOf xs ++ idsOf ys :=
  List.map_append

/-- Numbering the tree from `next` on uses up one number for each node, in post-order. -/
def Expr.Consecutive (next : Nat) (e : Expr Span) : Prop :=
  (e.numberFrom next).2 = next + e.nodes.length ∧
    idsOf (e.numberFrom next).1.nodes = List.range' next e.nodes.length

/-- If each tree of a list is numbered consecutively, so is the list. -/
theorem numberAll_ids {es : List (Expr Span)} (h : ∀ e ∈ es, ∀ next, e.Consecutive next)
    (next : Nat) : (numberAll next es).2 = next + (nodesAll es).length ∧
      idsOf (nodesAll (numberAll next es).1) = List.range' next (nodesAll es).length := by
  induction es generalizing next with
  | nil => exact ⟨rfl, rfl⟩
  | cons e rest ih =>
    -- the rest goes on with the number that the first tree has left
    obtain ⟨hnext, hids⟩ := h e List.mem_cons_self next
    obtain ⟨hnexts, hrest⟩ := ih (fun e' he' => h e' (List.mem_cons_of_mem _ he'))
      (e.numberFrom next).2
    simp only [numberAll, nodesAll, List.length_append]
    constructor
    · rw [hnexts, hnext, Nat.add_assoc]
    · rw [idsOf_append, hids, hrest, hnext, List.range'_append_1]

theorem numberFrom_consecutive (e : Expr Span) : ∀ next, e.Consecutive next := by
  induction e using Expr.inductionOnChildren with
  | node e ih =>
    intro next
    -- the root takes the number after those of its children
    obtain ⟨hnext, hids⟩ := numberAll_ids ih next
    have hlength : e.nodes.length = (nodesAll e.children).length + 1 := by
      rw [e.nodes_eq, List.length_append, List.length_singleton]
    constructor
    · rw [numberFrom_next, hnext, hlength, Nat.add_assoc]
    · rw [Expr.nodes_eq, numberFrom_children, idsOf_append, hids, hlength, List.range'_1_concat,
        idsOf, List.map_singleton, numberFrom_mark, hnext]

theorem number_length (e : Expr Span) : e.number.nodes.length = e.nodes.length := by
  have hids := (numberFrom_consecutive e 1).2
  simpa [idsOf, Expr.number] using congrArg List.length hids

/-- The numbers of a tree are `1, 2, …` in post-order. -/
theorem number_ids (e : Expr Span) :
    idsOf e.number.nodes = List.range' 1 e.number.nodes.length := by
  rw [number_length]
  exact (numberFrom_consecutive e 1).2

/-- The number of the root is that of the nodes. -/
theorem number_root (e : Expr Span) : e.number.mark.id = e.number.nodes.length := by
  obtain ⟨hnext, -⟩ := numberFrom_consecutive e 1
  have hmark := congrArg Mark.id (numberFrom_mark 1 e)
  rw [numberFrom_next] at hnext
  rw [number_length, Expr.number, hmark]
  dsimp only
  omega

/-- A child is numbered before its parent. -/
theorem number_child_lt (e : Expr Span) {n c : Expr Mark} (hn : n ∈ e.number.nodes)
    (hc : c ∈ n.children) : c.mark.id < n.mark.id := by
  -- the nodes below `n` and `n` itself are numbered upwards, as those of the whole tree are
  have hall : (idsOf e.number.nodes).Pairwise (· < ·) := by
    rw [number_ids]
    exact List.pairwise_lt_range'
  have hbelow : (idsOf n.nodes).Pairwise (· < ·) :=
    hall.sublist ((Expr.nodes_sublist hn).map _)
  rw [n.nodes_eq, idsOf_append, List.pairwise_append] at hbelow
  have hmem : c.mark.id ∈ idsOf (nodesAll n.children) :=
    List.mem_map_of_mem (mem_nodesAll.mpr ⟨c, hc, c.self_mem_nodes⟩)
  exact hbelow.2.2 _ hmem _ (List.mem_singleton_self _)

end GatedPredicate.Syntax
