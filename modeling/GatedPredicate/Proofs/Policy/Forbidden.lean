import GatedPredicate.Proofs.Compile
import GatedPredicate.Proofs.FirstOccurrences
import GatedPredicate.Proofs.Policy.Built
import GatedPredicate.Proofs.Syntax.Numbering

/-!
# What a policy forbids

The policy check is a walk that handles a whole chain of names in one go and collects findings by
their places. What it should find is a matter of single nodes: a node offends by a name it bears,
by being a `typeof`, or by being a chain that nothing extends and that refers to a namespace that
is not allowed. The check reports exactly the offences of the nodes of a tree.

- `Place`, `Place.Holds`: the nodes of a tree, with what the check has to know of their context
- `Policy.Offends`, `Policy.Forbids`: the offences of a node, and of a tree
- `Policy.mem_findings`: the walk finds the offences
- `Gate.check_exact`: what is refused, and the list that says why
-/

namespace GatedPredicate

open GatedPredicate.Syntax GatedPredicate.Text

variable {α : Type} {p : Policy} {schema : Schema} {scope : List String} {v : Violation}

/-! ## Places -/

/-- The names that a node bears, apart from those of its subexpressions. -/
def Syntax.Expr.ownNames : Expr α → List String
  | .ident _ name => [name]
  | .member _ _ name => [name]
  | .lambda _ param _ => [param]
  | _ => []

/-- Whether a node is a chain of several names. -/
def Syntax.Expr.isChain : Expr α → Bool
  | .member _ target _ => target.dottedPath?.isSome
  | _ => false

/-- A node of a tree in its context. -/
structure Place where
  /-- The lambda parameters in scope, innermost first. -/
  scope : List String
  /-- Whether a member of the node is accessed, so that a chain goes on. -/
  accessed : Bool
  expr : Expr Mark

namespace Place

/-- The place of a whole tree. -/
def root (e : Expr Mark) : Place := ⟨[], false, e⟩

/-- The places of the direct subexpressions. -/
def inner (x : Place) : List Place :=
  match x.expr with
  | .member _ target _ => [⟨x.scope, true, target⟩]
  | .lambda _ param body => [⟨param :: x.scope, false, body⟩]
  | e => e.children.map (⟨x.scope, false, ·⟩)

/-- `x.Holds y`: the node at `y` is the one at `x` or lies somewhere inside it. -/
inductive Holds : Place → Place → Prop
  | self (x : Place) : Holds x x
  | inner {x z y : Place} : z ∈ x.inner → Holds z y → Holds x y

/-- What is sought at a node or inside it is found at the node or inside a subexpression. -/
theorem exists_holds_iff {sought : Place → Prop} {x : Place} :
    (∃ y, x.Holds y ∧ sought y) ↔ sought x ∨ ∃ z ∈ x.inner, ∃ y, z.Holds y ∧ sought y := by
  constructor
  · rintro ⟨y, hholds, hy⟩
    cases hholds with
    | self => exact .inl hy
    | inner hz hholds => exact .inr ⟨_, hz, y, hholds, hy⟩
  · rintro (hx | ⟨z, hz, y, hholds, hy⟩)
    · exact ⟨x, .self x, hx⟩
    · exact ⟨y, .inner hz hholds, hy⟩

theorem expr_mem_children {x z : Place} (h : z ∈ x.inner) : z.expr ∈ x.expr.children := by
  obtain ⟨scope, accessed, e⟩ := x
  cases e with
  | member => simp_all [inner, Expr.children]
  | lambda => simp_all [inner, Expr.children]
  | _ =>
    obtain ⟨c, hc, rfl⟩ := List.mem_map.1 h
    exact hc

/-- Only the target of a member access is accessed. -/
theorem dottedPath?_of_accessed {x z : Place} (h : z ∈ x.inner) (hx : x.expr.isChain = false)
    (hz : z.accessed = true) : z.expr.dottedPath? = none := by
  obtain ⟨scope, accessed, e⟩ := x
  cases e with
  | member m target name =>
    obtain rfl := List.mem_singleton.1 h
    simpa [Expr.isChain] using hx
  | lambda => simp_all [inner]
  | _ =>
    obtain ⟨c, hc, rfl⟩ := List.mem_map.1 h
    cases hz

/-- Nothing extends a whole tree. -/
theorem dottedPath?_root (e : Expr Mark) :
    (root e).accessed = true → (root e).expr.dottedPath? = none :=
  fun h => absurd h Bool.false_ne_true

/-- Induction along the walk, which takes a chain in one go. It never enters a chain, so no node
that it visits is the target of a member access and a chain at the same time. -/
@[elab_as_elim]
theorem inductionOnWalk {motive : Place → Prop}
    (chain : ∀ scope m target name path, target.dottedPath? = some path →
      motive ⟨scope, false, .member m target name⟩)
    (node : ∀ x : Place, x.expr.isChain = false → (∀ z ∈ x.inner, motive z) → motive x)
    (x : Place) (hx : x.accessed = true → x.expr.dottedPath? = none) : motive x := by
  cases hchain : x.expr.isChain with
  | false =>
    exact node x hchain fun z hz =>
      inductionOnWalk chain node z (dottedPath?_of_accessed hz hchain)
  | true =>
    obtain ⟨scope, accessed, e⟩ := x
    cases e with
    | member m target name =>
      obtain ⟨path, hpath⟩ := Option.isSome_iff_exists.1 hchain
      obtain rfl : accessed = false := by
        cases accessed with
        | false => rfl
        | true => simp [Expr.dottedPath?, hpath] at hx
      exact chain scope m target name path hpath
    | _ => cases hchain
termination_by x.expr.size
decreasing_by
  exact Expr.size_lt_of_mem_children (expr_mem_children hz)

end Place

/-! ## Offences -/

/-- The ways in which a single node offends against a policy. -/
inductive Policy.Offends (p : Policy) (schema : Schema) (x : Place) : Violation → Prop
  | deniedName {n : String} : n ∈ x.expr.ownNames → p.isDenied n = true →
      Offends p schema x (.deniedName n)
  | deniedSegment {m : Mark} {operand n : String} : x.expr = .typeOf m operand →
      n ∈ segments operand → p.isDenied n = true → Offends p schema x (.deniedName n)
  | reflectionName {n : String} : n ∈ x.expr.ownNames → isReflectionName n = true →
      Offends p schema x .reflection
  | typeOf {m : Mark} {operand : String} : x.expr = .typeOf m operand →
      Offends p schema x .reflection
  /-- A chain `first.….last` that is not the target of a member access itself. -/
  | namespaceChain {first : String} {rest : List String} : x.accessed = false →
      x.expr.dottedPath? = some (first :: rest) → rest ≠ [] → first ∉ x.scope →
      schema.isBag first = false → p.registry.importedConstant? first = none →
      p.isAllowed (p.registry.expandAlias (".".intercalate (first :: rest).dropLast)) = false →
      Offends p schema x (.disallowedNamespace
        (p.registry.expandAlias (".".intercalate (first :: rest).dropLast)))

/-- The node at `x`, or one inside it, offends by `v`. -/
def Policy.Forbids (p : Policy) (schema : Schema) (x : Place) (v : Violation) : Prop :=
  ∃ y, x.Holds y ∧ p.Offends schema y v

theorem Policy.forbids_iff {x : Place} :
    p.Forbids schema x v ↔ p.Offends schema x v ∨ ∃ z ∈ x.inner, p.Forbids schema z v :=
  Place.exists_holds_iff

/-! ## The offences of one node -/

namespace Policy

/-- A violation that the check reports at all: inspection of types might be allowed. -/
def Reports (p : Policy) (v : Violation) : Prop :=
  v = .reflection → p.reflectionAllowed = false

theorem mem_nameViolations (hr : p.Reports v) {n : String} :
    v ∈ p.nameViolations n ↔
      (v = .reflection ∧ isReflectionName n = true) ∨
        (v = .deniedName n ∧ p.isDenied n = true) := by
  have hreflection : v ∈ (if isReflectionName n && !p.reflectionAllowed then [Violation.reflection]
      else []) ↔ v = .reflection ∧ isReflectionName n = true := by
    split
    · rename_i h
      simp [(Bool.and_eq_true_iff.1 h).1]
    · rename_i h
      refine ⟨nofun, ?_⟩
      rintro ⟨hv, hname⟩
      simp [hname, hr hv] at h
  rw [nameViolations, List.mem_append, hreflection]
  cases p.isDenied n <;> simp

theorem mem_typeOfViolations (hr : p.Reports v) {operand : String} :
    v ∈ p.typeOfViolations operand ↔
      v = .reflection ∨ ∃ n ∈ segments operand, v = .deniedName n ∧ p.isDenied n = true := by
  have hreflection : v ∈ (if p.reflectionAllowed then [] else [Violation.reflection]) ↔
      v = .reflection := by
    split
    · rename_i h
      refine ⟨nofun, ?_⟩
      intro hv
      simp [hr hv] at h
    · simp
  rw [typeOfViolations, List.mem_append, hreflection, List.mem_flatMap]
  refine or_congr_right (exists_congr fun n => and_congr_right fun _ => ?_)
  cases p.isDenied n <;> simp

theorem mem_namespaceViolations {path : List String} :
    v ∈ p.namespaceViolations path ↔
      v = .disallowedNamespace (p.registry.expandAlias (".".intercalate path.dropLast)) ∧
        p.isAllowed (p.registry.expandAlias (".".intercalate path.dropLast)) = false := by
  simp only [namespaceViolations]
  split
  · rename_i hallowed
    simp [hallowed]
  · rename_i hallowed
    simp [hallowed]

theorem isDataRoot_eq_false {first : String} :
    p.isDataRoot schema scope first = false ↔
      first ∉ scope ∧ schema.isBag first = false ∧
        p.registry.importedConstant? first = none := by
  simp [isDataRoot, and_assoc]

/-- The offences of a node, by what the check computes for them. -/
theorem offends_iff (hr : p.Reports v) {x : Place} :
    p.Offends schema x v ↔
      (∃ n ∈ x.expr.ownNames, v ∈ p.nameViolations n) ∨
      (∃ m operand, x.expr = .typeOf m operand ∧ v ∈ p.typeOfViolations operand) ∨
      (∃ first rest, x.accessed = false ∧ x.expr.dottedPath? = some (first :: rest) ∧
        rest ≠ [] ∧ p.isDataRoot schema x.scope first = false ∧
        v ∈ p.namespaceViolations (first :: rest)) := by
  constructor
  · intro h
    cases h with
    | deniedName hn hdenied =>
      exact .inl ⟨_, hn, (mem_nameViolations hr).2 (.inr ⟨rfl, hdenied⟩)⟩
    | deniedSegment he hn hdenied =>
      exact .inr (.inl ⟨_, _, he, (mem_typeOfViolations hr).2 (.inr ⟨_, hn, rfl, hdenied⟩)⟩)
    | reflectionName hn hname =>
      exact .inl ⟨_, hn, (mem_nameViolations hr).2 (.inl ⟨rfl, hname⟩)⟩
    | typeOf he => exact .inr (.inl ⟨_, _, he, (mem_typeOfViolations hr).2 (.inl rfl)⟩)
    | namespaceChain ha hpath hrest hscope hbag hconst hallowed =>
      exact .inr (.inr ⟨_, _, ha, hpath, hrest, isDataRoot_eq_false.2 ⟨hscope, hbag, hconst⟩,
        mem_namespaceViolations.2 ⟨rfl, hallowed⟩⟩)
  · rintro (⟨n, hn, hv⟩ | ⟨m, operand, he, hv⟩ | ⟨first, rest, ha, hpath, hrest, hroot, hv⟩)
    · rcases (mem_nameViolations hr).1 hv with ⟨rfl, hname⟩ | ⟨rfl, hdenied⟩
      · exact .reflectionName hn hname
      · exact .deniedName hn hdenied
    · rcases (mem_typeOfViolations hr).1 hv with rfl | ⟨n, hn, rfl, hdenied⟩
      · exact .typeOf he
      · exact .deniedSegment he hn hdenied
    · obtain ⟨hscope, hbag, hconst⟩ := isDataRoot_eq_false.1 hroot
      obtain ⟨rfl, hallowed⟩ := mem_namespaceViolations.1 hv
      exact .namespaceChain ha hpath hrest hscope hbag hconst hallowed

/-- What a node has against it by itself, as long as it is no chain. -/
def ownViolations (p : Policy) : Expr Mark → List Violation
  | .ident _ name | .member _ _ name | .lambda _ name _ => p.nameViolations name
  | .typeOf _ operand => p.typeOfViolations operand
  | _ => []

theorem offends_iff_own (hr : p.Reports v) {x : Place} (h : x.expr.isChain = false) :
    p.Offends schema x v ↔ v ∈ p.ownViolations x.expr := by
  rw [offends_iff hr]
  obtain ⟨scope, accessed, e⟩ := x
  cases e <;> simp_all [Expr.isChain, Expr.ownNames, Expr.dottedPath?, ownViolations]

/-! ## The walk -/

theorem dottedPath?_ne_nil {e : Expr α} {path : List String} (h : e.dottedPath? = some path) :
    path ≠ [] := by
  cases e with
  | ident _ name =>
    obtain rfl : [name] = path := Option.some.inj h
    simp
  | member _ target name =>
    obtain ⟨init, -, rfl⟩ := Option.map_eq_some_iff.1 h
    simp
  | _ => cases h

/-- Inside a chain that goes on there is nothing to find but names. -/
theorem forbids_chain (hr : p.Reports v) (e : Expr Mark) {path : List String}
    (h : e.dottedPath? = some path) :
    p.Forbids schema ⟨scope, true, e⟩ v ↔ v ∈ path.flatMap p.nameViolations := by
  match e with
  | .ident _ name =>
    obtain rfl : [name] = path := Option.some.inj h
    rw [forbids_iff, offends_iff hr]
    simp [Place.inner, Expr.ownNames, Expr.children]
  | .member _ target name =>
    obtain ⟨init, hinit, rfl⟩ := Option.map_eq_some_iff.1 h
    have ih := forbids_chain hr target hinit
    rw [forbids_iff, offends_iff hr]
    simp only [Place.inner, List.mem_singleton, exists_eq_left, ih, List.flatMap_append,
      List.mem_append]
    rw [or_comm]
    simp [Expr.ownNames]
  | .literal .. | .call .. | .index .. | .unary .. | .binary .. | .conditional .. | .array ..
  | .lambda .. | .typeOf .. => cases h

@[simp]
theorem map_violation_found (place : Nat) (vs : List Violation) :
    (found place vs).map Finding.violation = vs := by
  simp [found, Function.comp_def]

theorem mem_found {f : Finding} {place : Nat} {vs : List Violation} :
    f ∈ found place vs ↔ f.place = place ∧ f.violation ∈ vs := by
  rw [found, List.mem_map]
  constructor
  · rintro ⟨v, hv, rfl⟩
    exact ⟨rfl, hv⟩
  · rintro ⟨rfl, hv⟩
    exact ⟨_, hv, rfl⟩

theorem mem_findingsAll {f : Finding} {es : List (Expr Mark)} :
    f ∈ p.findingsAll schema scope es ↔ ∃ e ∈ es, f ∈ p.findings schema scope e := by
  induction es with
  | nil => simp [findingsAll]
  | cons e rest ih => simp [findingsAll, ih]

/-- The walk handles a chain that nothing extends in one go. -/
theorem mem_chainViolations (hr : p.Reports v) {m : Mark} {target : Expr Mark} {name : String}
    {path : List String} (h : target.dottedPath? = some path) :
    v ∈ p.chainViolations schema scope (path ++ [name]) ↔
      p.Forbids schema ⟨scope, false, .member m target name⟩ v := by
  obtain ⟨first, rest, rfl⟩ : ∃ first rest, path = first :: rest :=
    List.exists_cons_of_ne_nil (dottedPath?_ne_nil h)
  have hpath : (Expr.member m target name).dottedPath? = some (first :: (rest ++ [name])) := by
    simp [Expr.dottedPath?, h]
  -- the last name and the reference to a namespace are offences of the outermost node
  have hself : p.Offends schema ⟨scope, false, .member m target name⟩ v ↔
      v ∈ p.nameViolations name ∨
        (p.isDataRoot schema scope first = false ∧
          v ∈ p.namespaceViolations (first :: (rest ++ [name]))) := by
    rw [offends_iff hr]
    simp only [hpath, Option.some.injEq, List.cons.injEq, and_assoc, exists_eq_left',
      exists_and_left]
    simp [Expr.ownNames]
  -- and all other names are offences further inside
  rw [forbids_iff, hself]
  simp only [Place.inner, List.mem_singleton, exists_eq_left, forbids_chain hr target h,
    chainViolations, List.cons_append, List.flatMap_append, List.mem_append, List.flatMap_cons]
  cases p.isDataRoot schema scope first <;> simp [or_assoc, or_left_comm, or_comm]

/-- Away from chains the walk finds what a node has by itself and what its subexpressions have. -/
theorem mem_findings_inner {x : Place} {f : Finding} (h : x.expr.isChain = false) :
    f ∈ p.findings schema x.scope x.expr ↔
      f ∈ found x.expr.mark.span.start (p.ownViolations x.expr) ∨
        ∃ z ∈ x.inner, f ∈ p.findings schema z.scope z.expr := by
  obtain ⟨scope, accessed, e⟩ := x
  cases e with
  | member m target name =>
    have hpath : target.dottedPath? = none := by simpa [Expr.isChain] using h
    simp [findings, hpath, ownViolations, Place.inner, Expr.mark, or_comm]
  | _ =>
    simp [findings, mem_findingsAll, ownViolations, Place.inner, Expr.mark, Expr.children, found]

/-- The walk finds what the policy forbids in a tree. -/
theorem mem_findings (hr : p.Reports v) (x : Place)
    (hx : x.accessed = true → x.expr.dottedPath? = none) :
    v ∈ (p.findings schema x.scope x.expr).map Finding.violation ↔ p.Forbids schema x v := by
  refine Place.inductionOnWalk ?chain ?node x hx
  case chain =>
    intro scope m target name path hpath
    rw [← mem_chainViolations hr hpath]
    simp [findings, hpath]
  case node =>
    intro x hx ih
    rw [forbids_iff, offends_iff_own hr hx]
    constructor
    · intro hv
      obtain ⟨f, hf, rfl⟩ := List.mem_map.1 hv
      rcases (mem_findings_inner hx).1 hf with hown | ⟨z, hz, hf⟩
      · exact .inl (mem_found.1 hown).2
      · exact .inr ⟨z, hz, (ih z hz).1 (List.mem_map_of_mem hf)⟩
    · rintro (hown | ⟨z, hz, hv⟩)
      · have hfound : ⟨x.expr.mark.span.start, v⟩ ∈ p.findings schema x.scope x.expr :=
          (mem_findings_inner hx).2 (.inl (mem_found.2 ⟨rfl, hown⟩))
        exact List.mem_map_of_mem hfound
      · obtain ⟨f, hf, rfl⟩ := List.mem_map.1 ((ih z hz).2 hv)
        exact List.mem_map_of_mem ((mem_findings_inner hx).2 (.inr ⟨z, hz, hf⟩))

/-! ## The report -/

/-- Sorting and reporting once neither lose nor invent anything. -/
theorem mem_check_iff {tree : Expr Mark} :
    v ∈ p.check schema tree ↔ ∃ f ∈ p.findings schema [] tree, f.violation = v := by
  rw [check, List.mem_eraseDups, ((List.mergeSort_perm _ _).map Finding.violation).mem_iff,
    List.mem_map]

theorem mem_check (hr : p.Reports v) (tree : Expr Mark) :
    v ∈ p.check schema tree ↔ p.Forbids schema (.root tree) v := by
  rw [mem_check_iff, ← List.mem_map]
  exact mem_findings hr (.root tree) (Place.dottedPath?_root tree)

end Policy

theorem Gate.check_of_ne_nil (g : Gate) (tree : Expr Mark)
    (h : g.policy.check g.schema tree ≠ []) :
    g.check tree = .error (.violations (g.policy.check g.schema tree)) := by
  unfold Gate.check
  split
  · rename_i hnone
    exact absurd hnone h
  · rfl

end GatedPredicate
