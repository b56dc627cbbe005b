import GatedPredicate.Proofs.Compile
import GatedPredicate.Proofs.Syntax.Height
import GatedPredicate.Proofs.Typing.Soundness

/-!
# Predicates of type `bool`

A static type of `bool` does not rule out null: null goes with every type, so a conditional with a
null branch has the type of its other branch and still evaluates to null. Over the standard catalog
this is the only way for a predicate of type `bool` to fall short of a truth value. Operators,
quantifiers, calls and members that are said to give truth values do give them.

- `Overload.Certain`, `Registry.Certain`: overloads of type `bool` that never give null
- `Registry.standard_certain`: the standard catalog has no others
- `Expr.endsInNull`: trees that may hand a literal null on as their value
- `Gate.evaluate_bool`: what becomes of a predicate of type `bool`
-/

namespace GatedPredicate

open GatedPredicate.Syntax

/-- The types of branches that leave a conditional of type `bool` or `null`. -/
def ValueType.JoinsBool (t : ValueType) : Prop :=
  t = .bool ∨ t = .null

/-! ## Computations that never give null -/

/-- The computation does not give null. -/
def Outcome.NotNull (x : Outcome Value) : Prop :=
  x ≠ .ok .null

namespace Outcome.NotNull

variable {α : Type}

theorem ok {v : Value} (h : v ≠ .null) : Outcome.NotNull (.ok v) :=
  fun heq => h (Except.ok.inj heq)

theorem bool {b : Bool} : Outcome.NotNull (.ok (.bool b)) :=
  ok (by simp)

theorem error {e : RuntimeError} : Outcome.NotNull (.error e) := nofun

theorem map {x : Outcome α} {f : α → Value} (h : ∀ a, f a ≠ .null) :
    Outcome.NotNull (x.map f) := by
  intro heq
  obtain ⟨a, -, ha⟩ := except_map_eq_ok.1 heq
  exact h a ha

theorem map_bool {x : Outcome α} {f : α → Bool} : Outcome.NotNull (x.map fun a => .bool (f a)) :=
  map fun a => by simp

theorem bind {x : Outcome α} {f : α → Outcome Value} (h : ∀ a, Outcome.NotNull (f a)) :
    Outcome.NotNull (x.bind f) := by
  intro heq
  obtain ⟨a, -, ha⟩ := except_bind_eq_ok.1 heq
  exact h a ha

end Outcome.NotNull

/-! ## Overloads that never give null in place of a truth value -/

/-- Where its type is `bool`, or would leave a conditional of type `bool`, the result is not
null. -/
def Overload.Certain (o : Overload) : Prop :=
  ∀ types t, o.resultType? types = some t → t.JoinsBool → ∀ args, Outcome.NotNull (o.run args)

/-- A registry whose overloads and constants never give null in place of a truth value. -/
structure Registry.Certain (r : Registry) : Prop where
  functions : ∀ m ∈ r.modules, ∀ f ∈ m.functions, ∀ o ∈ f.overloads, o.Certain
  constants : ∀ m ∈ r.modules, ∀ c ∈ m.constants, c.2 ≠ .null
  members : ∀ m ∈ r.allMembers, ∀ o ∈ m.overloads, o.Certain

namespace Overload

theorem not_joinsBool_of_promote {a b t : ValueType} (h : a.promote b = some t) :
    ¬ t.JoinsBool := by
  rintro (rfl | rfl) <;> cases a <;> cases b <;> cases h

/-- The common type of numbers is not `bool`. -/
theorem not_joinsBool_of_foldlM {types : List ValueType} {s t : ValueType}
    (hs : ¬ s.JoinsBool) (h : types.foldlM ValueType.promote s = some t) : ¬ t.JoinsBool := by
  induction types generalizing s with
  | nil => exact Option.some.inj h ▸ hs
  | cons a rest ih =>
    rw [List.foldlM_cons] at h
    obtain ⟨u, hu, hrest⟩ := Option.bind_eq_some_iff.1 h
    exact ih (not_joinsBool_of_promote hu) hrest

/-- Only overloads that declare `bool` or `null` need to be looked at. -/
theorem Certain.of_result {o : Overload}
    (h : o.result ≠ .fixed .bool ∧ o.result ≠ .fixed .null) : o.Certain := by
  intro types t ht hjoins
  unfold resultType? at ht
  split at ht
  · rename_i s hs
    obtain rfl := Option.some.inj ht
    rcases hjoins with rfl | rfl
    · exact absurd hs h.1
    · exact absurd hs h.2
  · split at ht
    · cases ht
    · rename_i first rest
      split at ht
      · rename_i hnumeric
        have hfirst : ¬ first.JoinsBool := by
          rintro (rfl | rfl) <;> cases hnumeric
        exact absurd hjoins (not_joinsBool_of_foldlM hfirst ht)
      · cases ht

theorem certain_run1 {arity : Nat} {result : ResultType} {f : Value → Outcome Value}
    (h : ∀ x, Outcome.NotNull (f x)) : Certain ⟨arity, result, run1 f⟩ := by
  intro _ _ _ _ args
  change Outcome.NotNull (run1 f args)
  unfold run1
  split
  · exact h _
  · exact .error

theorem certain_run2 {arity : Nat} {result : ResultType} {f : Value → Value → Outcome Value}
    (h : ∀ x y, Outcome.NotNull (f x y)) : Certain ⟨arity, result, run2 f⟩ := by
  intro _ _ _ _ args
  change Outcome.NotNull (run2 f args)
  unfold run2
  split
  · exact h _ _
  · exact .error

theorem certain_run3 {arity : Nat} {result : ResultType}
    {f : Value → Value → Value → Outcome Value} (h : ∀ x y z, Outcome.NotNull (f x y z)) :
    Certain ⟨arity, result, run3 f⟩ := by
  intro _ _ _ _ args
  change Outcome.NotNull (run3 f args)
  unfold run3
  split
  · exact h _ _ _
  · exact .error

end Overload

/-! ## The standard catalog -/

namespace Catalog

theorem nullOr_notNull (name : String) (test : String → Bool) (x : Value) :
    Outcome.NotNull (nullOr name test x) := by
  unfold nullOr
  split
  · exact .bool
  · exact .bool
  · exact .error

theorem textEquals_notNull (x y : Value) : Outcome.NotNull (textEquals x y) := by
  unfold textEquals
  split
  · exact .bool
  · exact .bool
  · exact .bool
  · exact .bool
  · exact .error

theorem matchWith_notNull (sum : Int) (input pattern : Value) :
    Outcome.NotNull (matchWith sum input pattern) := by
  refine .bind fun s => .bind fun p => ?_
  split
  · exact .error
  · split
    · exact .bool
    · exact .error

theorem matchOptions_notNull (input pattern options : Value) :
    Outcome.NotNull (matchOptions input pattern options) := by
  unfold matchOptions
  split
  · exact matchWith_notNull _ _ _
  · exact .error

/-- The functions that declare `bool` are tests of texts, characters and patterns, and a
conversion. -/
theorem standardFunctions_certain :
    ∀ m ∈ standardModules, ∀ f ∈ m.functions, ∀ o ∈ f.overloads, o.Certain := by
  have hstring : ∀ f ∈ stringModule.functions, ∀ o ∈ f.overloads, o.Certain := by
    simp only [stringModule, List.forall_mem_cons]
    exact ⟨⟨Overload.certain_run1 (nullOr_notNull _ _), List.forall_mem_nil _⟩,
      ⟨Overload.certain_run1 (nullOr_notNull _ _), List.forall_mem_nil _⟩,
      ⟨.of_result (by decide), .of_result (by decide), .of_result (by decide),
        List.forall_mem_nil _⟩,
      ⟨Overload.certain_run2 textEquals_notNull, List.forall_mem_nil _⟩, List.forall_mem_nil _⟩
  have hchar : ∀ f ∈ charModule.functions, ∀ o ∈ f.overloads, o.Certain := by
    have hclass (name : String) (test : Char → Bool) :
        ∀ o ∈ (charClass name test).overloads, o.Certain :=
      List.forall_mem_singleton.2 (Overload.certain_run1 fun _ => .map_bool)
    simp only [charModule, List.forall_mem_cons]
    exact ⟨hclass _ _, hclass _ _, hclass _ _, hclass _ _, hclass _ _, List.forall_mem_nil _⟩
  have hconvert : ∀ f ∈ convertModule.functions, ∀ o ∈ f.overloads, o.Certain := by
    simp only [convertModule, List.forall_mem_cons]
    exact ⟨⟨.of_result (by decide), List.forall_mem_nil _⟩,
      ⟨.of_result (by decide), List.forall_mem_nil _⟩,
      ⟨.of_result (by decide), List.forall_mem_nil _⟩,
      ⟨.of_result (by decide), List.forall_mem_nil _⟩,
      ⟨Overload.certain_run1 fun _ => .map_bool, List.forall_mem_nil _⟩, List.forall_mem_nil _⟩
  have hpattern : ∀ f ∈ patternModule.functions, ∀ o ∈ f.overloads, o.Certain := by
    simp only [patternModule, List.forall_mem_cons]
    exact ⟨⟨Overload.certain_run2 (matchWith_notNull 0),
      Overload.certain_run3 matchOptions_notNull, List.forall_mem_nil _⟩, List.forall_mem_nil _⟩
  -- no other module has a function that declares a truth value
  have hresults : ∀ m ∈ [mathModule, patternOptionsModule, documentModule, dateTimeModule,
      dayOfWeekModule], ∀ f ∈ m.functions, ∀ o ∈ f.overloads,
        o.result ≠ .fixed .bool ∧ o.result ≠ .fixed .null := by decide
  have hother : ∀ m ∈ [mathModule, patternOptionsModule, documentModule, dateTimeModule,
      dayOfWeekModule], ∀ f ∈ m.functions, ∀ o ∈ f.overloads, o.Certain :=
    fun m hm f hf o ho => .of_result (hresults m hm f hf o ho)
  simp only [List.forall_mem_cons] at hother
  obtain ⟨hmath, hoptions, hdocument, hdateTime, hdayOfWeek, -⟩ := hother
  simp only [standardModules, List.forall_mem_cons]
  exact ⟨hmath, hstring, hchar, hconvert, hpattern, hoptions, hdocument, hdateTime, hdayOfWeek,
    List.forall_mem_nil _⟩

/-- Members of other types need not be looked at. -/
theorem other_certain {o : Overload} (h : o.result ≠ .fixed .bool ∧ o.result ≠ .fixed .null) :
    ∀ x ∈ [o], x.Certain :=
  List.forall_mem_singleton.2 (.of_result h)

theorem stringMembers_certain : ∀ m ∈ stringMembers, ∀ o ∈ m.overloads, o.Certain := by
  have hsearching {name : String} {search : List Char → List Char → Bool} :
      ∀ o ∈ (searching name .bool fun n cs => .ok (.bool (search n cs))).overloads, o.Certain :=
    List.forall_mem_singleton.2
      (Overload.certain_run2 fun _ _ => .bind fun _ => .bind fun _ => .bool)
  have hempty : ∀ o ∈ (textMember "IsEmpty" true .bool fun cs => .bool cs.isEmpty).overloads,
      o.Certain :=
    List.forall_mem_singleton.2 (Overload.certain_run1 fun _ => .map_bool)
  simp only [stringMembers, List.forall_mem_cons]
  exact ⟨other_certain (by decide), hempty, hsearching, hsearching, hsearching,
    other_certain (by decide), other_certain (by decide), other_certain (by decide),
    other_certain (by decide),
    ⟨.of_result (by decide), .of_result (by decide), List.forall_mem_nil _⟩,
    List.forall_mem_nil _⟩

theorem dateTimeMembers_certain : ∀ m ∈ dateTimeMembers, ∀ o ∈ m.overloads, o.Certain := by
  have hresults : ∀ m ∈ dateTimeMembers, ∀ o ∈ m.overloads,
      o.result ≠ .fixed .bool ∧ o.result ≠ .fixed .null := by decide
  exact fun m hm o ho => .of_result (hresults m hm o ho)

theorem jsonMembers_certain : ∀ m ∈ jsonMembers, ∀ o ∈ m.overloads, o.Certain := by
  have hbool : ∀ o ∈ (elementGetter "GetBoolean" .bool
      fun j => (elementBool? j).map .bool).overloads, o.Certain := by
    refine List.forall_mem_singleton.2 (Overload.certain_run1 fun x => .bind fun j => ?_)
    split
    · rename_i v hv
      obtain ⟨b, -, rfl⟩ := Option.map_eq_some_iff.1 hv
      exact .bool
    · exact .error
  simp only [jsonMembers, List.forall_mem_cons]
  exact ⟨⟨.of_result (by decide), List.forall_mem_nil _⟩,
    ⟨.of_result (by decide), List.forall_mem_nil _⟩,
    ⟨.of_result (by decide), List.forall_mem_nil _⟩, hbool, other_certain (by decide),
    other_certain (by decide), other_certain (by decide), other_certain (by decide),
    other_certain (by decide), other_certain (by decide), List.forall_mem_nil _⟩

theorem sequenceMembers_certain : ∀ m ∈ sequenceMembers, ∀ o ∈ m.overloads, o.Certain := by
  have hany : ∀ o ∈ (counting "Any" false .bool fun n => .bool (0 < n)).overloads, o.Certain :=
    List.forall_mem_singleton.2 (Overload.certain_run1 fun _ => .map_bool)
  simp only [sequenceMembers, List.forall_mem_cons]
  exact ⟨hany, other_certain (by decide), other_certain (by decide),
    ⟨Overload.certain_run2 fun _ _ => .map_bool, List.forall_mem_nil _⟩, List.forall_mem_nil _⟩

theorem objectMembers_certain : ∀ m ∈ objectMembers, ∀ o ∈ m.overloads, o.Certain := by
  simp only [objectMembers, List.forall_mem_cons]
  exact ⟨⟨.of_result (by decide), List.forall_mem_nil _⟩,
    ⟨Overload.certain_run2 fun _ _ => .bool, List.forall_mem_nil _⟩, List.forall_mem_nil _⟩

end Catalog

/-- The standard catalog never gives null in place of a truth value. -/
theorem Registry.standard_certain : Registry.standard.Certain where
  functions := by
    rw [Policy.standard_modules]
    exact Catalog.standardFunctions_certain
  constants := by
    have htypes : ∀ m ∈ Catalog.standardModules, ∀ c ∈ m.constants, c.2.type ≠ .null := by decide
    intro m hm c hc hnull
    rw [Policy.standard_modules] at hm
    exact htypes m hm c hc (by rw [hnull]; rfl)
  members := by
    rw [Policy.standard_allMembers]
    simp only [Catalog.standardMembers, List.forall_mem_append]
    exact ⟨⟨⟨⟨Catalog.stringMembers_certain, Catalog.dateTimeMembers_certain⟩,
      Catalog.jsonMembers_certain⟩, Catalog.sequenceMembers_certain⟩,
      Catalog.objectMembers_certain⟩

/-! ## Calls and members -/

variable {env : Env} {a : Activation}

theorem Registry.Certain.function {r : Registry} (h : r.Certain) {m : Module} (hm : m ∈ r.modules)
    {name : String} {f : Function} (hf : m.function? name = some f) :
    ∀ o ∈ f.overloads, o.Certain :=
  h.functions m hm f (List.mem_of_find?_eq_some hf)

theorem Registry.Certain.constant {r : Registry} (h : r.Certain) {m : Module} (hm : m ∈ r.modules)
    {name : String} {v : Value} (hv : m.constant? name = some v) : v ≠ .null := by
  obtain ⟨c, hc, rfl⟩ := Option.map_eq_some_iff.1 hv
  exact h.constants m hm c (List.mem_of_find?_eq_some hc)

theorem bindStatic_notNull {name : String} {f : Function} {ts : List Typed} {t : Typed}
    (hcertain : ∀ o ∈ f.overloads, o.Certain) (h : Env.bindStatic ⟨name, f.overloads⟩ ts = .ok t)
    (ht : t.type.JoinsBool) : Outcome.NotNull (t.tree.eval a) := by
  intro hnull
  obtain ⟨o, args, hrun⟩ := bindStatic_eval h hnull
  exact hcertain o hrun.overload _ t.type hrun.type ht args hrun.result

theorem bindInstance_notNull {receiver t : Typed} {name : String} {isProperty : Bool}
    {ts : List Typed} (hcertain : env.policy.registry.Certain)
    (h : env.bindInstance receiver name isProperty ts = .ok t) (ht : t.type.JoinsBool) :
    Outcome.NotNull (t.tree.eval a) := by
  intro hnull
  obtain ⟨f, r, args, hrun⟩ := bindInstance_eval h hnull
  obtain ⟨types, hmem, hcommon⟩ := hrun.common
  have hknown : t.type ≠ .dynamic := by
    intro hdynamic
    rw [hdynamic] at ht
    rcases ht with ht | ht <;> cases ht
  -- whichever candidate the receiver decides for is of the common type
  have hsame : f.type = t.type := eq_of_commonType hcommon hknown hmem
  have hmember := hcertain.members f.member hrun.member f.overload hrun.overload
  exact hmember _ f.type hrun.type (hsame ▸ ht) (r :: args) hrun.result

/-! ## Operators -/

theorem applyBinary_notNull (op : BinaryOp) (x y : Value) :
    Outcome.NotNull (applyBinary op x y) := by
  intro h
  have harithmetic : ∀ op, applyArithmetic op x y ≠ .ok .null := by
    intro op h
    obtain ⟨p, -, htype⟩ := applyArithmetic_cases h
    cases p <;> cases htype
  cases op with
  | eq | ne => cases h
  | lt | le | gt | ge => cases applyRelational_type h
  | add =>
    rcases applyAdd_cases h with ⟨htype, -⟩ | hnumbers
    · cases htype
    · exact harithmetic _ hnumbers
  | sub | mul | div | mod | and | or => exact harithmetic _ h

/-- Operators never give null, lazy or not. -/
theorem binary_notNull (op : BinaryOp) (l r : Bound) :
    Outcome.NotNull (Bound.eval a (.binary op l r)) := by
  by_cases hlazy : op = .and ∨ op = .or
  · intro h
    obtain ⟨b, hb⟩ := lazy_eq_ok hlazy h
    cases hb
  · rw [not_or] at hlazy
    rw [eval_binary hlazy.1 hlazy.2]
    exact .bind fun x => .bind fun y => applyBinary_notNull op x y

theorem unary_notNull (op : UnaryOp) (operand : Bound) :
    Outcome.NotNull (Bound.eval a (.unary op operand)) := by
  cases op with
  | not =>
    rw [Bound.eval]
    exact .bind fun _ => .bind fun _ => .bool
  | neg =>
    rw [Bound.eval]
    refine .bind fun v h => ?_
    obtain ⟨hnumeric, htype⟩ := negate_type h
    cases v <;> cases hnumeric <;> cases htype

theorem quantifier_notNull (kind : Quantifier) (receiver : Bound) (slot : Nat) (body : Bound) :
    Outcome.NotNull (Bound.eval a (.quantifier kind receiver slot body)) := by
  rw [Bound.eval]
  exact .bind fun _ => .bind fun _ => .bind fun _ => .bool

/-- What is found at an index has a type of its own. -/
theorem not_joinsBool_of_indexType {target position type : ValueType}
    (h : indexType target position = .ok type) : ¬ type.JoinsBool := by
  unfold indexType at h
  dsimp only at h
  split at h
  · split at h
    · exact Except.ok.inj h ▸ nofun
    · cases h
  · split at h
    · exact Except.ok.inj h ▸ nofun
    · cases h
  · split at h
    · exact Except.ok.inj h ▸ nofun
    · cases h
  · split at h
    · exact Except.ok.inj h ▸ nofun
    · cases h
  · cases h

/-- Branches of a conditional of type `bool` or `null` are of such types. -/
theorem joinsBool_of_conditionalType {s t type : ValueType}
    (h : conditionalType s t = .ok type) (htype : type.JoinsBool) :
    s.JoinsBool ∧ t.JoinsBool := by
  unfold conditionalType at h
  split at h
  · rename_i heq
    obtain rfl := Except.ok.inj h
    exact ⟨htype, heq ▸ htype⟩
  split at h
  · rename_i hnull
    exact ⟨.inr hnull, Except.ok.inj h ▸ htype⟩
  split at h
  · rename_i hnull
    exact ⟨Except.ok.inj h ▸ htype, .inr hnull⟩
  -- what remains has a type of its own, which is none of the two
  split at h
  · obtain rfl := Except.ok.inj h
    rcases htype with htype | htype <;> cases htype
  split at h
  · rename_i hpromote
    rw [Except.ok.inj h] at hpromote
    exact absurd htype (Overload.not_joinsBool_of_promote hpromote)
  · cases h

/-! ## Trees -/

/-- Whether the value of a tree may be that of a literal null: the tree is one, or a conditional
with a branch that is such a tree. -/
def Syntax.Expr.endsInNull {α : Type} : Expr α → Bool
  | .literal _ .null => true
  | .conditional _ _ onTrue onFalse => onTrue.endsInNull || onFalse.endsInNull
  | _ => false

/-- A tree of type `bool` gives null only if it ends in a literal null. -/
theorem Env.Binds.endsInNull (hcertain : env.policy.registry.Certain) {scope : Scope}
    {next after : Nat} {e : Expr Mark} {t : Typed} (h : env.Binds scope next e t after)
    (ht : t.type.JoinsBool) (hv : t.tree.eval a = .ok .null) : e.endsInNull = true := by
  have hdynamic : ¬ ValueType.JoinsBool .dynamic := nofun
  match h with
  | @Binds.literal _ _ _ _ l _ hl =>
    obtain rfl := Except.ok.inj hv
    cases l with
    | null => rfl
    | decimal digits =>
      simp only [literalValue] at hl
      split at hl
      · cases hl
      · cases hl
    | _ => cases hl
  | .param _ => exact absurd ht hdynamic
  | .imported _ _ hconstant _ =>
    obtain ⟨hmodule, hv'⟩ := Registry.importedConstant?_eq_some hconstant
    exact absurd (Except.ok.inj hv) (hcertain.constant hmodule hv')
  | .field _ _ => exact absurd ht hdynamic
  | .constant _ hmodule _ hconstant =>
    exact absurd (Except.ok.inj hv) (hcertain.constant (mem_of_moduleFor? hmodule) hconstant)
  | .property _ _ _ hbind => exact absurd hv (bindInstance_notNull hcertain hbind ht)
  | .importedCall _ hf _ _ hbind =>
    obtain ⟨hmodule, hfunction⟩ := Registry.importedFunction?_eq_some hf
    exact absurd hv (bindStatic_notNull (hcertain.function hmodule hfunction) hbind ht)
  | .moduleCall hmodule _ hf _ hbind =>
    have hoverloads := hcertain.function (mem_of_moduleFor? hmodule) hf
    exact absurd hv (bindStatic_notNull hoverloads hbind ht)
  | .quantifier _ _ _ _ _ _ _ => exact absurd hv (quantifier_notNull _ _ _ _)
  | .method _ _ _ _ hbind => exact absurd hv (bindInstance_notNull hcertain hbind ht)
  | .index _ _ htype => exact absurd ht (not_joinsBool_of_indexType htype)
  | .unary _ _ => exact absurd hv (unary_notNull _ _)
  | .binary _ _ _ => exact absurd hv (binary_notNull _ _ _)
  | .conditional _ _ hTrue hFalse htype =>
    obtain ⟨hleft, hright⟩ := joinsBool_of_conditionalType htype ht
    rw [Bound.eval] at hv
    obtain ⟨_, -, hv⟩ := except_seq_eq_ok.1 hv
    obtain ⟨b, -, hv⟩ := except_seq_eq_ok.1 hv
    rw [Expr.endsInNull, Bool.or_eq_true]
    split at hv
    · exact .inl (Binds.endsInNull hcertain hTrue hleft hv)
    · exact .inr (Binds.endsInNull hcertain hFalse hright hv)
  | .array _ =>
    obtain ⟨_, -, hlist⟩ := except_map_eq_ok.1 hv
    cases hlist

/-! ## Whole predicates -/

/-- `true ? null : true`, which is of type `bool` and gives null. -/
def Predicate.nullBranch : Predicate where
  source := "true ? null : true"
  tree := .conditional ⟨4, 0, 18⟩ (.literal ⟨1, 0, 4⟩ (.bool true)) (.literal ⟨2, 7, 11⟩ .null)
    (.literal ⟨3, 14, 18⟩ (.bool true))
  bound := .conditional (.const (.bool true)) (.const .null) (.const (.bool true))
  type := .bool
  schema := .standard
  policy := .standard

theorem Gate.compile_nullBranch :
    Gate.standard.compile "true ? null : true" = .ok Predicate.nullBranch := by
  let ls : List Lexeme := [⟨.literal (.bool true), ⟨0, 4⟩⟩, ⟨.symbol .question, ⟨5, 6⟩⟩,
    ⟨.literal .null, ⟨7, 11⟩⟩, ⟨.symbol .colon, ⟨12, 13⟩⟩, ⟨.literal (.bool true), ⟨14, 18⟩⟩]
  have hlex : lex "true ? null : true" = .ok ls := by decide +kernel
  have hparse : parseLexemes 64 ls = .complete Predicate.nullBranch.tree :=
    (parseLexemes_of_parseNested rfl rfl).trans rfl
  have hbind : Gate.standard.env.bind Predicate.nullBranch.tree =
      .ok ⟨Predicate.nullBranch.bound, .bool⟩ := rfl
  exact Gate.compile_of_stages (g := .standard) (by decide) (by decide) (by decide) hlex hparse
    rfl hbind rfl

/-- Over the standard catalog a predicate has type `bool` or `dynamic`. One of type `bool` has a
truth value or fails in one of its parts, except that a literal null in a branch of a conditional
may become its value, which is then refused for not being one. -/
theorem Gate.evaluate_bool (g : Gate) (hstandard : g.policy.registry = Registry.standard)
    (text : String) (p : Predicate) (h : g.compile text = .ok p) :
    (p.type = .bool ∨ p.type = .dynamic) ∧
      (p.type = .bool → ∀ bags : Bags,
        (∃ b, p.evaluate bags = .ok b) ∨
          (∃ e, p.bound.eval (.ofBags bags) = .error e ∧ p.evaluate bags = .error e) ∨
            (p.tree.endsInNull = true ∧ p.bound.eval (.ofBags bags) = .ok .null ∧
              p.evaluate bags = .error (.expected "predicate" "bool" .null))) := by
  have hpasses := Gate.compile_eq_ok.1 h
  have hhonest : g.policy.registry.Honest := hstandard ▸ Registry.standard_honest
  have hcertain : g.policy.registry.Certain := hstandard ▸ Registry.standard_certain
  refine ⟨?_, fun htype bags => ?_⟩
  · simpa [ValueType.maybeBool] using hpasses.truth
  · cases heval : p.bound.eval (.ofBags bags) with
    | error e =>
      refine .inr (.inl ⟨e, rfl, ?_⟩)
      rw [Predicate.evaluate, heval]
      rfl
    | ok v =>
      have hevaluate : p.evaluate bags = Value.asBool "predicate" v := by
        rw [Predicate.evaluate, heval]
        rfl
      have hadmits : ValueType.Admits .bool v :=
        htype ▸ Env.bind_admits hhonest hpasses.resolved heval
      have hkind : v.type = .null ∨ v.type = .bool := by
        rcases hadmits with h | h | h | ⟨h, -⟩ | ⟨h, -⟩
        · cases h
        · exact .inl h
        · exact .inr h
        · cases h
        · cases h
      cases v with
      | bool b => exact .inl ⟨b, hevaluate⟩
      | null =>
        obtain ⟨_, hbinds⟩ := Env.binds_of_bind hpasses.resolved
        exact .inr (.inr ⟨hbinds.endsInNull hcertain (.inl htype) heval, rfl, hevaluate⟩)
      | _ => rcases hkind with hkind | hkind <;> cases hkind

/-- A predicate of type `bool` for which the exception is met. -/
theorem Gate.evaluate_bool_nullBranch :
    Gate.standard.policy.registry = Registry.standard ∧
      Gate.standard.compile "true ? null : true" = .ok Predicate.nullBranch ∧
      (Predicate.nullBranch.type = .bool ∨ Predicate.nullBranch.type = .dynamic) ∧
      Predicate.nullBranch.tree.endsInNull = true := by
  obtain ⟨htype, hvalues⟩ :=
    Gate.evaluate_bool .standard rfl "true ? null : true" _ Gate.compile_nullBranch
  refine ⟨rfl, Gate.compile_nullBranch, htype, ?_⟩
  rcases hvalues rfl (.empty .standard) with ⟨b, hb⟩ | ⟨e, he, -⟩ | ⟨hnull, -, -⟩
  · cases hb
  · cases he
  · exact hnull

/-- A predicate of type `bool` that gives no truth value over any bags. -/
theorem Gate.bool_predicate_without_truth_value :
    ∃ p, Gate.standard.compile "true ? null : true" = .ok p ∧ p.type = .bool ∧
      ∀ bags : Bags, p.evaluate bags = .error (.expected "predicate" "bool" .null) :=
  ⟨_, Gate.compile_nullBranch, rfl, fun _ => rfl⟩

end GatedPredicate
