import GatedPredicate.Policy.Check
import GatedPredicate.Policy.Config

/-!
# Policies that can be built

A host starts from the standard policy and adds to it. What holds of the standard policy and
survives each addition holds of every policy there is.

- `Policy.Built`: the policies within reach
- `Policy.Built.ofConfig`: a configuration describes one of them
- `Policy.Extends`: nothing allowed or denied is taken back
- `Policy.Built.extends_standard`: all of them extend the standard policy
- `Policy.Built.modulesAllowed`, `Policy.Built.membersAllowed`: what is registered belongs to
  allowed namespaces
-/

namespace GatedPredicate.Policy

/-- The policies that a host can build. -/
inductive Built : Policy → Prop
  | standard : Built .standard
  | allowNamespace {p : Policy} (namespaceName : String) :
      Built p → Built (p.allowNamespace namespaceName)
  | denyName {p : Policy} (name : String) : Built p → Built (p.denyName name)
  | withModule {p : Policy} (m : Module) : Built p → Built (p.withModule m)
  | withMember {p : Policy} (m : Member) : Built p → Built (p.withMember m)

/-- A fold of additions that keep a policy built. -/
theorem Built.foldl {α : Type} {add : Policy → α → Policy}
    (hadd : ∀ p a, Built p → Built (add p a)) (as : List α) {p : Policy} (h : Built p) :
    Built (as.foldl add p) := by
  induction as generalizing p with
  | nil => exact h
  | cons a as ih => exact ih (hadd p a h)

theorem Built.ofConfig (c : Config) : Built (Policy.ofConfig c) := by
  refine Built.foldl (fun _ name h => .denyName name h) _ ?_
  exact Built.foldl (fun _ name h => .allowNamespace name h) _ .standard

/-! ## Denied names -/

theorem contains_foldl_insert (names : List String) (s : NameSet) (x : String) :
    (names.foldl NameSet.insert s).contains x = (names.contains x || s.contains x) := by
  induction names generalizing s with
  | nil => rfl
  | cons name rest ih =>
    rw [List.foldl_cons, ih, NameSet.contains_insert, List.contains_cons]
    cases rest.contains x <;> cases x == name <;> rfl

theorem contains_ofList (names : List String) (x : String) :
    (NameSet.ofList names).contains x = names.contains x := by
  rw [NameSet.ofList, contains_foldl_insert]
  exact Bool.or_false _

/-- The standard policy denies the names in its list and no others. -/
theorem standard_isDenied (name : String) :
    Policy.standard.isDenied name = standardDenied.contains name :=
  contains_ofList standardDenied name

/-- The standard policy finds nothing wrong with a name that is not in its lists. -/
theorem standard_nameViolations {name : String}
    (h : (reflectionNames ++ standardDenied).contains name = false) :
    Policy.standard.nameViolations name = [] := by
  rw [List.contains_append, Bool.or_eq_false_iff] at h
  simp only [nameViolations, isReflectionName, h.1, standard_isDenied, h.2]
  rfl

/-! ## Allowed namespaces -/

theorem isBelow_self (entry : String) : isBelow entry entry = true := by
  simp [isBelow]

/-- Allowing a namespace allows it. -/
theorem isAllowed_insert_self {p : Policy} {allowed : NameSet} {name : String}
    (h : p.allowed = allowed.insert name) : p.isAllowed name = true := by
  rw [isAllowed, List.any_eq_true]
  refine ⟨name, List.mem_append_left _ ?_, isBelow_self name⟩
  rw [h]
  exact mem_insertName.2 (.inl rfl)

/-- Allowing a namespace takes nothing back. -/
theorem isAllowed_insert {p q : Policy} {name path : String}
    (hq : q.allowed = p.allowed.insert name) (h : p.isAllowed path = true) :
    q.isAllowed path = true := by
  rw [isAllowed, List.any_eq_true] at h ⊢
  obtain ⟨entry, hentry, hbelow⟩ := h
  refine ⟨entry, ?_, hbelow⟩
  rcases List.mem_append.1 hentry with hallowed | hintrinsic
  · rw [hq]
    exact List.mem_append_left _ (mem_insertName.2 (.inr hallowed))
  · exact List.mem_append_right _ hintrinsic

/-! ## Growth -/

/-- `q` still allows and denies everything that `p` does, and no flag has changed. -/
structure Extends (q p : Policy) : Prop where
  allowed {path : String} : p.isAllowed path = true → q.isAllowed path = true
  denied {name : String} : p.isDenied name = true → q.isDenied name = true
  reflectionAllowed : q.reflectionAllowed = p.reflectionAllowed
  iterationAllowed : q.iterationAllowed = p.iterationAllowed

theorem Extends.refl (p : Policy) : p.Extends p :=
  ⟨id, id, rfl, rfl⟩

theorem Extends.trans {r q p : Policy} (hr : r.Extends q) (hq : q.Extends p) : r.Extends p where
  allowed := hr.allowed ∘ hq.allowed
  denied := hr.denied ∘ hq.denied
  reflectionAllowed := hr.reflectionAllowed.trans hq.reflectionAllowed
  iterationAllowed := hr.iterationAllowed.trans hq.iterationAllowed

theorem allowNamespace_extends (p : Policy) (namespaceName : String) :
    (p.allowNamespace namespaceName).Extends p :=
  ⟨isAllowed_insert rfl, id, rfl, rfl⟩

theorem denyName_extends (p : Policy) (name : String) : (p.denyName name).Extends p where
  allowed := id
  denied {other} hdenied := by
    have hinsert := p.denied.contains_insert name other
    exact hinsert.trans (Bool.or_eq_true_iff.2 (.inr hdenied))
  reflectionAllowed := rfl
  iterationAllowed := rfl

theorem withModule_extends (p : Policy) (m : Module) : (p.withModule m).Extends p :=
  ⟨isAllowed_insert rfl, id, rfl, rfl⟩

theorem withMember_extends (p : Policy) (m : Member) : (p.withMember m).Extends p :=
  ⟨isAllowed_insert rfl, id, rfl, rfl⟩

/-- Every policy that can be built extends the standard one. -/
theorem Built.extends_standard {p : Policy} (h : Built p) : p.Extends .standard := by
  induction h with
  | standard => exact .refl _
  | allowNamespace namespaceName _ ih => exact (allowNamespace_extends _ namespaceName).trans ih
  | denyName name _ ih => exact (denyName_extends _ name).trans ih
  | withModule m _ ih => exact (withModule_extends _ m).trans ih
  | withMember m _ ih => exact (withMember_extends _ m).trans ih

/-- No addition allows inspection of types. -/
theorem Built.reflectionAllowed {p : Policy} (h : Built p) : p.reflectionAllowed = false :=
  h.extends_standard.reflectionAllowed

/-- No addition allows iteration. -/
theorem Built.iterationAllowed {p : Policy} (h : Built p) : p.iterationAllowed = false :=
  h.extends_standard.iterationAllowed

theorem Built.namespacesAllowed {p : Policy} (h : Built p) :
    ∀ name ∈ standardNamespaces, p.isAllowed name = true := by
  have hstandard : ∀ name ∈ standardNamespaces, Policy.standard.isAllowed name = true := by
    decide +kernel
  exact fun name hname => h.extends_standard.allowed (hstandard name hname)

theorem Built.namesDenied {p : Policy} (h : Built p) :
    ∀ name ∈ standardDenied, p.isDenied name = true := by
  intro name hname
  refine h.extends_standard.denied ?_
  rw [standard_isDenied]
  exact List.contains_iff_mem.2 hname

/-! ## The registry -/

theorem allMembers_addModules (ms : List Module) (r : Registry) :
    (ms.foldl Registry.addModule r).allMembers = r.allMembers := by
  induction ms generalizing r with
  | nil => rfl
  | cons m rest ih => exact ih _

theorem allMembers_addMembers (ms : List Member) (r : Registry) :
    (ms.foldl Registry.addMember r).allMembers = r.allMembers ++ ms := by
  induction ms generalizing r with
  | nil => simp
  | cons m rest ih => simp [ih, Registry.addMember]

theorem modules_addMembers (ms : List Member) (r : Registry) :
    (ms.foldl Registry.addMember r).modules = r.modules := by
  induction ms generalizing r with
  | nil => rfl
  | cons m rest ih => exact ih _

theorem standard_allMembers : Registry.standard.allMembers = Catalog.standardMembers := by
  rw [Registry.standard, allMembers_addMembers, allMembers_addModules]
  rfl

/-- The standard modules have different tags, so none of them is merged into another. -/
theorem standard_modules : Registry.standard.modules = Catalog.standardModules := by
  rw [Registry.standard, modules_addMembers]
  rfl

/-- Registering a module brings its own tag and no other, also where it is merged. -/
theorem tag_of_mem_insertModule {m n : Module} {ms : List Module}
    (h : n ∈ Registry.insertModule m ms) : n.tag = m.tag ∨ ∃ k ∈ ms, n.tag = k.tag := by
  induction ms with
  | nil => exact .inl (congrArg Module.tag (List.mem_singleton.1 h))
  | cons k rest ih =>
    rw [Registry.insertModule] at h
    split at h
    -- a merged module keeps the tag that it had
    · rcases List.mem_cons.1 h with rfl | hn
      · exact .inr ⟨k, List.mem_cons_self, rfl⟩
      · exact .inr ⟨n, List.mem_cons_of_mem _ hn, rfl⟩
    · rcases List.mem_cons.1 h with rfl | hn
      · exact .inr ⟨n, List.mem_cons_self, rfl⟩
      · obtain htag | ⟨l, hl, htag⟩ := ih hn
        · exact .inl htag
        · exact .inr ⟨l, List.mem_cons_of_mem _ hl, htag⟩

/-- Every registered module belongs to an allowed namespace. -/
theorem Built.modulesAllowed {p : Policy} (h : Built p) :
    ∀ m ∈ p.registry.modules, p.isAllowed m.tag = true := by
  induction h with
  | standard =>
    have hallowed : ∀ m ∈ Catalog.standardModules, Policy.standard.isAllowed m.tag = true := by
      decide +kernel
    intro m hm
    exact hallowed m (standard_modules ▸ hm)
  | allowNamespace _ _ ih => exact fun m hm => isAllowed_insert rfl (ih m hm)
  | denyName _ _ ih => exact ih
  -- a new module brings its own namespace with it
  | withModule m _ ih =>
    intro n hn
    obtain htag | ⟨k, hk, htag⟩ := tag_of_mem_insertModule hn
    · rw [htag]
      exact isAllowed_insert_self rfl
    · rw [htag]
      exact isAllowed_insert rfl (ih k hk)
  | withMember _ _ ih => exact fun m hm => isAllowed_insert rfl (ih m hm)

/-- The members of the standard catalog belong to namespaces that the standard policy allows. -/
theorem standard_membersAllowed :
    ∀ m ∈ Catalog.standardMembers, Policy.standard.isAllowed m.module = true := by
  -- through the few tags that occur, so that no tag is looked up twice
  have htags : ∀ m ∈ Catalog.standardMembers, m.module ∈ [Catalog.stringTag, Catalog.dateTimeTag,
      Catalog.jsonTag, Catalog.sequenceTag, Catalog.objectTag] := by decide +kernel
  have hallowed : ∀ tag ∈ [Catalog.stringTag, Catalog.dateTimeTag, Catalog.jsonTag,
      Catalog.sequenceTag, Catalog.objectTag], Policy.standard.isAllowed tag = true := by
    decide +kernel
  exact fun m hm => hallowed _ (htags m hm)

/-- Every registered member belongs to an allowed namespace. -/
theorem Built.membersAllowed {p : Policy} (h : Built p) :
    ∀ m ∈ p.registry.allMembers, p.isAllowed m.module = true := by
  induction h with
  | standard =>
    intro m hm
    exact standard_membersAllowed m (standard_allMembers ▸ hm)
  | allowNamespace _ _ ih => exact fun m hm => isAllowed_insert rfl (ih m hm)
  | denyName _ _ ih => exact ih
  | withModule _ _ ih => exact fun m hm => isAllowed_insert rfl (ih m hm)
  -- a new member brings its own namespace with it
  | withMember _ _ ih =>
    intro n hn
    rcases List.mem_append.1 hn with hn | hn
    · exact isAllowed_insert rfl (ih n hn)
    · rw [List.mem_singleton.1 hn]
      exact isAllowed_insert_self rfl

end GatedPredicate.Policy
