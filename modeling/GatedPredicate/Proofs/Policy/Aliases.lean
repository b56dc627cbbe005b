import GatedPredicate.Proofs.Policy.Forbidden
import GatedPredicate.Proofs.Text.Numerals

/-!
# Modules that a chain names

The check and the resolver read a chain of names in two ways. The check replaces an alias in the
first segment and asks whether the path lies below an allowed namespace; the resolver looks a whole
beginning of the chain up as a tag or an alias. Where no alias has a dot the check is never the
stricter of the two: what begins with the name of a registered module is allowed, also where the
first segment of one module's tag is an alias of another.

- `isBelow_iff`, `isBelow_trans`, `isBelow_intercalate`: paths and their beginnings
- `Registry.expandAlias_cases`: an alias is replaced, or no module has it
- `Policy.Built.isAllowed_expandAlias`: a path that begins with the name of a module
- `Policy.named_modules_pass`
-/

namespace GatedPredicate

open GatedPredicate.Syntax GatedPredicate.Text

/-! ## Paths and their beginnings -/

/-- A path lies below an entry if it goes on with nothing, or with a dot. -/
theorem isBelow_iff {entry path : String} :
    isBelow entry path = true ↔
      ∃ rest, path.toList = entry.toList ++ rest ∧ ∀ c ∈ rest.head?, c = '.' := by
  rw [isBelow, Bool.and_eq_true, List.isPrefixOf_iff_prefix]
  constructor
  · rintro ⟨⟨rest, hrest⟩, hdot⟩
    rw [← hrest, List.drop_left, Option.all_eq_true] at hdot
    exact ⟨rest, hrest.symm, fun c hc => eq_of_beq (hdot c hc)⟩
  · rintro ⟨rest, hrest, hdot⟩
    rw [hrest, List.drop_left, Option.all_eq_true]
    exact ⟨List.prefix_append _ _, fun c hc => beq_iff_eq.2 (hdot c hc)⟩

theorem isBelow_trans {a b c : String} (hab : isBelow a b = true) (hbc : isBelow b c = true) :
    isBelow a c = true := by
  obtain ⟨r, hr, hrdot⟩ := isBelow_iff.1 hab
  obtain ⟨s, hs, hsdot⟩ := isBelow_iff.1 hbc
  refine isBelow_iff.2 ⟨r ++ s, by rw [hs, hr, List.append_assoc], ?_⟩
  cases r with
  | nil => exact hsdot
  | cons d more => exact hrdot

/-- A path of segments lies below each of its beginnings. -/
theorem isBelow_intercalate {segments : List String} {k : Nat} (hk : 0 < k) :
    isBelow (".".intercalate (segments.take k)) (".".intercalate segments) = true := by
  rw [isBelow_iff, String.toList_intercalate, String.toList_intercalate, List.map_take]
  generalize segments.map String.toList = parts
  induction parts generalizing k with
  | nil => exact ⟨[], by simp⟩
  | cons part parts ih =>
    obtain ⟨k, rfl⟩ := Nat.exists_eq_succ_of_ne_zero hk.ne'
    cases parts with
    | nil => exact ⟨[], by simp⟩
    | cons next parts =>
      cases k with
      | zero => exact ⟨'.' :: ['.'].intercalate (next :: parts), by simp⟩
      | succ k =>
        obtain ⟨rest, hrest, hdot⟩ := ih (Nat.succ_pos k)
        refine ⟨rest, ?_, hdot⟩
        simp only [List.take_succ_cons] at hrest ⊢
        rw [List.intercalate_cons_cons, List.intercalate_cons_cons, hrest, ← List.append_assoc]

/-- Up to the first dot a path that lies below an entry without dots is that entry. -/
theorem takeWhile_of_isBelow {entry path : String} (h : isBelow entry path = true)
    (hdots : '.' ∉ entry.toList) : path.toList.takeWhile (· != '.') = entry.toList := by
  obtain ⟨rest, hrest, hdot⟩ := isBelow_iff.1 h
  have hentry : ∀ c ∈ entry.toList, (c != '.') = true := by
    intro c hc
    rw [bne_iff_ne]
    rintro rfl
    exact hdots hc
  rw [hrest]
  exact takeWhile_until hentry fun c hc => by rw [hdot c hc]; rfl

/-! ## Aliases -/

/-- A path with an alias in its first segment becomes one below the tag; a path that has none is
left alone. -/
theorem Registry.expandAlias_cases (r : Registry) (path : String) :
    (∃ m ∈ r.modules, isBelow m.tag (r.expandAlias path) = true) ∨
      (r.expandAlias path = path ∧
        ∀ m ∈ r.modules, String.ofList (path.toList.takeWhile (· != '.')) ∉ m.aliases) := by
  unfold expandAlias
  dsimp only
  cases hfind : r.modules.find? fun m =>
      m.aliases.contains (String.ofList (path.toList.takeWhile (· != '.'))) with
  | some m =>
    refine .inl ⟨m, List.mem_of_find?_eq_some hfind, isBelow_iff.2 ⟨_, String.toList_append, ?_⟩⟩
    intro c hc
    rw [String.toList_ofList] at hc
    exact bne_eq_false_iff_eq.1 (head_dropWhile _ _ c hc)
  | none => exact .inr ⟨rfl, fun m hm => by simpa using List.find?_eq_none.1 hfind m hm⟩

namespace Policy

variable {p : Policy} {path : String}

/-- What lies below an allowed namespace is allowed. -/
theorem isAllowed_of_isBelow {entry : String} (h : isBelow entry path = true)
    (hentry : p.isAllowed entry = true) : p.isAllowed path = true := by
  rw [isAllowed, List.any_eq_true] at hentry ⊢
  obtain ⟨e, he, hbelow⟩ := hentry
  exact ⟨e, he, isBelow_trans hbelow h⟩

/-- No alias of a registered module has a dot. -/
def PlainAliases (p : Policy) : Prop :=
  ∀ m ∈ p.registry.modules, ∀ name ∈ m.aliases, '.' ∉ name.toList

/-- With its alias replaced, a path that begins with the name of a registered module is allowed. It
may have come to lie below another module, whose alias its first segment is. -/
theorem Built.isAllowed_expandAlias (hp : p.Built) (hplain : p.PlainAliases) {m : Module}
    (hm : m ∈ p.registry.modules) {name : String} (hname : m.isNamed name = true)
    (hbelow : isBelow name path = true) : p.isAllowed (p.registry.expandAlias path) = true := by
  obtain ⟨n, hn, htag⟩ | ⟨hsame, hnone⟩ := p.registry.expandAlias_cases path
  · exact isAllowed_of_isBelow htag (hp.modulesAllowed n hn)
  · rw [hsame]
    rw [Module.isNamed, Bool.or_eq_true, beq_iff_eq, List.contains_iff_mem] at hname
    obtain rfl | halias := hname
    · exact isAllowed_of_isBelow hbelow (hp.modulesAllowed m hm)
    · -- an alias without dots is the first segment, and would have been replaced
      have hfirst := takeWhile_of_isBelow hbelow (hplain m hm name halias)
      have hmissing := hnone m hm
      rw [hfirst, String.ofList_toList] at hmissing
      exact absurd halias hmissing

end Policy

/-! ## Chains -/

/-- The node at `x` is a whole chain of names, and a proper beginning of it is the tag or an alias
of a registered module. -/
structure Place.NamesModule (x : Place) (p : Policy) (path : List String) : Prop where
  whole : x.accessed = false
  chain : x.expr.dottedPath? = some path
  beginning : ∃ k, 0 < k ∧ k < path.length ∧
    ∃ m ∈ p.registry.modules, m.isNamed (".".intercalate (path.take k)) = true

namespace Policy

variable {p : Policy} {path : List String}

/-- The namespace a chain refers to is allowed if the chain begins with the name of a module. -/
theorem Built.isAllowed_namespace (hp : p.Built) (hplain : p.PlainAliases) {x : Place}
    (h : x.NamesModule p path) :
    p.isAllowed (p.registry.expandAlias (".".intercalate path.dropLast)) = true := by
  obtain ⟨k, hk, hlength, m, hm, hname⟩ := h.beginning
  -- a proper beginning of the chain is one of its namespace as well
  have hbeginning : path.dropLast.take k = path.take k := by
    rw [List.dropLast_eq_take, List.take_take, Nat.min_eq_left (by omega)]
  exact hp.isAllowed_expandAlias hplain hm hname (hbeginning ▸ isBelow_intercalate hk)

/-- What a node refers to and must not is not allowed. -/
theorem Offends.isAllowed_eq_false {schema : Schema} {x : Place} {n : String}
    (h : p.Offends schema x (.disallowedNamespace n)) : p.isAllowed n = false := by
  cases h with
  | namespaceChain _ _ _ _ _ _ hrefused => exact hrefused

/-- Namespaces are reported under every policy. -/
theorem reports_disallowedNamespace (p : Policy) (n : String) :
    p.Reports (.disallowedNamespace n) := by
  intro h
  cases h

/-- The walk finds nothing against the namespace of a chain if that is allowed. -/
theorem disallowedNamespace_not_mem {schema : Schema} {scope : List String} (n : String)
    (h : p.isAllowed (p.registry.expandAlias (".".intercalate path.dropLast)) = true) :
    .disallowedNamespace n ∉ p.chainViolations schema scope path := by
  have hreports := p.reports_disallowedNamespace n
  have hnames : .disallowedNamespace n ∉ path.flatMap p.nameViolations := by
    simp [List.mem_flatMap, mem_nameViolations hreports]
  have hnamespace : .disallowedNamespace n ∉ p.namespaceViolations path := by
    simp [mem_namespaceViolations, h]
  cases path with
  | nil =>
    rw [chainViolations.eq_1]
    exact List.not_mem_nil
  | cons first rest =>
    rw [chainViolations.eq_2, List.mem_append, not_or]
    refine ⟨hnames, ?_⟩
    split
    · exact List.not_mem_nil
    · exact hnamespace

/-- Where no alias has a dot, a chain of names that begins with the name of a registered module is
never refused for its namespace: the walk finds nothing of the kind in the chain, its node does not
offend, and the namespace that it refers to is in no report on the tree that it stands in. -/
theorem named_modules_pass (hp : p.Built) (hplain : p.PlainAliases) (schema : Schema) {x : Place}
    (h : x.NamesModule p path) :
    (∀ n, .disallowedNamespace n ∉ p.chainViolations schema x.scope path) ∧
      (∀ n, ¬ p.Offends schema x (.disallowedNamespace n)) ∧
      ∀ tree, (Place.root tree).Holds x →
        .disallowedNamespace (p.registry.expandAlias (".".intercalate path.dropLast)) ∉
          p.check schema tree := by
  have hallowed := hp.isAllowed_namespace hplain h
  refine ⟨fun n => disallowedNamespace_not_mem n hallowed, fun n hoffends => ?_,
    fun tree _ hn => ?_⟩
  · cases hoffends with
    | namespaceChain _ hpath _ _ _ _ hrefused =>
      obtain rfl := Option.some.inj (h.chain.symm.trans hpath)
      rw [hallowed] at hrefused
      cases hrefused
  · -- no other chain can be refused for the same namespace either
    have hreports := p.reports_disallowedNamespace
      (p.registry.expandAlias (".".intercalate path.dropLast))
    obtain ⟨y, -, hoffends⟩ := (mem_check hreports tree).1 hn
    rw [hoffends.isAllowed_eq_false] at hallowed
    cases hallowed

/-- The first segment of the tag `Math.Extra` is an alias of another module. -/
theorem named_modules_pass_shared :
    let p := Policy.standard.withModule (Module.empty "Math.Extra")
    let tree : Expr Mark := .member ⟨3, 0, 14⟩
      (.member ⟨2, 0, 10⟩ (.ident ⟨1, 0, 4⟩ "Math") "Extra") "Twice"
    p.Built ∧ p.PlainAliases ∧ (Place.root tree).NamesModule p ["Math", "Extra", "Twice"] ∧
      .disallowedNamespace "System.Math.Extra" ∉ p.check .standard tree := by
  intro p tree
  have hmodules : p.registry.modules =
      Registry.insertModule (Module.empty "Math.Extra") Catalog.standardModules :=
    congrArg (Registry.insertModule (Module.empty "Math.Extra")) standard_modules
  have hbuilt : p.Built := .withModule _ .standard
  have hplain : p.PlainAliases := by
    rw [PlainAliases, hmodules]
    decide +kernel
  have hnames : (Place.root tree).NamesModule p ["Math", "Extra", "Twice"] := by
    refine ⟨rfl, rfl, 2, by decide, by decide, ?_⟩
    rw [hmodules]
    exact List.any_eq_true.1 (by decide +kernel)
  have hexpanded : p.registry.expandAlias "Math.Extra" = "System.Math.Extra" := by
    unfold Registry.expandAlias
    rw [hmodules]
    decide +kernel
  obtain ⟨-, -, hreport⟩ := named_modules_pass hbuilt hplain .standard hnames
  have hpass := hreport tree (.self _)
  have htarget : ".".intercalate ["Math", "Extra", "Twice"].dropLast = "Math.Extra" := rfl
  rw [htarget, hexpanded] at hpass
  exact ⟨hbuilt, hplain, hnames, hpass⟩

end Policy

end GatedPredicate
