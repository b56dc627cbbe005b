import GatedPredicate.Proofs.FirstOccurrences
import GatedPredicate.Proofs.Policy.Built
import Mathlib.Data.List.Induction

/-!
# Registrations

A registry comes from a run of registrations of modules and members. Two rules meet in it. Modules
of one tag are merged, and what a later one defines takes the place of what an earlier one did;
modules of different tags stay apart, and a lookup takes the one whose tag was registered first.

- `Registry.Registration`, `Registry.registerAll`: runs of registrations
- `Module.Collects`, `Module.Collects.merge`: what the modules of one tag become
- `Registry.merged`, `Registry.merged_collects`: what modules of any tags become
- `Registry.Earliest`: the module that a lookup takes
- `Registry.Reflects`, `Registry.registerAll_reflects`: all that can be seen of a registry after a
  run
-/

namespace GatedPredicate

/-! ## Modules of one tag -/

namespace Module

/-- The aliases given to modules of one tag: those of the first module, and then all others at their
first occurrence. -/
def collectedAliases : List Module → List String
  | [] => []
  | first :: later =>
    first.aliases ++
      ((later.flatMap aliases).filter fun a => !first.aliases.contains a).eraseDups

/-- What is found in the last of the modules in which anything is found. -/
def last? {β : Type} (look : Module → Option β) (parts : List Module) : Option β :=
  parts.reverse.findSome? look

/-- `m` is what the modules `parts` have become, which share its tag and are in order of
registration. -/
structure Collects (m : Module) (parts : List Module) : Prop where
  /-- A function is the one of the last module that defines its name, with all its overloads. -/
  function? (name : String) : m.function? name = last? (·.function? name) parts
  constant? (name : String) : m.constant? name = last? (·.constant? name) parts
  aliases : m.aliases = collectedAliases parts
  imported : m.imported = parts.any Module.imported

variable {m : Module} {parts : List Module}

theorem foldl_addAlias (added kept : List String) :
    added.foldl addAlias kept =
      kept ++ (added.filter fun a => !kept.contains a).eraseDups := by
  have hany (xs : List String) (x : String) : xs.contains x = xs.any (· == x) := by
    rw [List.contains_eq_any_beq]
    congr 1
    funext y
    exact Bool.beq_comm
  have hfold : addAlias = fun xs x => if xs.any (· == x) then xs else xs ++ [x] := by
    funext xs x
    rw [addAlias, hany]
  have hcomm (x y : String) : (x == y) = (y == x) := Bool.beq_comm
  rw [hfold, foldl_addNew hcomm]
  simp only [hany]
  rfl

/-- One more module adds the aliases that are new. -/
theorem collectedAliases_concat (hparts : parts ≠ []) (later : Module) :
    collectedAliases (parts ++ [later]) =
      later.aliases.foldl addAlias (collectedAliases parts) := by
  obtain ⟨first, rest, rfl⟩ := List.exists_cons_of_ne_nil hparts
  simp only [List.cons_append, collectedAliases, ← foldl_addAlias, List.flatMap_append,
    List.foldl_append, List.flatMap_singleton]

theorem mem_collectedAliases {name : String} :
    name ∈ collectedAliases parts ↔ ∃ k ∈ parts, name ∈ k.aliases := by
  cases parts with
  | nil => simp [collectedAliases]
  | cons first later =>
    by_cases hfirst : name ∈ first.aliases
    · simp [collectedAliases, hfirst]
    · simp [collectedAliases, hfirst]

theorem last?_concat {β : Type} (look : Module → Option β) (later : Module) :
    last? look (parts ++ [later]) = (look later).or (last? look parts) := by
  rw [last?, last?, List.reverse_concat, List.findSome?_cons]
  cases look later <;> rfl

theorem isSome_last? {β : Type} {look : Module → Option β} :
    (last? look parts).isSome = true ↔ ∃ k ∈ parts, (look k).isSome = true := by
  rw [last?, List.findSome?_isSome_iff]
  simp only [List.mem_reverse]

theorem Collects.single (m : Module) : m.Collects [m] where
  function? name := by simp [last?]
  constant? name := by simp [last?]
  aliases := by simp [collectedAliases]
  imported := by simp

/-- A later module of the same tag comes last. -/
theorem Collects.merge (h : m.Collects parts) (hparts : parts ≠ []) (later : Module) :
    (m.merge later).Collects (parts ++ [later]) where
  function? name := by
    rw [last?_concat, ← h.function?]
    exact List.find?_append
  constant? name := by
    rw [last?_concat, ← h.constant?]
    -- the value is taken out of the entry that is found, on either side
    exact (congrArg _ List.find?_append).trans Option.map_or
  aliases := by
    rw [collectedAliases_concat hparts, ← h.aliases]
    rfl
  imported := by
    rw [List.any_append, ← h.imported]
    simp [Module.merge]

/-- A module goes by its tag and by the aliases given to any of its parts. -/
theorem Collects.isNamed (h : m.Collects parts) {name : String} :
    m.isNamed name = true ↔ m.tag = name ∨ ∃ k ∈ parts, name ∈ k.aliases := by
  rw [Module.isNamed, Bool.or_eq_true, beq_iff_eq, List.contains_iff_mem, h.aliases,
    mem_collectedAliases]

end Module

namespace Registry

/-! ## Modules of any tags -/

/-- The modules of a tag. -/
def tagged (ms : List Module) (tag : String) : List Module :=
  ms.filter (·.tag == tag)

/-- What modules become that are registered one after the other. -/
def merged (ms : List Module) : List Module :=
  ms.foldl (fun registered m => insertModule m registered) []

theorem mem_tagged {k : Module} {ms : List Module} {tag : String} :
    k ∈ tagged ms tag ↔ k ∈ ms ∧ k.tag = tag := by
  rw [tagged, List.mem_filter, beq_iff_eq]

theorem merged_concat (ms : List Module) (m : Module) :
    merged (ms ++ [m]) = insertModule m (merged ms) :=
  List.foldl_concat ..

/-- Registering a module adds its tag at the end, unless the tag is there. -/
theorem tags_insertModule (m : Module) (ms : List Module) :
    (insertModule m ms).map Module.tag = Module.addAlias (ms.map Module.tag) m.tag := by
  induction ms with
  | nil => rfl
  | cons n rest ih =>
    rw [insertModule]
    by_cases h : n.tag = m.tag
    · simp [Module.addAlias, Module.merge, h]
    · rw [if_neg (by simpa using h), List.map_cons, ih, Module.addAlias, Module.addAlias,
        List.map_cons, List.contains_cons, beq_eq_false_iff_ne.2 (Ne.symm h), Bool.false_or]
      split <;> rfl

/-- Tags are in the order of their first registration. -/
theorem tags_merged (ms : List Module) :
    (merged ms).map Module.tag = (ms.map Module.tag).eraseDups := by
  have hfold : (merged ms).map Module.tag = (ms.map Module.tag).foldl Module.addAlias [] := by
    induction ms using List.reverseRecOn with
    | nil => rfl
    | append_singleton ms m ih =>
      rw [merged_concat, tags_insertModule, ih, List.map_append, List.foldl_append]
      rfl
  rw [hfold, Module.foldl_addAlias]
  simp

theorem nodup_tags_merged (ms : List Module) : ((merged ms).map Module.tag).Nodup :=
  tags_merged ms ▸ nodup_eraseDups _

/-- Where tags are different, a registration leaves all modules of other tags alone. -/
theorem insertModule_cases {m n : Module} {ms : List Module} (hms : (ms.map Module.tag).Nodup)
    (h : n ∈ insertModule m ms) :
    (n ∈ ms ∧ n.tag ≠ m.tag) ∨ (∃ k ∈ ms, k.tag = m.tag ∧ n = k.merge m) ∨
      (n = m ∧ ∀ k ∈ ms, k.tag ≠ m.tag) := by
  induction ms with
  | nil => exact .inr (.inr ⟨List.mem_singleton.1 h, nofun⟩)
  | cons k rest ih =>
    rw [List.map_cons, List.nodup_cons] at hms
    rw [insertModule] at h
    split at h
    · rename_i htag
      rw [beq_iff_eq] at htag
      rcases List.mem_cons.1 h with rfl | hn
      · exact .inr (.inl ⟨k, List.mem_cons_self, htag, rfl⟩)
      · -- a second module with the tag would be a repetition
        refine .inl ⟨List.mem_cons_of_mem _ hn, fun hsame => hms.1 ?_⟩
        rw [htag, ← hsame]
        exact List.mem_map_of_mem hn
    · rename_i htag
      rw [beq_iff_eq] at htag
      rcases List.mem_cons.1 h with rfl | hn
      · exact .inl ⟨List.mem_cons_self, htag⟩
      · rcases ih hms.2 hn with ⟨hold, hother⟩ | ⟨l, hl, hmerge⟩ | ⟨hnew, hnone⟩
        · exact .inl ⟨List.mem_cons_of_mem _ hold, hother⟩
        · exact .inr (.inl ⟨l, List.mem_cons_of_mem _ hl, hmerge⟩)
        · exact .inr (.inr ⟨hnew, List.forall_mem_cons.2 ⟨htag, hnone⟩⟩)

/-- A tag is there if a module of the tag has been registered. -/
theorem exists_merged_iff {ms : List Module} {tag : String} :
    (∃ n ∈ merged ms, n.tag = tag) ↔ tagged ms tag ≠ [] := by
  have htags : tag ∈ (merged ms).map Module.tag ↔ tag ∈ ms.map Module.tag := by
    rw [tags_merged, List.mem_eraseDups]
  rw [List.mem_map, List.mem_map] at htags
  rw [htags, Ne, List.eq_nil_iff_forall_not_mem]
  simp [mem_tagged]

/-- Every module is what the modules of its tag have become. -/
theorem merged_collects (ms : List Module) : ∀ n ∈ merged ms, n.Collects (tagged ms n.tag) := by
  induction ms using List.reverseRecOn with
  | nil => exact nofun
  | append_singleton ms m ih =>
    intro n hn
    have happend (tag : String) : tagged (ms ++ [m]) tag = tagged ms tag ++ tagged [m] tag :=
      List.filter_append ..
    rw [merged_concat] at hn
    rcases insertModule_cases (nodup_tags_merged ms) hn with
      ⟨hold, hother⟩ | ⟨k, hk, htag, rfl⟩ | ⟨rfl, hnew⟩
    · have hnone : tagged [m] n.tag = [] := by simp [tagged, Ne.symm hother]
      rw [happend, hnone, List.append_nil]
      exact ih n hold
    · have hone : tagged [m] k.tag = [m] := by simp [tagged, htag]
      have hparts : tagged ms k.tag ≠ [] := exists_merged_iff.1 ⟨k, hk, rfl⟩
      have hmerge := (ih k hk).merge hparts m
      rwa [← hone, ← happend] at hmerge
    · have hnone : tagged ms n.tag = [] := by
        by_contra hsome
        obtain ⟨k, hk, htag⟩ := exists_merged_iff.2 hsome
        exact hnew k hk htag
      have hone : tagged [n] n.tag = [n] := by simp [tagged]
      rw [happend, hnone, hone]
      exact .single n

/-! ## Lookups -/

/-- The tag is `name`, or a module of the tag has been given the alias. -/
def IsNamed (ms : List Module) (name tag : String) : Prop :=
  tag = name ∨ ∃ k ∈ tagged ms tag, name ∈ k.aliases

/-- A module of the tag was imported, and one of them has what is looked for. -/
def Imports {β : Type} (ms : List Module) (look : Module → Option β) (tag : String) : Prop :=
  (∃ k ∈ tagged ms tag, k.imported = true) ∧ ∃ k ∈ tagged ms tag, (look k).isSome = true

/-- `m` is the module whose tag was registered before all others with the property. -/
def Earliest (r : Registry) (P : String → Prop) (m : Module) : Prop :=
  ∃ before after, r.modules = before ++ m :: after ∧ P m.tag ∧ ∀ n ∈ before, ¬ P n.tag

section Lookups

variable {r : Registry} {ms : List Module} {m : Module} {name : String}

/-- A property of tags may be replaced by one of the modules themselves. -/
theorem earliest_iff {P : String → Prop} {Q : Module → Prop}
    (h : ∀ n ∈ r.modules, Q n ↔ P n.tag) :
    r.Earliest P m ↔
      ∃ before after, r.modules = before ++ m :: after ∧ Q m ∧ ∀ n ∈ before, ¬ Q n := by
  refine exists_congr fun before => exists_congr fun after => and_congr_right fun hsplit => ?_
  rw [hsplit] at h
  have hm := h m (List.mem_append_right _ List.mem_cons_self)
  have hbefore : ∀ n ∈ before, (Q n ↔ P n.tag) := fun n hn => h n (List.mem_append_left _ hn)
  exact and_congr hm.symm (forall₂_congr fun n hn => not_congr (hbefore n hn).symm)

theorem module?_eq_some (hr : r.modules = merged ms) :
    r.module? name = some m ↔ r.Earliest (IsNamed ms name) m := by
  rw [earliest_iff fun n hn => (merged_collects ms n (hr ▸ hn)).isNamed, module?,
    List.find?_eq_some_iff_append]
  simp only [Bool.not_eq_true', Bool.not_eq_true]
  constructor
  · rintro ⟨hm, before, after, hsplit, hbefore⟩
    exact ⟨before, after, hsplit, hm, hbefore⟩
  · rintro ⟨before, after, hsplit, hm, hbefore⟩
    exact ⟨hm, before, after, hsplit, hbefore⟩

/-- Lookups of functions and of constants go through the imported modules in the same way. -/
theorem findImported_eq_some {β : Type} {look : Module → Option β} {b : β}
    (hr : r.modules = merged ms)
    (hlook : ∀ n parts, n.Collects parts → look n = Module.last? look parts) :
    (r.importedModules.findSome? fun k => (look k).map (k, ·)) = some (m, b) ↔
      r.Earliest (Imports ms look) m ∧ look m = some b := by
  have hfilter : (r.importedModules.findSome? fun k => (look k).map (k, ·)) =
      r.modules.findSome? fun k => if k.imported then (look k).map (k, ·) else none := by
    rw [importedModules, ← List.head?_filterMap, List.filterMap_filter, List.head?_filterMap]
  have himports : ∀ n ∈ r.modules,
      (n.imported = true ∧ (look n).isSome = true) ↔ Imports ms look n.tag := by
    intro n hn
    have hn := merged_collects ms n (hr ▸ hn)
    rw [hlook n _ hn, Module.isSome_last?, hn.imported, List.any_eq_true, Imports]
  rw [hfilter, List.findSome?_eq_some_iff, earliest_iff himports]
  constructor
  · rintro ⟨before, k, after, hsplit, hk, hbefore⟩
    obtain ⟨himported, hk⟩ : k.imported = true ∧ (look k).map (k, ·) = some (m, b) := by
      simpa using hk
    obtain ⟨c, hc, hpair⟩ := Option.map_eq_some_iff.1 hk
    obtain ⟨rfl, rfl⟩ := Prod.mk.inj hpair
    refine ⟨⟨before, after, hsplit, ⟨himported, by rw [hc]; rfl⟩, ?_⟩, hc⟩
    rintro n hn ⟨hni, hns⟩
    have hnone := hbefore n hn
    rw [if_pos hni, Option.map_eq_none_iff] at hnone
    rw [hnone] at hns
    cases hns
  · rintro ⟨⟨before, after, hsplit, ⟨himported, -⟩, hbefore⟩, hb⟩
    refine ⟨before, m, after, hsplit, by rw [if_pos himported, hb]; rfl, fun n hn => ?_⟩
    by_cases hni : n.imported = true
    · have hnone := Option.not_isSome_iff_eq_none.1 fun hns => hbefore n hn ⟨hni, hns⟩
      rw [if_pos hni, hnone]
      rfl
    · exact if_neg hni

end Lookups

/-! ## Runs of registrations -/

/-- A registration of a module or of a member. -/
inductive Registration where
  | module (m : Module)
  | member (m : Member)

/-- The module that is registered, if it is one. -/
def Registration.module? : Registration → Option Module
  | .module m => some m
  | .member _ => none

/-- The member that is registered, if it is one. -/
def Registration.member? : Registration → Option Member
  | .module _ => none
  | .member m => some m

/-- Carries out a registration. -/
def register (r : Registry) : Registration → Registry
  | .module m => r.addModule m
  | .member m => r.addMember m

/-- Carries out registrations from the first to the last. -/
def registerAll (r : Registry) (rs : List Registration) : Registry :=
  rs.foldl register r

theorem modules_registerAll (r : Registry) (rs : List Registration) :
    (r.registerAll rs).modules = (rs.filterMap Registration.module?).foldl
      (fun registered m => insertModule m registered) r.modules := by
  induction rs generalizing r with
  | nil => rfl
  | cons first rest ih =>
    rw [registerAll, List.foldl_cons, ← registerAll, ih]
    cases first <;> rfl

theorem allMembers_registerAll (r : Registry) (rs : List Registration) :
    (r.registerAll rs).allMembers = r.allMembers ++ rs.filterMap Registration.member? := by
  induction rs generalizing r with
  | nil => exact (List.append_nil _).symm
  | cons first rest ih =>
    rw [registerAll, List.foldl_cons, ← registerAll, ih]
    cases first with
    | module m => rfl
    | member m => exact List.append_assoc ..

/-- What can be seen of a registry is decided by the modules `ms` and the members that have been
registered, in order of registration. -/
structure Reflects (r : Registry) (ms : List Module) (members : List Member) : Prop where
  /-- Tags are in the order of their first registration, each once. -/
  tags : r.modules.map Module.tag = (ms.map Module.tag).eraseDups
  nodup_tags : (r.modules.map Module.tag).Nodup
  /-- A module has the last definition of each name that its tag was registered with, and all
  aliases. -/
  collects : ∀ m ∈ r.modules, m.Collects (tagged ms m.tag)
  /-- Between modules of different tags the earliest counts. -/
  module?_iff : ∀ name m, r.module? name = some m ↔ r.Earliest (IsNamed ms name) m
  importedFunction?_iff : ∀ name m f, r.importedFunction? name = some (m, f) ↔
    r.Earliest (Imports ms (·.function? name)) m ∧ m.function? name = some f
  importedConstant?_iff : ∀ name m v, r.importedConstant? name = some (m, v) ↔
    r.Earliest (Imports ms (·.constant? name)) m ∧ m.constant? name = some v
  /-- Members of one name are in order of registration. -/
  members_eq : ∀ name, r.members name = members.filter (·.name == name)

/-- The standard modules have different tags and stay as they are. -/
theorem standard_merged : Registry.standard.modules = merged Registry.standard.modules := by
  rw [Policy.standard_modules]
  rfl

/-- Whatever is registered beyond nothing or the standard catalog, and in whatever order, the
registry reflects all registrations. -/
theorem registerAll_reflects {start : Registry} (hstart : start = empty ∨ start = standard)
    (rs : List Registration) :
    (start.registerAll rs).Reflects (start.modules ++ rs.filterMap Registration.module?)
      (start.allMembers ++ rs.filterMap Registration.member?) := by
  have hfirst : start.modules = merged start.modules := by
    rcases hstart with rfl | rfl
    · rfl
    · exact standard_merged
  have hr : (start.registerAll rs).modules =
      merged (start.modules ++ rs.filterMap Registration.module?) := by
    rw [modules_registerAll, merged, List.foldl_append, ← merged, ← hfirst]
  constructor
  case tags => rw [hr, tags_merged]
  case nodup_tags => exact hr ▸ nodup_tags_merged _
  case collects => exact hr ▸ merged_collects _
  case module?_iff => exact fun name m => module?_eq_some hr
  case importedFunction?_iff =>
    exact fun name m f => findImported_eq_some hr fun n parts h => h.function? name
  case importedConstant?_iff =>
    exact fun name m v => findImported_eq_some hr fun n parts h => h.constant? name
  case members_eq => exact fun name => by rw [members, allMembers_registerAll]

/-- A host registers a module of its own under the alias `Math` and then extends the standard one.
That is still the one that is found, and its `Abs` is the new one, without any overloads. -/
theorem registerAll_reflects_math :
    let own : Module := ⟨"Acme.Math", ["Math"], true, [], [("PI", .int 4)]⟩
    let extension : Module := ⟨"System.Math", ["M", "Math"], false, [⟨"Abs", []⟩], []⟩
    let r := standard.registerAll [.module own, .module extension]
    ∃ m, r.module? "Math" = some m ∧ m.tag = "System.Math" ∧ m.aliases = ["Math", "M"] ∧
      m.imported = true ∧ m.function? "Abs" = some ⟨"Abs", []⟩ ∧
      (r.modules.map Module.tag).getLast? = some "Acme.Math" := by
  intro own extension r
  let ms : List Module := Catalog.standardModules ++ [own, extension]
  have h : r.Reflects ms (standard.allMembers ++ []) := by
    have hall := registerAll_reflects (.inr rfl) [.module own, .module extension]
    rwa [Policy.standard_modules] at hall
  have htags : r.modules.map Module.tag =
      Catalog.standardModules.map Module.tag ++ ["Acme.Math"] :=
    h.tags.trans (by decide +kernel)
  -- the first tag belongs to the first module, and none stands before that
  obtain ⟨m, rest, hmodules, htag, -⟩ := List.map_eq_cons_iff.1 htags
  have hm := h.collects m (hmodules ▸ List.mem_cons_self)
  have hnamed : IsNamed ms "Math" m.tag :=
    .inr ⟨extension, mem_tagged.2 ⟨by simp [ms], htag.symm⟩, by decide⟩
  have hfound : r.Earliest (IsNamed ms "Math") m := ⟨[], rest, hmodules, hnamed, nofun⟩
  rw [htag] at hm
  refine ⟨m, (h.module?_iff _ _).2 hfound, htag, ?_, ?_, ?_, ?_⟩
  · exact hm.aliases.trans (by decide +kernel)
  · exact hm.imported.trans (by decide +kernel)
  · exact hm.function? "Abs"
  · rw [htags]
    exact List.getLast?_concat ..

end Registry

end GatedPredicate
