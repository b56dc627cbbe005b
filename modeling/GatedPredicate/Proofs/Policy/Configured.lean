import GatedPredicate.Policy.Config
import GatedPredicate.Proofs.Json.RoundTrip
import GatedPredicate.Proofs.Policy.Built
import GatedPredicate.Proofs.Syntax.Mention

/-!
# Configurations are loaded as they were written

The JSON text of a configuration holds all of it: loading the text gives the same configuration
again, absent, null and empty values each as they were. Only names that are not well formed are in
the way, and then loading reports the first of them: of the namespaces, else of the denied names,
else of the bags.

- `NameSet.ofList_names`: a set is read back from its elements
- `Config.ofJson?_toJson`, `Config.read?_toJson`: all values are read back, whatever their names
- `Config.IsIdentifier`, `Config.IsDotted`: well-formed names
- `Config.WellFormed`, `Config.FirstFault`: what the check of names is about
- `Policy.allowed_ofConfig`, `Policy.isDenied_ofConfig`: what a configuration adds to the standard
  policy
- `Config.load_toJson`: the round trip
-/

namespace GatedPredicate

open GatedPredicate.Text

/-! ## Sets of names -/

/-- A name above all others goes to the end. -/
theorem insertName_append {name : String} {names : List String} (h : ∀ n ∈ names, n < name) :
    insertName name names = names ++ [name] := by
  induction names with
  | nil => rfl
  | cons n rest ih =>
    have hn : n < name := h n List.mem_cons_self
    have hnot : ¬ name < n := String.lt_asymm hn
    have hne : name ≠ n := fun heq => String.lt_irrefl n (heq ▸ hn)
    rw [insertName, if_neg hnot, if_neg hne, ih fun m hm => h m (List.mem_cons_of_mem _ hm)]
    rfl

namespace NameSet

/-- Names that go on increasing are appended one by one. -/
theorem names_foldl_insert (rest : List String) (s : NameSet)
    (h : (s.names ++ rest).Pairwise (· < ·)) :
    (rest.foldl insert s).names = s.names ++ rest := by
  induction rest generalizing s with
  | nil => exact (List.append_nil _).symm
  | cons name rest ih =>
    have hbelow : ∀ n ∈ s.names, n < name := fun n hn =>
      (List.pairwise_append.1 h).2.2 n hn name List.mem_cons_self
    have hinsert : (s.insert name).names = s.names ++ [name] := insertName_append hbelow
    have hshift : s.names ++ name :: rest = (s.insert name).names ++ rest := by
      rw [hinsert, List.append_assoc, List.singleton_append]
    rw [hshift] at h ⊢
    exact ih _ h

theorem ofList_names (s : NameSet) : ofList s.names = s := by
  obtain ⟨names, sorted⟩ := s
  have hnames := names_foldl_insert names empty sorted
  rw [NameSet.mk.injEq]
  exact hnames

end NameSet

namespace Config

/-! ## Reading what is written -/

section Lists

variable {α : Type} {read? : Json → Option α} {write : α → Json}

/-- Whoever reads items back reads their lists back. -/
theorem listOf?_map (h : ∀ x, read? (write x) = some x) (xs : List α) :
    listOf? read? (.array (xs.map write)) = some xs := by
  rw [listOf?]
  induction xs with
  | nil => rfl
  | cons x rest ih => rw [List.map_cons, List.mapM_cons, h, ih]; rfl

/-- An array is never taken for null. -/
theorem orNull?_array (items : List Json) :
    orNull? read? (.array items) = (read? (.array items)).map some :=
  rfl

end Lists

theorem strings?_stringsJson (names : List String) :
    listOf? string? (stringsJson names) = some names := by
  have hread : ∀ s, string? (.string s) = some s := fun _ => rfl
  exact listOf?_map hread names

/-- Fields that are left out stay undeclared; an empty set of fields stays one. -/
theorem bag?_bagJson (b : BagDecl) : bag? (bagJson b) = some b := by
  obtain ⟨name, fields⟩ := b
  cases fields with
  | none => simp [bag?, bagJson, slots?, once?, string?, given?]
  | some fields =>
    have hread : orNull? (listOf? string?) (stringsJson fields.names) =
        some (some fields.names) := by
      rw [stringsJson, orNull?_array, ← stringsJson, strings?_stringsJson, Option.map_some]
    simp [bag?, bagJson, slots?, once?, string?, given?, hread, fields.ofList_names]

theorem schema?_array (s : Schema) : schema? (.array (s.bags.map bagJson)) = some s := by
  rw [schema?, listOf?_map bag?_bagJson]
  rfl

/-- No bags at all are written as null, and an empty list of bags as an empty array. -/
theorem bags?_bagsJson (bags : Option Schema) :
    orNull? schema? ((bags.map fun s => Json.array (s.bags.map bagJson)).getD .null) =
      some bags := by
  cases bags with
  | none => rfl
  | some s =>
    rw [Option.map_some, Option.getD_some, orNull?_array, schema?_array, Option.map_some]

theorem options?_optionsJson (o : Options) : options? (optionsJson o) = some o := by
  simp [options?, optionsJson, coercion?, slots?, once?, given?, limit?, flag?]

theorem ofJson?_toJson (c : Config) : ofJson? c.toJson = some c := by
  simp [ofJson?, toJson, slots?, fieldNames, once?, given?, strings?_stringsJson, bags?_bagsJson,
    options?_optionsJson]

/-! ## Reading what is printed -/

theorem plain_stringsJson (levels : Nat) (names : List String) :
    (stringsJson names).Plain (levels + 1) :=
  Json.plainAll_map fun _ _ => trivial

theorem plain_bagJson (levels : Nat) (b : BagDecl) : (bagJson b).Plain (levels + 2) := by
  rw [bagJson]
  split
  · exact ⟨trivial, trivial⟩
  · exact ⟨trivial, plain_stringsJson levels _, trivial⟩

/-- A configuration is four levels deep: the fields of a bag in the list of bags. -/
theorem plain_toJson (levels : Nat) (c : Config) : c.toJson.Plain (levels + 4) := by
  have hbags : ((c.bags.map fun s => Json.array (s.bags.map bagJson)).getD .null).Plain
      (levels + 3) := by
    cases c.bags with
    | none => trivial
    | some s => exact Json.plainAll_map fun b _ => plain_bagJson levels b
  have hoptions : (optionsJson c.options).Plain (levels + 3) :=
    ⟨trivial, trivial, trivial, ⟨trivial, trivial⟩, trivial⟩
  exact ⟨plain_stringsJson _ _, plain_stringsJson _ _, hbags, hoptions, trivial⟩

theorem read?_toJson (c : Config) : (Json.read? c.toJson.text).bind ofJson? = some c := by
  -- the reader goes 127 levels deep
  rw [Json.read?_text (plain_toJson 123 c), Option.bind_some, ofJson?_toJson]

/-! ## Well-formed names -/

/-- A letter of ASCII or an underscore, and after it letters, digits and underscores. -/
def IsIdentifier (name : String) : Prop :=
  ∃ first rest, name.toList = first :: rest ∧ (first.isAlpha = true ∨ first = '_') ∧
    ∀ c ∈ rest, c.isAlphanum = true ∨ c = '_'

/-- Identifiers with dots between them. -/
inductive IsDotted : String → Prop
  | one {name : String} : IsIdentifier name → IsDotted name
  | cons {name path : String} : IsIdentifier name → IsDotted path → IsDotted (name ++ "." ++ path)

theorem isWellFormed_iff {name : String} : isWellFormed name = true ↔ IsIdentifier name := by
  rw [isWellFormed, IsIdentifier]
  cases name.toList with
  | nil => simp [isName]
  | cons first rest => simp [isName, isNameStart, isNamePart]

theorem IsIdentifier.isSegment {name : String} (h : IsIdentifier name) :
    Syntax.IsSegment name := by
  obtain ⟨first, rest, hname, hfirst, hrest⟩ := h
  rw [Syntax.IsSegment, hname, List.mem_cons, not_or]
  constructor
  · rintro rfl
    exact absurd hfirst (by decide)
  · intro hdot
    exact absurd (hrest '.' hdot) (by decide)

/-- The segments of a text make up the text again. -/
theorem isDotted_of_segments (cs current : List Char)
    (h : ∀ name ∈ segments.go cs current, IsIdentifier name) :
    IsDotted (String.ofList (current.reverse ++ cs)) := by
  induction cs generalizing current with
  | nil =>
    rw [List.append_nil]
    exact .one (h _ List.mem_cons_self)
  | cons c rest ih =>
    by_cases hdot : c = '.'
    · subst hdot
      rw [segments.go, List.forall_mem_cons] at h
      have htext : String.ofList (current.reverse ++ '.' :: rest) =
          String.ofList current.reverse ++ "." ++ String.ofList rest := by
        rw [← String.toList_inj]
        simp
      rw [htext]
      exact .cons h.1 (ih [] h.2)
    · rw [segments.go] at h
      · have htext : current.reverse ++ c :: rest = (c :: current).reverse ++ rest := by simp
        rw [htext]
        exact ih _ h
      · exact hdot

theorem isWellFormedPath_iff {path : String} : isWellFormedPath path = true ↔ IsDotted path := by
  simp only [isWellFormedPath, List.all_eq_true, isWellFormed_iff]
  constructor
  · intro h
    have hdotted := isDotted_of_segments path.toList [] h
    rwa [List.reverse_nil, List.nil_append, String.ofList_toList] at hdotted
  · intro h
    induction h with
    | @one name hname =>
      rw [Syntax.segments_of_isSegment hname.isSegment]
      exact List.forall_mem_singleton.2 hname
    | @cons name path hname _ ih =>
      have hchars : (name ++ "." ++ path).toList = name.toList ++ '.' :: path.toList := by simp
      rw [segments, hchars, Syntax.segments_go_append, ← segments, ← segments,
        Syntax.segments_of_isSegment hname.isSegment]
      exact List.forall_mem_cons.2 ⟨hname, ih⟩

instance : DecidablePred IsIdentifier :=
  fun _ => decidable_of_iff _ isWellFormed_iff

instance : DecidablePred IsDotted :=
  fun _ => decidable_of_iff _ isWellFormedPath_iff

/-! ## The check of names -/

/-- Namespaces are dotted names, all other names are identifiers. -/
structure WellFormed (c : Config) : Prop where
  namespaces : ∀ name ∈ c.allowedNamespaces, IsDotted name
  denied : ∀ name ∈ c.deniedNames, IsIdentifier name
  bags : ∀ b ∈ c.declaredBags, IsIdentifier b.name

/-- `x` fails what everything before it in the list meets. -/
def FirstFailing {α : Type} (good : α → Prop) (xs : List α) (x : α) : Prop :=
  ∃ before after, xs = before ++ x :: after ∧ (∀ y ∈ before, good y) ∧ ¬ good x

/-- The name that is reported: the first ill-formed one of a kind, where the kinds before it have
none. -/
inductive FirstFault (c : Config) : ConfigError → Prop
  | namespaces {name : String} : FirstFailing IsDotted c.allowedNamespaces name →
      FirstFault c (.invalidNamespace name)
  | denied {name : String} : (∀ n ∈ c.allowedNamespaces, IsDotted n) →
      FirstFailing IsIdentifier c.deniedNames name → FirstFault c (.invalidName name)
  | bags {b : BagDecl} : (∀ n ∈ c.allowedNamespaces, IsDotted n) →
      (∀ n ∈ c.deniedNames, IsIdentifier n) →
      FirstFailing (fun b : BagDecl => IsIdentifier b.name) c.declaredBags b →
      FirstFault c (.invalidBag b.name)

section Search

variable {α : Type} {test : α → Bool} {good : α → Prop} {xs : List α}

theorem find?_not_eq_some (h : ∀ x, test x = true ↔ good x) {x : α} :
    xs.find? (fun y => !test y) = some x ↔ FirstFailing good xs x := by
  simp only [List.find?_eq_some_iff_append, FirstFailing, Bool.not_not, Bool.not_eq_true', ← h,
    Bool.not_eq_true]
  exact ⟨fun ⟨hfails, before, after, hxs, hbefore⟩ => ⟨before, after, hxs, hbefore, hfails⟩,
    fun ⟨before, after, hxs, hbefore, hfails⟩ => ⟨hfails, before, after, hxs, hbefore⟩⟩

theorem find?_not_eq_none (h : ∀ x, test x = true ↔ good x) :
    xs.find? (fun y => !test y) = none ↔ ∀ x ∈ xs, good x := by
  simp [h]

end Search

variable {c : Config}

theorem fault?_eq_none : c.fault? = none ↔ c.WellFormed := by
  simp only [fault?, Option.orElse_eq_or, Option.or_eq_none_iff, Option.map_eq_none_iff,
    find?_not_eq_none fun _ => isWellFormedPath_iff, find?_not_eq_none fun _ => isWellFormed_iff]
  exact ⟨fun ⟨hnamespaces, hdenied, hbags⟩ => ⟨hnamespaces, hdenied, hbags⟩,
    fun ⟨hnamespaces, hdenied, hbags⟩ => ⟨hnamespaces, hdenied, hbags⟩⟩

/-- The names are checked kind by kind, and each kind in the order of its list. -/
theorem fault?_eq_some {e : ConfigError} : c.fault? = some e ↔ c.FirstFault e := by
  simp only [fault?, Option.orElse_eq_or, Option.or_eq_some_iff, Option.map_eq_some_iff,
    Option.map_eq_none_iff, find?_not_eq_some fun _ => isWellFormedPath_iff,
    find?_not_eq_none fun _ => isWellFormedPath_iff,
    find?_not_eq_some fun _ => isWellFormed_iff, find?_not_eq_none fun _ => isWellFormed_iff]
  constructor
  · rintro (⟨name, hfirst, rfl⟩ | ⟨hnamespaces, ⟨name, hfirst, rfl⟩ | ⟨hdenied, b, hfirst, rfl⟩⟩)
    · exact .namespaces hfirst
    · exact .denied hnamespaces hfirst
    · exact .bags hnamespaces hdenied hfirst
  · rintro (hfirst | ⟨hnamespaces, hfirst⟩ | ⟨hnamespaces, hdenied, hfirst⟩)
    · exact .inl ⟨_, hfirst, rfl⟩
    · exact .inr ⟨hnamespaces, .inl ⟨_, hfirst, rfl⟩⟩
    · exact .inr ⟨hnamespaces, .inr ⟨hdenied, _, hfirst, rfl⟩⟩

/-- What is loaded from the text of a configuration is that configuration, unless a name stands
in the way. -/
theorem load_text_ok {loaded : Config} :
    load c.toJson.text = .ok loaded ↔ c.WellFormed ∧ loaded = c := by
  rw [load, read?_toJson, ← fault?_eq_none]
  dsimp only
  cases c.fault? with
  | none => simp [eq_comm]
  | some e => simp

theorem load_text_error {e : ConfigError} :
    load c.toJson.text = .error e ↔ c.FirstFault e := by
  rw [load, read?_toJson, ← fault?_eq_some]
  dsimp only
  cases c.fault? with
  | none => simp
  | some found => simp

end Config

/-! ## The policy of a configuration -/

namespace Policy

theorem allowed_foldl_allowNamespace (names : List String) (p : Policy) :
    (names.foldl allowNamespace p).allowed = names.foldl NameSet.insert p.allowed :=
  (List.foldl_hom allowed fun _ _ => rfl).symm

theorem denied_foldl_denyName (names : List String) (p : Policy) :
    (names.foldl denyName p).denied = names.foldl NameSet.insert p.denied :=
  (List.foldl_hom denied fun _ _ => rfl).symm

/-- Denied names leave the namespaces alone, -/
theorem allowed_foldl_denyName (names : List String) (p : Policy) :
    (names.foldl denyName p).allowed = p.allowed := by
  induction names generalizing p with
  | nil => rfl
  | cons name rest ih => exact ih (p.denyName name)

/-- and allowed namespaces the names. -/
theorem denied_foldl_allowNamespace (names : List String) (p : Policy) :
    (names.foldl allowNamespace p).denied = p.denied := by
  induction names generalizing p with
  | nil => rfl
  | cons name rest ih => exact ih (p.allowNamespace name)

/-- The allowed namespaces are the standard ones and those of the configuration. -/
theorem allowed_ofConfig (c : Config) (name : String) :
    (ofConfig c).allowed.contains name = true ↔
      name ∈ standardNamespaces ∨ name ∈ c.allowedNamespaces := by
  rw [ofConfig, allowed_foldl_denyName, allowed_foldl_allowNamespace, contains_foldl_insert,
    standard, contains_ofList, Bool.or_eq_true, List.contains_iff_mem, List.contains_iff_mem]
  exact or_comm

/-- The denied names are the standard ones and those of the configuration. -/
theorem isDenied_ofConfig (c : Config) (name : String) :
    (ofConfig c).isDenied name = true ↔ name ∈ standardDenied ∨ name ∈ c.deniedNames := by
  rw [isDenied, ofConfig, denied_foldl_denyName, denied_foldl_allowNamespace,
    contains_foldl_insert, standard, contains_ofList, Bool.or_eq_true, List.contains_iff_mem,
    List.contains_iff_mem]
  exact or_comm

/-- What is allowed are these namespaces, those of the kinds of values, and what lies below. -/
theorem isAllowed_ofConfig (c : Config) (path : String) :
    (ofConfig c).isAllowed path = true ↔
      ∃ entry, (entry ∈ standardNamespaces ∨ entry ∈ c.allowedNamespaces ∨
        entry ∈ Catalog.intrinsicTags) ∧ isBelow entry path = true := by
  have hallowed : ∀ entry, entry ∈ (ofConfig c).allowed.names ↔
      entry ∈ standardNamespaces ∨ entry ∈ c.allowedNamespaces := fun entry => by
    rw [← allowed_ofConfig, NameSet.contains, List.contains_iff_mem]
  simp only [isAllowed, List.any_eq_true, List.mem_append, hallowed, or_assoc]

end Policy

/-- The round trip of a configuration through its text. If all names are well formed, exactly the
configuration itself is loaded, and its policy allows and denies what the standard policy does and
what the configuration adds. If not, exactly the first ill-formed name is reported. -/
theorem Config.load_toJson (c : Config) :
    (∀ loaded, load c.toJson.text = .ok loaded ↔ c.WellFormed ∧ loaded = c) ∧
    (∀ e, load c.toJson.text = .error e ↔ c.FirstFault e) ∧
    (∀ loaded, load c.toJson.text = .ok loaded →
      (∀ name, (Policy.ofConfig loaded).allowed.contains name = true ↔
        name ∈ standardNamespaces ∨ name ∈ c.allowedNamespaces) ∧
      (∀ path, (Policy.ofConfig loaded).isAllowed path = true ↔
        ∃ entry, (entry ∈ standardNamespaces ∨ entry ∈ c.allowedNamespaces ∨
          entry ∈ Catalog.intrinsicTags) ∧ isBelow entry path = true) ∧
      (∀ name, (Policy.ofConfig loaded).isDenied name = true ↔
        name ∈ standardDenied ∨ name ∈ c.deniedNames)) := by
  refine ⟨fun _ => load_text_ok, fun _ => load_text_error, fun loaded hload => ?_⟩
  obtain ⟨-, rfl⟩ := load_text_ok.1 hload
  exact ⟨Policy.allowed_ofConfig loaded, Policy.isAllowed_ofConfig loaded,
    Policy.isDenied_ofConfig loaded⟩

/-- A configuration with something of each kind, and with field names that need escapes. -/
def Config.orders : Config where
  allowedNamespaces := ["Acme.Rules"]
  deniedNames := ["Secret"]
  bags := some ⟨[⟨"order", some (NameSet.ofList ["Total", "a \"b\"\n", "é"])⟩, ⟨"item", none⟩]⟩
  options := { Options.standard with maxDepth := 16, strictFields := true }

theorem Config.load_toJson_orders :
    load orders.toJson.text = .ok orders ∧
    (Policy.ofConfig orders).isAllowed "Acme.Rules.Money" = true ∧
    (Policy.ofConfig orders).isDenied "Secret" = true ∧
    load { orders with deniedNames := ["Secret", "a b", "1st"] }.toJson.text =
      .error (.invalidName "a b") := by
  have hwellFormed : orders.WellFormed :=
    ⟨by decide +kernel, by decide +kernel, by decide +kernel⟩
  have hload : load orders.toJson.text = .ok orders :=
    ((load_toJson orders).1 orders).2 ⟨hwellFormed, rfl⟩
  obtain ⟨-, hallowed, hdenied⟩ := (load_toJson orders).2.2 orders hload
  refine ⟨hload, ?_, (hdenied "Secret").2 (.inr (by decide)), ?_⟩
  · exact (hallowed _).2 ⟨"Acme.Rules", .inr (.inl (by decide)), by decide +kernel⟩
  · refine ((load_toJson _).2.1 _).2 (.denied (by decide +kernel) ?_)
    exact ⟨["Secret"], ["1st"], rfl, by decide +kernel, by decide +kernel⟩

end GatedPredicate
