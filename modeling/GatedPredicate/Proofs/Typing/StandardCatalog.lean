import GatedPredicate.Catalog.Standard
import GatedPredicate.Proofs.Typing.Honest

/-!
# The standard catalog is honest

Every overload of the standard catalog gives values of the type that it declares. Most of them end
in a constructor of that type. Those that take the common type of their arguments either hand back
a number of the kind they were given or pick one of two numbers brought to a common kind.

- `Overload.honest_of_kept`, `Overload.honest_of_common`: results without a fixed type
- `Catalog.standardModules_honest`, `Catalog.standardMembers_honest`
- `Registry.standard_honest`
-/

namespace GatedPredicate

open GatedPredicate.ValueType GatedPredicate.Outcome.Gives

/-! ## Overloads with the common type of their arguments -/

namespace Overload

variable {t : ValueType} {types : List ValueType} {args : List Value}

/-- A function of one number that keeps its kind. -/
theorem honest_of_kept {f : Value → Outcome Value} (h : ∀ x v, f x = .ok v → v.type = x.type) :
    (Overload.unary .promoted f).Honest [] := by
  intro types args t hlength hadmits ht v hv
  obtain ⟨a, rfl⟩ := List.length_eq_one_iff.1 hlength
  obtain ⟨x, _, hx, hnil, rfl⟩ := List.forall₂_cons_left_iff.1 hadmits
  obtain rfl := List.forall₂_nil_left_iff.1 hnil
  obtain rfl : a = t := Option.some.inj (common_of_promoted rfl ht)
  rw [Admits, h x v hv]
  exact hx

/-- A function of two numbers with a result of a kind that the common type covers. -/
theorem honest_of_common {f : Value → Value → Outcome Value}
    (h : ∀ (a b t : ValueType) (x y : Value), a.promote b = some t → a.Admits x → b.Admits y →
      Outcome.Gives (f x y) t) : (Overload.binary .promoted f).Honest [] := by
  intro types args t hlength hadmits ht
  obtain ⟨a, b, rfl⟩ := List.length_eq_two.1 hlength
  obtain ⟨x, _, hx, hrest, rfl⟩ := List.forall₂_cons_left_iff.1 hadmits
  obtain ⟨y, _, hy, hnil, rfl⟩ := List.forall₂_cons_left_iff.1 hrest
  obtain rfl := List.forall₂_nil_left_iff.1 hnil
  have hcommon : a.promote b = some t := by simpa using common_of_promoted rfl ht
  exact h a b t x y hcommon hx hy

end Overload

namespace Catalog

/-! ## The mathematical functions -/

theorem abs_type {x v : Value} (h : abs x = .ok v) : v.type = x.type := by
  unfold abs at h
  split at h
  · obtain ⟨_, -, rfl⟩ := except_map_eq_ok.1 h
    rfl
  · exact Except.ok.inj h ▸ rfl
  · exact Except.ok.inj h ▸ rfl
  · exact Except.ok.inj h ▸ rfl
  · cases h

theorem roundWith_type {name : String} {onDouble : Float → Float} {onDecimal : Decimal → Decimal}
    {x v : Value} (h : roundWith name onDouble onDecimal x = .ok v) : v.type = x.type := by
  unfold roundWith at h
  split at h
  · exact Except.ok.inj h ▸ rfl
  · exact Except.ok.inj h ▸ rfl
  · exact Except.ok.inj h ▸ rfl
  · exact Except.ok.inj h ▸ rfl
  · cases h

theorem roundTo_type {x y v : Value} (h : roundTo x y = .ok v) : v.type = x.type := by
  unfold roundTo at h
  split at h
  · split at h
    · exact roundWith_type h
    · cases h
  · cases h

theorem choose_type {name : String} {want : Ordering} {x y v : Value}
    (h : choose name (NumericPair.pick want) x y = .ok v) :
    ∃ p, promote? x y = some p ∧ v.type = p.type := by
  unfold choose at h
  split at h
  · rename_i p hp
    exact ⟨p, hp, Except.ok.inj h ▸ NumericPair.pick_type want p⟩
  · cases h

/-- Choosing one of two numbers keeps the promise of their common type. -/
theorem choose_gives {name : String} {want : Ordering} {a b t : ValueType} {x y : Value}
    (h : a.promote b = some t) (hx : a.Admits x) (hy : b.Admits y) :
    Outcome.Gives (choose name (NumericPair.pick want) x y) t := by
  intro v hv
  obtain ⟨p, hp, htype⟩ := choose_type hv
  rw [Admits, htype]
  exact Covers.promote? h hx hy hp

/-- Bringing a number into a range chooses twice. -/
theorem clamp_honest : (Overload.ternary .promoted clamp).Honest [] := by
  intro types args t hlength hadmits ht v hv
  obtain ⟨a, b, c, rfl⟩ := List.length_eq_three.1 hlength
  obtain ⟨x, _, hx, hrest, rfl⟩ := List.forall₂_cons_left_iff.1 hadmits
  obtain ⟨low, _, hlow, hlast, rfl⟩ := List.forall₂_cons_left_iff.1 hrest
  obtain ⟨high, _, hhigh, hnil, rfl⟩ := List.forall₂_cons_left_iff.1 hlast
  obtain rfl := List.forall₂_nil_left_iff.1 hnil
  obtain ⟨s, hs, ht⟩ : ∃ s, a.promote b = some s ∧ s.promote c = some t := by
    simpa [Option.bind_eq_some_iff] using Overload.common_of_promoted rfl ht
  -- raised to the lower bound first, then lowered to the upper one
  have hv : clamp x low high = .ok v := hv
  unfold clamp at hv
  split at hv
  · cases hv
  · split at hv
    · cases hv
    · obtain ⟨raised, hraised, hv⟩ := except_bind_eq_ok.1 hv
      have hadmits : s.Admits raised := choose_gives hs hx hlow raised hraised
      exact choose_gives ht hadmits hhigh v hv

theorem sign_gives (x : Value) : Outcome.Gives (sign x) .int := by
  unfold sign
  split
  · exact ok (admits_of_type_eq rfl)
  · exact ok (admits_of_type_eq rfl)
  · split
    · exact error
    · exact ok (admits_of_type_eq rfl)
    · exact ok (admits_of_type_eq rfl)
    · exact ok (admits_of_type_eq rfl)
  · exact ok (admits_of_type_eq rfl)
  · exact error

theorem power_gives (x y : Value) : Outcome.Gives (power x y) .float :=
  bind fun _ => map fun _ => admits_of_type_eq rfl

theorem squareRoot_gives (x : Value) : Outcome.Gives (squareRoot x) .float :=
  map fun _ => admits_of_type_eq rfl

theorem mathModule_honest : mathModule.Honest := by
  have hround (name : String) (onDouble : Float → Float) (onDecimal : Decimal → Decimal) :
      (rounding name onDouble onDecimal).Honest :=
    .single (Overload.honest_of_kept fun _ _ => roundWith_type)
  have hchoose (name : String) (want : Ordering) :
      (Overload.binary .promoted (choose name (NumericPair.pick want))).Honest [] :=
    Overload.honest_of_common fun _ _ _ _ _ => choose_gives
  have hroundTo : (Overload.binary .promoted roundTo).Honest [] := by
    refine Overload.honest_of_common fun a b t x y ht hx _ v hv => ?_
    rw [Admits, roundTo_type hv]
    exact Covers.promote_left ht hx
  refine Module.honest_of_functions ?_
  simp only [mathModule, List.forall_mem_cons]
  refine ⟨.single (Overload.honest_of_kept fun _ _ => abs_type),
    .single (hchoose _ _), .single (hchoose _ _),
    .single clamp_honest, ?_, hround _ _ _, hround _ _ _, hround _ _ _,
    .single (Overload.honest_binary power_gives),
    .single (Overload.honest_unary squareRoot_gives),
    .single (Overload.honest_unary sign_gives), List.forall_mem_nil _⟩
  simp only [Function.Honest, List.forall_mem_cons]
  exact ⟨Overload.honest_of_kept fun _ _ => roundWith_type, hroundTo, List.forall_mem_nil _⟩

/-! ## Texts and characters -/

theorem nullOr_gives (name : String) (test : String → Bool) (x : Value) :
    Outcome.Gives (nullOr name test x) .bool := by
  unfold nullOr
  split
  · exact ok (admits_of_type_eq rfl)
  · exact ok (admits_of_type_eq rfl)
  · exact error

theorem textEquals_gives (x y : Value) : Outcome.Gives (textEquals x y) .bool := by
  unfold textEquals
  split
  · exact ok (admits_of_type_eq rfl)
  · exact ok (admits_of_type_eq rfl)
  · exact ok (admits_of_type_eq rfl)
  · exact ok (admits_of_type_eq rfl)
  · exact error

theorem stringModule_honest : stringModule.Honest := by
  have hconcat (args : List Value) : Outcome.Gives (concat args) .string :=
    ok (admits_of_type_eq rfl)
  refine Module.honest_of_functions ?_
  simp only [stringModule, List.forall_mem_cons]
  refine ⟨.single (Overload.honest_unary (nullOr_gives _ _)),
    .single (Overload.honest_unary (nullOr_gives _ _)), ?_,
    .single (Overload.honest_binary textEquals_gives), nofun⟩
  simp only [Function.Honest, List.forall_mem_cons]
  exact ⟨Overload.honest_of_fixed rfl hconcat, Overload.honest_of_fixed rfl hconcat,
    Overload.honest_of_fixed rfl hconcat, nofun⟩

theorem charClass_honest (name : String) (test : Char → Bool) : (charClass name test).Honest :=
  .single (Overload.honest_unary fun _ => map fun _ => admits_of_type_eq rfl)

theorem charModule_honest : charModule.Honest := by
  refine Module.honest_of_functions ?_
  simp only [charModule, List.forall_mem_cons]
  exact ⟨charClass_honest _ _, charClass_honest _ _, charClass_honest _ _, charClass_honest _ _,
    charClass_honest _ _, nofun⟩

theorem textMember_honest {name : String} {isProperty : Bool} {t : ValueType}
    {read : List Char → Value} (h : ∀ cs, t.Admits (read cs)) :
    (textMember name isProperty t read).Honest :=
  .single fun _ _ => Overload.honest_getter (map fun _ => h _)

theorem searching_honest {name : String} {t : ValueType}
    {search : List Char → List Char → Outcome Value} (h : ∀ n cs, Outcome.Gives (search n cs) t) :
    (searching name t search).Honest :=
  .single fun _ _ => Overload.honest_method1 fun _ => bind fun _ => bind fun _ => h _ _

theorem positionOf_gives (n cs : List Char) : Outcome.Gives (positionOf n cs) .int := by
  unfold positionOf
  split
  · exact ok (admits_of_type_eq rfl)
  · split
    · exact ok (admits_of_type_eq rfl)
    · exact error

theorem slice_gives (cs : List Char) (i n : Nat) : Outcome.Gives (slice cs i n) .string := by
  unfold slice
  split
  · exact ok (admits_of_type_eq rfl)
  · exact error

theorem substringFrom_gives (x start : Value) : Outcome.Gives (substringFrom x start) .string :=
  bind fun _ => bind fun _ => slice_gives _ _ _

theorem substring_gives (x start length : Value) :
    Outcome.Gives (substring x start length) .string :=
  bind fun _ => bind fun _ => bind fun _ => slice_gives _ _ _

theorem stringMembers_honest : ∀ m ∈ stringMembers, m.Honest := by
  simp only [stringMembers, List.forall_mem_cons]
  refine ⟨textMember_honest fun _ => admits_of_type_eq rfl,
    textMember_honest fun _ => admits_of_type_eq rfl,
    searching_honest fun _ _ => ok (admits_of_type_eq rfl),
    searching_honest fun _ _ => ok (admits_of_type_eq rfl),
    searching_honest fun _ _ => ok (admits_of_type_eq rfl), searching_honest positionOf_gives,
    textMember_honest fun _ => admits_of_type_eq rfl,
    textMember_honest fun _ => admits_of_type_eq rfl,
    textMember_honest fun _ => admits_of_type_eq rfl, ?_, List.forall_mem_nil _⟩
  intro o ho r _
  simp only [List.mem_cons, List.not_mem_nil, or_false] at ho
  rcases ho with rfl | rfl
  · exact Overload.honest_method1 (substringFrom_gives r)
  · exact Overload.honest_method2 (substring_gives r)

/-! ## Conversions -/

theorem convertModule_honest : convertModule.Honest := by
  refine Module.honest_of_functions ?_
  simp only [convertModule, List.forall_mem_cons]
  exact ⟨.single (Overload.honest_unary fun _ => map fun _ => admits_of_type_eq rfl),
    .single (Overload.honest_unary fun _ => map fun _ => admits_of_type_eq rfl),
    .single (Overload.honest_unary fun _ => map fun _ => admits_of_type_eq rfl),
    .single (Overload.honest_unary fun _ => ok (admits_of_type_eq rfl)),
    .single (Overload.honest_unary fun _ => map fun _ => admits_of_type_eq rfl), nofun⟩

/-! ## Patterns -/

theorem matchWith_gives (sum : Int) (input pattern : Value) :
    Outcome.Gives (matchWith sum input pattern) .bool := by
  refine bind fun s => bind fun p => ?_
  split
  · exact error
  · split
    · exact ok (admits_of_type_eq rfl)
    · exact error

theorem matchOptions_gives (input pattern options : Value) :
    Outcome.Gives (matchOptions input pattern options) .bool := by
  unfold matchOptions
  split
  · exact matchWith_gives _ _ _
  · exact error

theorem patternModule_honest : patternModule.Honest := by
  refine Module.honest_of_functions ?_
  simp only [patternModule, Function.Honest, List.forall_mem_cons]
  exact ⟨⟨Overload.honest_binary (matchWith_gives 0), Overload.honest_ternary matchOptions_gives,
    nofun⟩, nofun⟩

theorem patternOptionsModule_honest : patternOptionsModule.Honest :=
  Module.honest_of_functions nofun

/-! ## JSON documents -/

theorem parseDocument_gives (x : Value) : Outcome.Gives (parseDocument x) .json := by
  refine bind fun s => ?_
  split
  · exact ok (admits_of_type_eq rfl)
  · exact error

theorem documentModule_honest : documentModule.Honest := by
  refine Module.honest_of_functions ?_
  simp only [documentModule, List.forall_mem_cons]
  exact ⟨.single (Overload.honest_unary parseDocument_gives), nofun⟩

theorem getProperty_gives (x key : Value) : Outcome.Gives (getProperty x key) .json := by
  refine bind fun j => bind fun k => ?_
  split
  · split
    · exact ok (admits_of_type_eq rfl)
    · exact error
  · exact error

theorem elementGetter_honest {name : String} {t : ValueType} {read? : Json → Option Value}
    (h : ∀ j v, read? j = some v → t.Admits v) : (elementGetter name t read?).Honest := by
  refine .single fun r _ => Overload.honest_getter (bind fun j => ?_)
  split
  · rename_i v hv
    exact ok (h j v hv)
  · exact error

theorem elementText?_admits {j : Json} {v : Value} (h : elementText? j = some v) :
    ValueType.Admits .string v := by
  unfold elementText? at h
  split at h
  · exact Option.some.inj h ▸ admits_of_type_eq rfl
  · exact Option.some.inj h ▸ covers_null
  · cases h

theorem jsonMembers_honest : ∀ m ∈ jsonMembers, m.Honest := by
  have hmap {α : Type} {t : ValueType} {read? : Json → Option α} {wrap : α → Value}
      (hwrap : ∀ a, (wrap a).type = t) (j : Json) (v : Value)
      (h : (read? j).map wrap = some v) : t.Admits v := by
    obtain ⟨a, -, rfl⟩ := Option.map_eq_some_iff.1 h
    exact admits_of_type_eq (hwrap a)
  simp only [jsonMembers, List.forall_mem_cons]
  refine ⟨.single fun r hr => Overload.honest_getter (ok ?_),
    .single fun _ _ => Overload.honest_getter (map fun _ => admits_of_type_eq rfl),
    .single fun r _ => Overload.honest_method1 (getProperty_gives r),
    elementGetter_honest (hmap fun _ => rfl), elementGetter_honest fun _ _ => elementText?_admits,
    elementGetter_honest (hmap fun _ => rfl), elementGetter_honest (hmap fun _ => rfl),
    elementGetter_honest (hmap fun _ => rfl), elementGetter_honest (hmap fun _ => rfl),
    elementGetter_honest (hmap fun _ => rfl), nofun⟩
  -- the whole document is the receiver itself, so its type rests on what receivers there are
  cases r with
  | json j => exact admits_of_type_eq rfl
  | _ => cases hr

/-! ## Dates and times -/

theorem parseDateTime_gives (x : Value) : Outcome.Gives (parseDateTime x) .dateTime := by
  refine bind fun s => ?_
  split
  · exact ok (admits_of_type_eq rfl)
  · exact error

theorem dateTimeModule_honest : dateTimeModule.Honest := by
  refine Module.honest_of_functions ?_
  simp only [dateTimeModule, List.forall_mem_cons]
  exact ⟨.single (Overload.honest_unary parseDateTime_gives), nofun⟩

theorem dayOfWeekModule_honest : dayOfWeekModule.Honest :=
  Module.honest_of_functions nofun

theorem component_honest (name : String) (read : DateTime → Int) : (component name read).Honest :=
  .single fun _ _ => Overload.honest_getter (map fun _ => admits_of_type_eq rfl)

theorem dateTimeMembers_honest : ∀ m ∈ dateTimeMembers, m.Honest := by
  simp only [dateTimeMembers, List.forall_mem_cons]
  exact ⟨component_honest _ _, component_honest _ _, component_honest _ _, component_honest _ _,
    component_honest _ _, component_honest _ _, component_honest _ _, component_honest _ _,
    .single fun _ _ => Overload.honest_getter (map fun _ => admits_of_type_eq rfl), nofun⟩

/-! ## Sequences and all values -/

theorem counting_honest {name : String} {isProperty : Bool} {t : ValueType} {read : Nat → Value}
    (h : ∀ n, t.Admits (read n)) : (counting name isProperty t read).Honest :=
  .single fun _ _ => Overload.honest_getter (map h)

theorem sequenceMembers_honest : ∀ m ∈ sequenceMembers, m.Honest := by
  simp only [sequenceMembers, List.forall_mem_cons]
  exact ⟨counting_honest fun _ => admits_of_type_eq rfl,
    counting_honest fun _ => admits_of_type_eq rfl,
    counting_honest fun _ => admits_of_type_eq rfl,
    .single fun _ _ => Overload.honest_method1 fun _ => map fun _ => admits_of_type_eq rfl, nofun⟩

theorem objectMembers_honest : ∀ m ∈ objectMembers, m.Honest := by
  simp only [objectMembers, List.forall_mem_cons]
  exact ⟨.single fun _ _ => Overload.honest_getter (ok (admits_of_type_eq rfl)),
    .single fun _ _ => Overload.honest_method1 fun _ => ok (admits_of_type_eq rfl), nofun⟩

/-! ## The whole catalog -/

theorem standardModules_honest : ∀ m ∈ standardModules, m.Honest := by
  simp only [standardModules, List.forall_mem_cons]
  exact ⟨mathModule_honest, stringModule_honest, charModule_honest, convertModule_honest,
    patternModule_honest, patternOptionsModule_honest, documentModule_honest,
    dateTimeModule_honest, dayOfWeekModule_honest, nofun⟩

theorem standardMembers_honest : ∀ m ∈ standardMembers, m.Honest := by
  simp only [standardMembers, List.forall_mem_append]
  exact ⟨⟨⟨⟨stringMembers_honest, dateTimeMembers_honest⟩, jsonMembers_honest⟩,
    sequenceMembers_honest⟩, objectMembers_honest⟩

end Catalog

/-- The standard catalog keeps its word. -/
theorem Registry.standard_honest : Registry.standard.Honest :=
  .addMembers (.addModules .empty Catalog.standardModules_honest) Catalog.standardMembers_honest

end GatedPredicate
