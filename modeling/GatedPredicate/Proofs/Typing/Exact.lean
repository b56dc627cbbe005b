import GatedPredicate.Proofs.Typing.StandardCatalog
import GatedPredicate.Proofs.Policy.Built

/-!
# Values of just their static type

`Admits` leaves room in two places: an expression of type `float` or `decimal` may have numbers of
other kinds as values. Operations do not add to that. Where the operands are of just their types the
result is, because the static table of common types mirrors the rule by which two numbers meet.

- `ValueType.Exact`: null and the values of just this type
- `promote_mirrors`: the static table and the rule for values agree
- `negate_exact`, `applyBinary_exact`: the operators
- `Overload.Exact`, `Registry.Exact`, `Registry.standard_exact`: overloads, and the standard catalog
-/

namespace GatedPredicate

open GatedPredicate.Syntax GatedPredicate.ValueType

/-! ## Exact values -/

namespace ValueType

/-- `t.Exact v`: if anything is known of `v`, then that it is null or of type `t`. -/
def Exact (t : ValueType) (v : Value) : Prop :=
  t = .dynamic ∨ v.type = .null ∨ v.type = t

/-- The types of numbers that may also hold numbers of other kinds. -/
def isFractional (t : ValueType) : Bool :=
  t == .float || t == .decimal

variable {a b s t : ValueType} {v x y : Value}

theorem Exact.dynamic : Exact .dynamic v := .inl rfl

theorem exact_of_type_eq (h : v.type = t) : t.Exact v := .inr (.inr h)

@[simp]
theorem exact_type : v.type.Exact v := exact_of_type_eq rfl

theorem Exact.admits (h : t.Exact v) : t.Admits v := by
  rcases h with rfl | hnull | htype
  · exact dynamic_admits
  · exact .inr (.inl hnull)
  · exact admits_of_type_eq htype

/-- Apart from two types there is no difference. -/
theorem Admits.exact (h : t.Admits v) (ht : t.isFractional = false) : t.Exact v := by
  rcases h with hdynamic | hnull | htype | ⟨rfl, -⟩ | ⟨rfl, -⟩
  · exact .inl hdynamic
  · exact .inr (.inl hnull)
  · exact .inr (.inr htype)
  · cases ht
  · cases ht

/-- A number that a static type is exact for is of this type, if that is known. -/
theorem Exact.eq_of_numeric (h : t.Exact v) (hv : v.type.isNumeric = true) (ht : t ≠ .dynamic) :
    v.type = t := by
  rcases h with hdynamic | hnull | htype
  · exact absurd hdynamic ht
  · rw [hnull] at hv
    cases hv
  · exact htype

theorem Exact.congr {w : Value} (h : t.Exact v) (hw : w.type = v.type) : t.Exact w := by
  rw [Exact, hw]
  exact h

/-- If a common type is known, so are the types of both parts. -/
theorem ne_dynamic_of_promote (h : a.promote b = some t) (ht : t ≠ .dynamic) :
    a ≠ .dynamic ∧ b ≠ .dynamic := by
  constructor
  · rintro rfl
    cases b <;> simp_all [promote, maybeNumeric, isNumeric]
  · rintro rfl
    cases a <;> simp_all [promote, maybeNumeric, isNumeric]

end ValueType

/-! ## Two numbers of different kinds -/

/-- The static table of common types mirrors the rule for values. Where it says `dynamic`, a signed
and an unsigned integer meet. -/
theorem promote_mirrors {x y : Value} {p : NumericPair} (h : promote? x y = some p) :
    x.type.promote y.type = some p.type ∨ x.type.promote y.type = some .dynamic := by
  unfold promote? at h
  split at h
  · exact .inl (Option.some.inj h ▸ rfl)
  · exact .inl (Option.some.inj h ▸ rfl)
  -- the values decide
  · exact .inr rfl
  · exact .inr rfl
  -- one side is floating point or decimal, and the other side is converted
  · obtain ⟨_, hy, rfl⟩ := Option.map_eq_some_iff.1 h
    cases y <;> first | exact .inl rfl | cases hy
  · obtain ⟨_, hx, rfl⟩ := Option.map_eq_some_iff.1 h
    cases x <;> first | exact .inl rfl | cases hx
  · obtain ⟨_, hy, rfl⟩ := Option.map_eq_some_iff.1 h
    cases y <;> first | exact .inl rfl | cases hy
  · obtain ⟨_, hx, rfl⟩ := Option.map_eq_some_iff.1 h
    cases x <;> first | exact .inl rfl | cases hx
  · cases h

/-- A value of the kind in which two exact numbers meet is exact for their common type. -/
theorem exact_of_promote? {a b t : ValueType} {x y v : Value} {p : NumericPair}
    (h : a.promote b = some t) (hx : a.Exact x) (hy : b.Exact y) (hp : promote? x y = some p)
    (hv : v.type = p.type) : t.Exact v := by
  by_cases ht : t = .dynamic
  · exact .inl ht
  · obtain ⟨ha, hb⟩ := ne_dynamic_of_promote h ht
    obtain ⟨hxn, hyn⟩ := promote?_numeric hp
    obtain rfl := hx.eq_of_numeric hxn ha
    obtain rfl := hy.eq_of_numeric hyn hb
    rcases promote_mirrors hp with hsame | hdynamic
    · have hkind : p.type = t := Option.some.inj (hsame.symm.trans h)
      exact exact_of_type_eq (hv.trans hkind)
    · -- the values of a signed and an unsigned integer decide, and the table says so
      exact .inl (Option.some.inj (h.symm.trans hdynamic))

/-! ## Operators -/

theorem negate_exact {s t : ValueType} {v w : Value} (h : unaryType .neg t = .ok s)
    (hv : t.Exact v) (hw : v.negate = .ok w) : s.Exact w := by
  obtain ⟨hnumeric, htype⟩ := negate_type hw
  simp only [unaryType] at h
  split at h
  · rename_i hunsigned
    obtain rfl := Except.ok.inj h
    subst hunsigned
    have hv : v.type = .uint := hv.eq_of_numeric hnumeric (by decide)
    exact exact_of_type_eq (htype.trans (if_pos hv))
  · rename_i hsigned
    split at h
    · obtain rfl := Except.ok.inj h
      by_cases hdynamic : t = .dynamic
      · exact .inl hdynamic
      · have hv : v.type = t := hv.eq_of_numeric hnumeric hdynamic
        rw [if_neg (hv ▸ hsigned)] at htype
        exact exact_of_type_eq (htype.trans hv)
    · cases h

theorem applyArithmetic_exact {op : BinaryOp} {a b t : ValueType} {x y v : Value}
    (h : a.promote b = some t) (hx : a.Exact x) (hy : b.Exact y)
    (hv : applyArithmetic op x y = .ok v) : t.Exact v := by
  obtain ⟨p, hp, htype⟩ := applyArithmetic_cases hv
  exact exact_of_promote? h hx hy hp htype

/-- A static addition of numbers has no texts to join. -/
theorem applyAdd_exact {a b t : ValueType} {x y v : Value} (h : a.promote b = some t)
    (ha : a ≠ .dynamic) (hb : b ≠ .dynamic) (hx : a.Exact x) (hy : b.Exact y)
    (hv : applyAdd x y = .ok v) : t.Exact v := by
  rcases applyAdd_cases hv with ⟨-, hstring | hstring⟩ | hnumbers
  · have hcovers : a.Covers .string := hstring ▸ hx.admits
    exact absurd hcovers (Covers.not_string_of_promote h ha)
  · have hcovers : b.Covers .string := hstring ▸ hy.admits
    exact absurd hcovers (Covers.not_string_of_promote (promote_comm b a ▸ h) hb)
  · exact applyArithmetic_exact h hx hy hnumbers

/-- Every infix operator that needs both operands has exact results for exact operands. -/
theorem applyBinary_exact {op : BinaryOp} {a b t : ValueType} {x y v : Value}
    (hand : op ≠ .and) (hor : op ≠ .or) (h : binaryType op a b = .ok t) (hx : a.Exact x)
    (hy : b.Exact y) (hv : applyBinary op x y = .ok v) : t.Exact v := by
  have hadmits : t.Admits v := applyBinary_admits hand hor h hx.admits hy.admits hv
  cases op with
  | and => exact absurd rfl hand
  | or => exact absurd rfl hor
  -- for truth values and texts `Admits` leaves no room
  | eq | ne =>
    obtain rfl : .bool = t := Except.ok.inj h
    exact hadmits.exact rfl
  | lt | le | gt | ge =>
    simp only [binaryType] at h
    split at h
    · obtain rfl : .bool = t := Except.ok.inj h
      exact hadmits.exact rfl
    · cases h
  | sub | mul | div | mod =>
    simp only [binaryType, arithmeticType, reduceCtorEq, false_and, if_false] at h
    split at h
    · rename_i htype
      rw [Except.ok.inj h] at htype
      exact applyArithmetic_exact htype hx hy hv
    · cases h
  | add =>
    simp only [binaryType, true_and] at h
    split at h
    · obtain rfl : .string = t := Except.ok.inj h
      exact hadmits.exact rfl
    · split at h
      · rename_i htype
        rw [Except.ok.inj h] at htype
        simp only [arithmeticType, true_and] at htype
        split at htype
        · exact .inl (Option.some.inj htype).symm
        · rename_i hknown
          rw [not_or] at hknown
          exact applyAdd_exact htype hknown.1 hknown.2 hx hy hv
      · cases h

/-! ## Overloads -/

/-- Results whose type is declared, and is none of the two that leave room. -/
def ResultType.isSettled : ResultType → Bool
  | .fixed t => !t.isFractional
  | .promoted => false

namespace Overload

/-- Every result for arguments that stand after `front` is of the type that is found, provided that
the arguments are where their types are looked at. -/
def Exact (o : Overload) (front : List Value) : Prop :=
  ∀ types args t, types.length = o.arity → List.Forall₂ Admits types args →
    (o.result = .promoted → List.Forall₂ ValueType.Exact types args) →
      o.resultType? types = some t → ∀ v, o.run (front ++ args) = .ok v → t.Exact v

theorem Honest.exact {o : Overload} {front : List Value} (h : o.Honest front)
    (ho : o.result.isSettled = true) : o.Exact front := by
  intro types args t hlength hadmits _ ht v hv
  have hgives : t.Admits v := h types args t hlength hadmits ht v hv
  unfold resultType? at ht
  split at ht
  · rename_i s hs
    obtain rfl := Option.some.inj ht
    rw [hs, ResultType.isSettled, Bool.not_eq_true'] at ho
    exact hgives.exact ho
  · rename_i hpromoted
    rw [hpromoted] at ho
    cases ho

theorem exact_of_fixed {o : Overload} {front : List Value} {t : ValueType}
    (ho : o.result = .fixed t) (h : ∀ args v, o.run (front ++ args) = .ok v → v.type = t) :
    o.Exact front := by
  intro types args s _ _ _ hs v hv
  unfold resultType? at hs
  rw [ho] at hs
  exact Option.some.inj hs ▸ exact_of_type_eq (h args v hv)

theorem run1_eq_ok {f : Value → Outcome Value} {args : List Value} {v : Value}
    (h : run1 f args = .ok v) : ∃ x, f x = .ok v := by
  unfold run1 at h
  split at h
  · exact ⟨_, h⟩
  · cases h

theorem run2_eq_ok {f : Value → Value → Outcome Value} {args : List Value} {v : Value}
    (h : run2 f args = .ok v) : ∃ x y, f x y = .ok v := by
  unfold run2 at h
  split at h
  · exact ⟨_, _, h⟩
  · cases h

theorem exact_unary {t : ValueType} {f : Value → Outcome Value}
    (h : ∀ x v, f x = .ok v → v.type = t) : (unary (.fixed t) f).Exact [] := by
  refine exact_of_fixed rfl fun args v hv => ?_
  obtain ⟨x, hx⟩ := run1_eq_ok hv
  exact h x v hx

theorem exact_binary {t : ValueType} {f : Value → Value → Outcome Value}
    (h : ∀ x y v, f x y = .ok v → v.type = t) : (binary (.fixed t) f).Exact [] := by
  refine exact_of_fixed rfl fun args v hv => ?_
  obtain ⟨x, y, hxy⟩ := run2_eq_ok hv
  exact h x y v hxy

theorem exact_getter {t : ValueType} {f : Value → Outcome Value} {r : Value}
    (h : ∀ x v, f x = .ok v → v.type = t) : (getter t f).Exact [r] := by
  refine exact_of_fixed rfl fun args v hv => ?_
  obtain ⟨x, hx⟩ := run1_eq_ok hv
  exact h x v hx

/-- A function of one number that keeps its kind. -/
theorem exact_of_kept {f : Value → Outcome Value} (h : ∀ x v, f x = .ok v → v.type = x.type) :
    (Overload.unary .promoted f).Exact [] := by
  intro types args t hlength _ hexact ht v hv
  obtain ⟨a, rfl⟩ := List.length_eq_one_iff.1 hlength
  obtain _ | ⟨hx, ⟨⟩⟩ := hexact rfl
  obtain rfl : a = t := Option.some.inj (common_of_promoted rfl ht)
  exact hx.congr (h _ v hv)

/-- A function of two numbers with exact results for exact arguments. -/
theorem exact_of_common {f : Value → Value → Outcome Value}
    (h : ∀ (a b t : ValueType) (x y v : Value), a.promote b = some t → a.Exact x → b.Exact y →
      f x y = .ok v → t.Exact v) : (Overload.binary .promoted f).Exact [] := by
  intro types args t hlength _ hexact ht v hv
  obtain ⟨a, b, rfl⟩ := List.length_eq_two.1 hlength
  obtain _ | ⟨hx, _ | ⟨hy, ⟨⟩⟩⟩ := hexact rfl
  have hcommon : a.promote b = some t := by simpa using common_of_promoted rfl ht
  exact h a b t _ _ v hcommon hx hy hv

end Overload

/-- A registry all of whose overloads are exact. -/
structure Registry.Exact (r : Registry) : Prop where
  functions : ∀ m ∈ r.modules, ∀ name f, m.function? name = some f →
    ∀ o ∈ f.overloads, o.Exact []
  members : ∀ m ∈ r.allMembers, ∀ o ∈ m.overloads, ∀ r, m.receiver.accepts r = true → o.Exact [r]

/-! ## The standard catalog -/

namespace Catalog

theorem choose_exact {name : String} {want : Ordering} {a b t : ValueType} {x y v : Value}
    (h : a.promote b = some t) (hx : a.Exact x) (hy : b.Exact y)
    (hv : choose name (NumericPair.pick want) x y = .ok v) : t.Exact v := by
  obtain ⟨p, hp, htype⟩ := choose_type hv
  exact exact_of_promote? h hx hy hp htype

theorem clamp_exact : (Overload.ternary .promoted clamp).Exact [] := by
  intro types args t hlength _ hexact ht v hv
  obtain ⟨a, b, c, rfl⟩ := List.length_eq_three.1 hlength
  obtain _ | ⟨hx, _ | ⟨hlow, _ | ⟨hhigh, ⟨⟩⟩⟩⟩ := hexact rfl
  obtain ⟨s, hs, ht⟩ : ∃ s, a.promote b = some s ∧ s.promote c = some t := by
    simpa [Option.bind_eq_some_iff] using Overload.common_of_promoted rfl ht
  have hv : clamp _ _ _ = .ok v := hv
  unfold clamp at hv
  split at hv
  · cases hv
  · split at hv
    · cases hv
    · -- first the larger of the number and the lower bound, then the smaller of that and the upper
      obtain ⟨raised, hraised, hv⟩ := except_bind_eq_ok.1 hv
      exact choose_exact ht (choose_exact hs hx hlow hraised) hhigh hv

/-- The number of places is a signed integer, which changes no known type. -/
theorem roundTo_exact {a b t : ValueType} {x y v : Value} (h : a.promote b = some t)
    (hx : a.Exact x) (hy : b.Exact y) (hv : roundTo x y = .ok v) : t.Exact v := by
  have hplaces : y.type = .int := by
    unfold roundTo at hv
    split at hv
    · rfl
    · cases hv
  have hkept : t = .dynamic ∨ t = a := by
    -- either nothing is known of the places, and so of the result, or they are signed
    by_cases hb : b = .dynamic
    · subst hb
      cases a <;> simp_all [promote, maybeNumeric, isNumeric]
    · obtain rfl : .int = b := hplaces ▸ hy.eq_of_numeric (hplaces ▸ rfl) hb
      cases a <;> simp_all [promote, maybeNumeric, isNumeric]
  rcases hkept with hdynamic | rfl
  · exact .inl hdynamic
  · exact hx.congr (roundTo_type hv)

theorem power_type {x y v : Value} (h : power x y = .ok v) : v.type = .float := by
  obtain ⟨_, -, h⟩ := except_bind_eq_ok.1 h
  obtain ⟨_, -, rfl⟩ := except_map_eq_ok.1 h
  rfl

theorem mathFunctions_exact : ∀ f ∈ mathModule.functions, ∀ o ∈ f.overloads, o.Exact [] := by
  have hround (name : String) (onDouble : Float → Float) (onDecimal : Decimal → Decimal) :
      ∀ o ∈ (rounding name onDouble onDecimal).overloads, o.Exact [] :=
    List.forall_mem_singleton.2 (Overload.exact_of_kept fun _ _ => roundWith_type)
  have hchoose (name : String) (want : Ordering) :
      ∀ o ∈ [Overload.binary .promoted (choose name (NumericPair.pick want))], o.Exact [] :=
    List.forall_mem_singleton.2 (Overload.exact_of_common fun _ _ _ _ _ _ => choose_exact)
  have hroot (x v : Value) (h : squareRoot x = .ok v) : v.type = .float := by
    obtain ⟨_, -, rfl⟩ := except_map_eq_ok.1 h
    rfl
  have hsign : (Overload.unary (.fixed .int) sign).Exact [] :=
    (Overload.honest_unary sign_gives).exact rfl
  simp only [mathModule, List.forall_mem_cons]
  exact ⟨⟨Overload.exact_of_kept fun _ _ => abs_type, List.forall_mem_nil _⟩,
    List.forall_mem_cons.1 (hchoose _ _), List.forall_mem_cons.1 (hchoose _ _),
    ⟨clamp_exact, List.forall_mem_nil _⟩,
    ⟨Overload.exact_of_kept fun _ _ => roundWith_type,
      Overload.exact_of_common fun _ _ _ _ _ _ => roundTo_exact, List.forall_mem_nil _⟩,
    hround _ _ _, hround _ _ _, hround _ _ _,
    ⟨Overload.exact_binary fun _ _ _ => power_type, List.forall_mem_nil _⟩,
    ⟨Overload.exact_unary hroot, List.forall_mem_nil _⟩,
    ⟨hsign, List.forall_mem_nil _⟩, List.forall_mem_nil _⟩

/-- Outside of the mathematical functions only two conversions and two readers of documents have a
result of type `float` or `decimal`. -/
theorem standardFunctions_exact : ∀ m ∈ standardModules, ∀ f ∈ m.functions, ∀ o ∈ f.overloads,
    o.result.isSettled = true ∨ o.Exact [] := by
  have hconvert : ∀ f ∈ convertModule.functions, ∀ o ∈ f.overloads,
      o.result.isSettled = true ∨ o.Exact [] := by
    -- a conversion wraps whatever it has read in one and the same way
    have hmap {α : Type} {t : ValueType} {read : Value → Outcome α} {wrap : α → Value}
        (hwrap : ∀ x, (wrap x).type = t) (x v : Value) (h : (read x).map wrap = .ok v) :
        v.type = t := by
      obtain ⟨y, -, rfl⟩ := except_map_eq_ok.1 h
      exact hwrap y
    simp only [convertModule, List.forall_mem_cons]
    exact ⟨⟨.inl rfl, List.forall_mem_nil _⟩,
      ⟨.inr (Overload.exact_unary (hmap fun _ => rfl)), List.forall_mem_nil _⟩,
      ⟨.inr (Overload.exact_unary (hmap fun _ => rfl)), List.forall_mem_nil _⟩,
      ⟨.inl rfl, List.forall_mem_nil _⟩, ⟨.inl rfl, List.forall_mem_nil _⟩,
      List.forall_mem_nil _⟩
  have hmath : ∀ f ∈ mathModule.functions, ∀ o ∈ f.overloads,
      o.result.isSettled = true ∨ o.Exact [] :=
    fun f hf o ho => .inr (mathFunctions_exact f hf o ho)
  have hsettled : ∀ m ∈ [stringModule, charModule, patternModule, patternOptionsModule,
      documentModule, dateTimeModule, dayOfWeekModule], ∀ f ∈ m.functions, ∀ o ∈ f.overloads,
        o.result.isSettled = true := by decide
  have hother : ∀ m ∈ [stringModule, charModule, patternModule, patternOptionsModule,
      documentModule, dateTimeModule, dayOfWeekModule], ∀ f ∈ m.functions, ∀ o ∈ f.overloads,
        o.result.isSettled = true ∨ o.Exact [] :=
    fun m hm f hf o ho => .inl (hsettled m hm f hf o ho)
  simp only [List.forall_mem_cons] at hother
  obtain ⟨hstring, hchar, hpattern, hoptions, hdocument, hdateTime, hdayOfWeek, -⟩ := hother
  simp only [standardModules, List.forall_mem_cons]
  exact ⟨hmath, hstring, hchar, hconvert, hpattern, hoptions, hdocument, hdateTime, hdayOfWeek,
    List.forall_mem_nil _⟩

theorem standardMembers_exact : ∀ m ∈ standardMembers, ∀ o ∈ m.overloads, ∀ r,
    o.result.isSettled = true ∨ o.Exact [r] := by
  have hreader {name : String} {t : ValueType} {α : Type} {read? : Json → Option α}
      {wrap : α → Value} (hwrap : ∀ x, (wrap x).type = t) : ∀ o ∈ (elementGetter name t
        fun j => (read? j).map wrap).overloads, ∀ r, o.result.isSettled = true ∨ o.Exact [r] := by
    refine List.forall_mem_singleton.2 fun r => .inr (Overload.exact_getter fun x v h => ?_)
    obtain ⟨j, -, h⟩ := except_bind_eq_ok.1 h
    split at h
    · rename_i w hw
      obtain ⟨y, -, rfl⟩ := Option.map_eq_some_iff.1 hw
      obtain rfl := Except.ok.inj h
      exact hwrap y
    · cases h
  have hsettled : ∀ m ∈ stringMembers ++ dateTimeMembers ++ sequenceMembers ++ objectMembers,
      ∀ o ∈ m.overloads, o.result.isSettled = true := by decide
  simp only [List.forall_mem_append] at hsettled
  obtain ⟨⟨⟨hstring, hdateTime⟩, hsequence⟩, hobject⟩ := hsettled
  have hjson : ∀ m ∈ jsonMembers, ∀ o ∈ m.overloads, ∀ r,
      o.result.isSettled = true ∨ o.Exact [r] := by
    have hplain {o : Overload} (ho : o.result.isSettled = true) :
        ∀ x ∈ [o], ∀ r, x.result.isSettled = true ∨ x.Exact [r] :=
      List.forall_mem_singleton.2 fun _ => .inl ho
    simp only [jsonMembers, List.forall_mem_cons]
    exact ⟨List.forall_mem_cons.1 (hplain rfl), List.forall_mem_cons.1 (hplain rfl),
      List.forall_mem_cons.1 (hplain rfl), hplain rfl, hplain rfl, hplain rfl, hplain rfl,
      hreader fun _ => rfl, hreader fun _ => rfl, hplain rfl, List.forall_mem_nil _⟩
  simp only [standardMembers, List.forall_mem_append]
  exact ⟨⟨⟨⟨fun m hm o ho _ => .inl (hstring m hm o ho),
    fun m hm o ho _ => .inl (hdateTime m hm o ho)⟩, hjson⟩,
    fun m hm o ho _ => .inl (hsequence m hm o ho)⟩,
    fun m hm o ho _ => .inl (hobject m hm o ho)⟩

end Catalog

/-- The standard catalog has exact results for exact arguments. -/
theorem Registry.standard_exact : Registry.standard.Exact where
  functions m hm name f hf o ho := by
    have hhonest : o.Honest [] := Registry.standard_honest.modules m hm name f hf o ho
    rw [Policy.standard_modules] at hm
    have hfunction : f ∈ m.functions := List.mem_of_find?_eq_some hf
    rcases Catalog.standardFunctions_exact m hm f hfunction o ho with hsettled | hexact
    · exact hhonest.exact hsettled
    · exact hexact
  members m hm o ho r hr := by
    have hhonest : o.Honest [r] := Registry.standard_honest.members m hm o ho r hr
    rw [Policy.standard_allMembers] at hm
    rcases Catalog.standardMembers_exact m hm o ho r with hsettled | hexact
    · exact hhonest.exact hsettled
    · exact hexact

end GatedPredicate
