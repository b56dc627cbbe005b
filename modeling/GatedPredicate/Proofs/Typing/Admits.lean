import GatedPredicate.Bound.Eval
import GatedPredicate.Bound.Typing
import GatedPredicate.Proofs.Outcome

/-!
# Values of a static type

The type of an expression is less than the type of its values. Null is a value of every type, and
conditionals and number functions hand back numbers as they are: an expression of type `float` may
have any number as its value, and one of type `decimal` an integer. Every operator keeps its
promise under this reading of types.

Whether a type admits a value depends on the type of the value only, so most of this is about
pairs of types.

- `ValueType.Covers`, `ValueType.Admits`
- `Covers.promote_left`, `Covers.promote_right`: a common type covers what its parts cover
- `promote?_type`: the kind in which two numbers meet
- `negate_admits`, `applyBinary_admits`, `indexInto_admits`: one lemma for each operation
-/

namespace GatedPredicate

open GatedPredicate.Syntax GatedPredicate.ValueType

namespace ValueType

/-- `t.Covers s`: values of type `s` may turn up where the static type is `t`. -/
def Covers (t s : ValueType) : Prop :=
  t = .dynamic ∨ s = .null ∨ s = t ∨ (t = .float ∧ s.isNumeric = true) ∨
    (t = .decimal ∧ (s = .int ∨ s = .uint))

instance (t s : ValueType) : Decidable (t.Covers s) := by
  unfold Covers
  infer_instance

/-- `t.Admits v`: an expression of static type `t` may have the value `v`. -/
def Admits (t : ValueType) (v : Value) : Prop := t.Covers v.type

instance (t : ValueType) (v : Value) : Decidable (t.Admits v) :=
  inferInstanceAs (Decidable (t.Covers v.type))

variable {a b s t : ValueType} {v : Value}

@[simp]
theorem dynamic_covers : Covers .dynamic s := .inl rfl

@[simp]
theorem covers_null : t.Covers .null := .inr (.inl rfl)

@[simp]
theorem covers_self : t.Covers t := .inr (.inr (.inl rfl))

@[simp]
theorem admits_type : v.type.Admits v := covers_self

@[simp]
theorem dynamic_admits : Admits .dynamic v := dynamic_covers

theorem admits_of_type_eq (h : v.type = t) : t.Admits v := h ▸ admits_type

/-- A type that covers `bool` may be `bool`. -/
theorem maybeBool_of_covers (h : t.Covers .bool) : t.maybeBool = true := by
  cases t <;> simp_all [Covers, maybeBool, isNumeric]

/-! ## Common types -/

theorem promote_comm (a b : ValueType) : a.promote b = b.promote a := by
  cases a <;> cases b <;> rfl

/-- What a common type tells about the two types. -/
theorem promote_cases (h : a.promote b = some t) :
    t = .dynamic ∨ (t = .float ∧ a.isNumeric = true) ∨
      (t = .decimal ∧ (a = .int ∨ a = .uint ∨ a = .decimal)) ∨
      (t = a ∧ a.isNumeric = true) := by
  cases a <;> cases b <;> simp_all [promote, maybeNumeric, isNumeric]

/-- A type of numbers covers null and types of numbers only. -/
theorem Covers.isNumeric (h : t.Covers s) (ht : t.isNumeric = true) :
    s = .null ∨ s.isNumeric = true := by
  rcases h with rfl | hnull | rfl | ⟨-, hs⟩ | ⟨-, hs⟩
  · cases ht
  · exact .inl hnull
  · exact .inr ht
  · exact .inr hs
  · rcases hs with rfl | rfl <;> exact .inr rfl

/-- The common type of two types covers what the first one covers. -/
theorem Covers.promote_left (h : a.promote b = some t) (ha : a.Covers s) : t.Covers s := by
  rcases promote_cases h with rfl | ⟨rfl, hnumeric⟩ | ⟨rfl, hexact⟩ | ⟨rfl, -⟩
  · exact dynamic_covers
  · -- floating point numbers: any number will do
    rcases ha.isNumeric hnumeric with rfl | hs
    · exact covers_null
    · exact .inr (.inr (.inr (.inl ⟨rfl, hs⟩)))
  · -- decimals: integers and decimals will do
    rcases hexact with rfl | rfl | rfl
    · rcases ha with h | rfl | rfl | ⟨h, -⟩ | ⟨h, -⟩ <;> first | cases h | decide
    · rcases ha with h | rfl | rfl | ⟨h, -⟩ | ⟨h, -⟩ <;> first | cases h | decide
    · exact ha
  · exact ha

/-- The common type of two types covers what the second one covers. -/
theorem Covers.promote_right (h : a.promote b = some t) (hb : b.Covers s) : t.Covers s :=
  hb.promote_left (promote_comm b a ▸ h)

/-- Where a signed and an unsigned integer may meet, so may two decimals. -/
theorem Covers.promote_mixed (h : a.promote b = some t) (ha : a.Covers .int) (hb : b.Covers .uint) :
    t.Covers .decimal := by
  cases a <;> cases b <;> simp_all [promote, Covers, ValueType.isNumeric, maybeNumeric]

theorem Covers.of_null (h : Covers .null s) : s = .null := by
  rcases h with h | hs | hs | ⟨h, -⟩ | ⟨h, -⟩
  · cases h
  · exact hs
  · exact hs
  · cases h
  · cases h

/-- Only the unsigned integers are a type for them and not for signed ones. -/
theorem Covers.int_of_uint (h : t.Covers .uint) (ht : t ≠ .uint) : t.Covers .int := by
  rcases h with rfl | h | h | ⟨rfl, -⟩ | ⟨rfl, -⟩
  · exact dynamic_covers
  · cases h
  · exact absurd h.symm ht
  · decide
  · decide

/-- A value of a static text is no number. -/
theorem Covers.not_numeric_of_string (h : Covers .string s) : ¬ s.isNumeric = true := by
  rcases h with h | rfl | rfl | ⟨h, -⟩ | ⟨h, -⟩
  · cases h
  · decide
  · decide
  · cases h
  · cases h

/-- A value of a static number is no text. -/
theorem Covers.not_string_of_promote (h : a.promote b = some t) (ha : a ≠ .dynamic) :
    ¬ a.Covers .string := by
  intro hcovers
  -- a common type exists for types that may be numbers, and `a` is known to be one
  have hnumeric : a.isNumeric = true := by
    unfold promote at h
    split at h
    · rename_i hmaybe
      have hmaybe := (Bool.and_eq_true_iff.1 hmaybe).1
      simpa [maybeNumeric, ha] using hmaybe
    · cases h
  rcases hcovers.isNumeric hnumeric with hs | hs
  · cases hs
  · cases hs

/-- A conditional covers what its first branch covers. -/
theorem Covers.conditional_left (h : conditionalType a b = .ok t) (ha : a.Covers s) :
    t.Covers s := by
  unfold conditionalType at h
  split at h
  · exact Except.ok.inj h ▸ ha
  split at h
  · -- a branch that is null gives way to the other one
    rename_i hnull
    subst hnull
    exact ha.of_null ▸ covers_null
  split at h
  · exact Except.ok.inj h ▸ ha
  split at h
  · exact Except.ok.inj h ▸ dynamic_covers
  split at h
  · rename_i hpromote
    exact Except.ok.inj h ▸ ha.promote_left hpromote
  · cases h

/-- A conditional covers what its second branch covers. -/
theorem Covers.conditional_right (h : conditionalType a b = .ok t) (hb : b.Covers s) :
    t.Covers s := by
  unfold conditionalType at h
  split at h
  · rename_i heq
    exact Except.ok.inj h ▸ heq ▸ hb
  split at h
  · exact Except.ok.inj h ▸ hb
  split at h
  · rename_i hnull
    subst hnull
    exact hb.of_null ▸ covers_null
  split at h
  · exact Except.ok.inj h ▸ dynamic_covers
  split at h
  · rename_i hpromote
    exact Except.ok.inj h ▸ hb.promote_right hpromote
  · cases h

end ValueType

/-! ## Numbers -/

/-- The kind of the numbers in a pair. -/
def NumericPair.type : NumericPair → ValueType
  | .int _ _ => .int
  | .uint _ _ => .uint
  | .float _ _ => .float
  | .decimal _ _ => .decimal

@[simp]
theorem NumericPair.first_type (p : NumericPair) : p.first.type = p.type := by
  cases p <;> rfl

@[simp]
theorem NumericPair.swap_type (p : NumericPair) : p.swap.type = p.type := by
  cases p <;> rfl

@[simp]
theorem NumericPair.second_type (p : NumericPair) : p.second.type = p.type := by
  rw [second, first_type, swap_type]

theorem NumericPair.pick_type (want : Ordering) (p : NumericPair) :
    (p.pick want).type = p.type := by
  unfold pick
  split
  · rfl
  · split
    · exact first_type _
    · exact second_type _

/-- An integer and one of the other kind meet in one of their kinds or in decimals. -/
theorem mixedPair_type (x : Int64) (y : UInt64) :
    (mixedPair x y).type = .int ∨ (mixedPair x y).type = .uint ∨
      (mixedPair x y).type = .decimal := by
  unfold mixedPair
  cases Number.int64? y.toNat with
  | some n => exact .inl rfl
  | none =>
    dsimp only [Option.elim]
    unfold widePair
    split
    · exact .inr (.inl rfl)
    · exact .inr (.inr rfl)

/-- Two numbers meet in the kind of one of them, save that a signed and an unsigned integer may
meet in decimals. -/
theorem promote?_type {x y : Value} {p : NumericPair} (h : promote? x y = some p) :
    p.type = x.type ∨ p.type = y.type ∨
      (p.type = .decimal ∧
        ((x.type = .int ∧ y.type = .uint) ∨ (x.type = .uint ∧ y.type = .int))) := by
  unfold promote? at h
  split at h
  · exact .inl (Option.some.inj h ▸ rfl)
  · exact .inl (Option.some.inj h ▸ rfl)
  -- a signed and an unsigned integer, in either order
  · rename_i x y
    rcases mixedPair_type x y with ht | ht | ht
    · exact .inl (Option.some.inj h ▸ ht)
    · exact .inr (.inl (Option.some.inj h ▸ ht))
    · exact .inr (.inr ⟨Option.some.inj h ▸ ht, .inl ⟨rfl, rfl⟩⟩)
  · rename_i x y
    rw [← Option.some.inj h, NumericPair.swap_type]
    rcases mixedPair_type y x with ht | ht | ht
    · exact .inr (.inl ht)
    · exact .inl ht
    · exact .inr (.inr ⟨ht, .inr ⟨rfl, rfl⟩⟩)
  -- a floating point number or a decimal imposes its kind on the other operand
  · obtain ⟨_, -, rfl⟩ := Option.map_eq_some_iff.1 h
    exact .inl rfl
  · obtain ⟨_, -, rfl⟩ := Option.map_eq_some_iff.1 h
    exact .inr (.inl rfl)
  · obtain ⟨_, -, rfl⟩ := Option.map_eq_some_iff.1 h
    exact .inl rfl
  · obtain ⟨_, -, rfl⟩ := Option.map_eq_some_iff.1 h
    exact .inr (.inl rfl)
  · cases h

theorem toDouble?_numeric {v : Value} {x : Float} (h : v.toDouble? = some x) :
    v.type.isNumeric = true := by
  cases v <;> first | rfl | cases h

theorem toDecimal?_numeric {v : Value} {d : Decimal} (h : v.toDecimal? = some d) :
    v.type.isNumeric = true := by
  cases v <;> first | rfl | cases h

/-- Only numbers meet. -/
theorem promote?_numeric {x y : Value} {p : NumericPair} (h : promote? x y = some p) :
    x.type.isNumeric = true ∧ y.type.isNumeric = true := by
  unfold promote? at h
  split at h
  · exact ⟨rfl, rfl⟩
  · exact ⟨rfl, rfl⟩
  · exact ⟨rfl, rfl⟩
  · exact ⟨rfl, rfl⟩
  · obtain ⟨_, hy, -⟩ := Option.map_eq_some_iff.1 h
    exact ⟨rfl, toDouble?_numeric hy⟩
  · obtain ⟨_, hx, -⟩ := Option.map_eq_some_iff.1 h
    exact ⟨toDouble?_numeric hx, rfl⟩
  · obtain ⟨_, hy, -⟩ := Option.map_eq_some_iff.1 h
    exact ⟨rfl, toDecimal?_numeric hy⟩
  · obtain ⟨_, hx, -⟩ := Option.map_eq_some_iff.1 h
    exact ⟨toDecimal?_numeric hx, rfl⟩
  · cases h

/-- The kind in which two numbers meet is covered by the common type of their static types. -/
theorem ValueType.Covers.promote? {a b t : ValueType} {x y : Value} {p : NumericPair}
    (h : a.promote b = some t) (hx : a.Admits x) (hy : b.Admits y)
    (hp : GatedPredicate.promote? x y = some p) : t.Covers p.type := by
  rcases promote?_type hp with ht | ht | ⟨ht, ⟨hxt, hyt⟩ | ⟨hxt, hyt⟩⟩
  · exact ht ▸ Covers.promote_left h hx
  · exact ht ▸ Covers.promote_right h hy
  · exact ht ▸ Covers.promote_mixed h (hxt ▸ hx) (hyt ▸ hy)
  · exact ht ▸ Covers.promote_mixed (promote_comm b a ▸ h) (hyt ▸ hy) (hxt ▸ hx)

theorem NumericPair.apply_type {op : BinaryOp} {p : NumericPair} {v : Value}
    (h : p.apply op = .ok v) : v.type = p.type := by
  cases p <;>
  · obtain ⟨_, -, rfl⟩ := except_map_eq_ok.1 h
    rfl

/-! ## Operators -/

theorem negate_type {v w : Value} (h : v.negate = .ok w) :
    v.type.isNumeric = true ∧ w.type = if v.type = .uint then .int else v.type := by
  unfold Value.negate at h
  split at h
  · obtain ⟨_, -, rfl⟩ := except_map_eq_ok.1 h
    exact ⟨rfl, rfl⟩
  · obtain ⟨_, -, rfl⟩ := except_map_eq_ok.1 h
    exact ⟨rfl, rfl⟩
  · exact Except.ok.inj h ▸ ⟨rfl, rfl⟩
  · exact Except.ok.inj h ▸ ⟨rfl, rfl⟩
  · cases h

/-- The minus sign keeps its promise: an unsigned integer has a signed result, all other numbers
keep their kind. -/
theorem negate_admits {s t : ValueType} {v w : Value} (h : unaryType .neg t = .ok s)
    (hv : t.Admits v) (hw : v.negate = .ok w) : s.Admits w := by
  obtain ⟨hnumeric, htype⟩ := negate_type hw
  rw [ValueType.Admits, htype]
  rw [ValueType.Admits] at hv
  simp only [unaryType] at h
  split at h
  · -- an unsigned operand
    rename_i hunsigned
    subst hunsigned
    rw [← Except.ok.inj h]
    rcases hv with ht | hv | hv | ⟨ht, -⟩ | ⟨ht, -⟩
    · cases ht
    · rw [hv] at hnumeric
      cases hnumeric
    · rw [if_pos hv]
      exact .inr (.inr (.inl rfl))
    · cases ht
    · cases ht
  · -- any other operand: the type stays, and it covers the signed result of an unsigned value
    rename_i hsigned
    split at h
    · rw [← Except.ok.inj h]
      split
      · rename_i hunsigned
        rw [hunsigned] at hv
        exact hv.int_of_uint hsigned
      · exact hv
    · cases h

/-- `+` joins texts or adds numbers. -/
theorem applyAdd_cases {x y v : Value} (h : applyAdd x y = .ok v) :
    (v.type = .string ∧ (x.type = .string ∨ y.type = .string)) ∨
      applyArithmetic .add x y = .ok v := by
  unfold applyAdd at h
  split at h
  · exact .inl ⟨Except.ok.inj h ▸ rfl, .inl rfl⟩
  · exact .inl ⟨Except.ok.inj h ▸ rfl, .inr rfl⟩
  · exact .inr h

/-- An arithmetic operation gives a number of the kind in which its operands meet. -/
theorem applyArithmetic_cases {op : BinaryOp} {x y v : Value}
    (h : applyArithmetic op x y = .ok v) : ∃ p, promote? x y = some p ∧ v.type = p.type := by
  unfold applyArithmetic arithmetic? at h
  cases hp : promote? x y with
  | none => simp [hp] at h
  | some p =>
    rw [hp] at h
    exact ⟨p, rfl, NumericPair.apply_type h⟩

/-- An arithmetic operation keeps the promise of the common type. -/
theorem applyArithmetic_admits {op : BinaryOp} {a b t : ValueType} {x y v : Value}
    (h : a.promote b = some t) (hx : a.Admits x) (hy : b.Admits y)
    (hv : applyArithmetic op x y = .ok v) : t.Admits v := by
  obtain ⟨p, hp, htype⟩ := applyArithmetic_cases hv
  rw [ValueType.Admits, htype]
  exact ValueType.Covers.promote? h hx hy hp

theorem applyRelational_type {op : BinaryOp} {x y v : Value}
    (h : applyRelational op x y = .ok v) : v.type = .bool := by
  unfold applyRelational at h
  split at h
  · exact Except.ok.inj h ▸ rfl
  · split at h
    · exact Except.ok.inj h ▸ rfl
    · cases h

/-- An addition keeps its promise, whether it joins texts or adds numbers. -/
theorem applyAdd_admits {a b t : ValueType} {x y v : Value} (h : binaryType .add a b = .ok t)
    (hx : a.Admits x) (hy : b.Admits y) (hv : applyAdd x y = .ok v) : t.Admits v := by
  simp only [binaryType, true_and] at h
  split at h
  · -- a static text: numbers are not added
    rename_i hstring
    rw [← Except.ok.inj h]
    rcases applyAdd_cases hv with ⟨htype, -⟩ | hnumbers
    · exact ValueType.admits_of_type_eq htype
    · obtain ⟨p, hp, -⟩ := applyArithmetic_cases hnumbers
      obtain ⟨hxn, hyn⟩ := promote?_numeric hp
      rcases hstring with rfl | rfl
      · exact absurd hxn (Covers.not_numeric_of_string hx)
      · exact absurd hyn (Covers.not_numeric_of_string hy)
  · split at h
    · rename_i htype
      rw [Except.ok.inj h] at htype
      simp only [arithmeticType, true_and] at htype
      split at htype
      · rw [← Option.some.inj htype]
        exact ValueType.dynamic_admits
      · -- static numbers: texts are not joined
        rename_i hknown
        rcases applyAdd_cases hv with ⟨-, hstring⟩ | hnumbers
        · rw [not_or] at hknown
          rcases hstring with hs | hs
          · exact absurd (hs ▸ hx) (Covers.not_string_of_promote htype hknown.1)
          · exact absurd (hs ▸ hy)
              (Covers.not_string_of_promote (promote_comm b a ▸ htype) hknown.2)
        · exact applyArithmetic_admits htype hx hy hnumbers
    · cases h

/-- Every infix operator that needs both operands keeps its promise. -/
theorem applyBinary_admits {op : BinaryOp} {a b t : ValueType} {x y v : Value}
    (hand : op ≠ .and) (hor : op ≠ .or) (h : binaryType op a b = .ok t) (hx : a.Admits x)
    (hy : b.Admits y) (hv : applyBinary op x y = .ok v) : t.Admits v := by
  cases op with
  | and => exact absurd rfl hand
  | or => exact absurd rfl hor
  | add => exact applyAdd_admits h hx hy hv
  -- comparisons give truth values, whatever the operands are
  | eq | ne =>
    obtain rfl : .bool = t := Except.ok.inj h
    obtain rfl := Except.ok.inj hv
    exact admits_of_type_eq rfl
  | lt | le | gt | ge =>
    simp only [binaryType] at h
    split at h
    · obtain rfl : .bool = t := Except.ok.inj h
      exact admits_of_type_eq (applyRelational_type hv)
    · cases h
  | sub | mul | div | mod =>
    simp only [binaryType, arithmeticType, reduceCtorEq, false_and, if_false] at h
    split at h
    · rename_i htype
      rw [Except.ok.inj h] at htype
      exact applyArithmetic_admits htype hx hy hv
    · cases h

/-! ## Indexing -/

theorem mem_of_elementAt {items : List Value} {n : Int64} {v : Value}
    (h : elementAt items n = .ok v) : v ∈ items := by
  unfold elementAt at h
  split at h
  · unfold elementIn at h
    split at h
    · rename_i hget
      exact Except.ok.inj h ▸ List.mem_of_getElem? hget
    · cases h
  · cases h

/-- The elements of a text are characters, those of a JSON array are JSON values. -/
theorem indexable_types {x : Value} {items : List Value} (h : indexable x = .ok items) :
    x.type = .list ∨ (x.type = .string ∧ ∀ v ∈ items, v.type = .char) ∨
      (x.type = .json ∧ ∀ v ∈ items, v.type = .json) := by
  unfold indexable at h
  split at h
  · exact .inl rfl
  · refine .inr (.inl ⟨rfl, ?_⟩)
    obtain rfl := Except.ok.inj h
    simp [Value.type]
  · refine .inr (.inr ⟨rfl, ?_⟩)
    obtain rfl := Except.ok.inj h
    simp [Value.type]
  · cases h

theorem indexInto_types {x y v : Value} (h : indexInto x y = .ok v) :
    x.type = .list ∨ (x.type = .string ∧ v.type = .char) ∨ (x.type = .json ∧ v.type = .json) := by
  unfold indexInto at h
  split at h
  · dsimp only at h
    split at h
    · exact .inr (.inr ⟨rfl, Except.ok.inj h ▸ rfl⟩)
    · cases h
  · obtain ⟨n, -, h⟩ := except_bind_eq_ok.1 h
    obtain ⟨items, hitems, h⟩ := except_bind_eq_ok.1 h
    have hv := mem_of_elementAt h
    rcases indexable_types hitems with ht | ⟨ht, hall⟩ | ⟨ht, hall⟩
    · exact .inl ht
    · exact .inr (.inl ⟨ht, hall v hv⟩)
    · exact .inr (.inr ⟨ht, hall v hv⟩)

/-- Indexing keeps its promise. -/
theorem indexInto_admits {a b t : ValueType} {x y v : Value} (h : indexType a b = .ok t)
    (hx : a.Admits x) (hv : indexInto x y = .ok v) : t.Admits v := by
  rw [Admits] at hx
  -- the elements of a list are of any type, those of texts and documents are not
  unfold indexType at h
  split at h
  · split at h
    · exact Except.ok.inj h ▸ dynamic_admits
    · cases h
  · split at h
    · exact Except.ok.inj h ▸ dynamic_admits
    · cases h
  · split at h
    · obtain rfl := Except.ok.inj h
      rcases indexInto_types hv with ht | ⟨-, ht⟩ | ⟨ht, -⟩
      · rw [ht] at hx
        exact absurd hx (by decide)
      · exact admits_of_type_eq ht
      · rw [ht] at hx
        exact absurd hx (by decide)
    · cases h
  · split at h
    · obtain rfl := Except.ok.inj h
      rcases indexInto_types hv with ht | ⟨ht, -⟩ | ⟨-, ht⟩
      · rw [ht] at hx
        exact absurd hx (by decide)
      · rw [ht] at hx
        exact absurd hx (by decide)
      · exact admits_of_type_eq ht
    · cases h
  · cases h

end GatedPredicate
