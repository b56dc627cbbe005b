import GatedPredicate.Proofs.Number.Doubles
import GatedPredicate.Proofs.Number.Integers
import GatedPredicate.Value.Compare
import Mathlib.Data.String.Basic
import Mathlib.Tactic.FieldSimp

/-!
# The order of values

Values compare by what they stand for. Two numbers are first brought to a common kind, which leaves
the numbers as they are unless one is a double, so the order of integers and decimals is that of the
rational numbers, whatever their kinds. Where two values have an order and are numbers if they are
doubles, the six operators that compare tell one and the same order; where there is none, the
relational operators fail.

- `NumericPair.compare_swap`, `promote?_swap`, `Value.compare_swap`: exchanging the two sides
- `promote?_rational`, `NumericPair.compare_rational`: integers and decimals
- `NumericPair.compare_eq_none`, `Value.compare_isSome`: where there is an order
- `Value.equals_of_compare`: equality is the order's own
- `TellsOrder`, `NotComparable`, `comparison_by_value`
-/

namespace GatedPredicate

open GatedPredicate.Number GatedPredicate.Syntax

/-! ## Orders of the kinds -/

namespace Decimal

theorem scaled_eq (d : Decimal) : (d.scaled : ℚ) = d.value * 10 ^ 28 := by
  have hpower : (10 : ℚ) ^ 28 = 10 ^ (28 - d.scale) * 10 ^ d.scale := by
    rw [← pow_add, Nat.sub_add_cancel d.scale_le]
  rw [scaled, value, hpower]
  push_cast
  field_simp

/-- Decimals are compared by their values. -/
theorem compare_eq (a b : Decimal) : a.compare b = Ord.compare a.value b.value := by
  have hmono : StrictMono fun x : ℚ => x * 10 ^ 28 :=
    strictMono_mul_right_of_pos (by positivity)
  rw [Decimal.compare, ← cmp_eq_compare, ← cmp_eq_compare, ← hmono.cmp_map_eq,
    ← (Int.cast_strictMono (R := ℚ)).cmp_map_eq, scaled_eq, scaled_eq]

end Decimal

theorem Date.compare_swap (a b : Date) : b.compare a = (a.compare b).swap := by
  simp only [Date.compare, Ordering.swap_then, Int.compare_swap, Nat.compare_swap]

theorem Date.compare_eq_iff (a b : Date) : a.compare b = .eq ↔ a = b := by
  simp only [Date.compare, Ordering.then_eq_eq, Int.compare_eq_eq, Nat.compare_eq_eq]
  constructor
  · rintro ⟨hyear, hmonth, hday⟩
    cases a
    cases b
    simp_all
  · rintro rfl
    simp

theorem DateTime.compare_swap (a b : DateTime) : b.compare a = (a.compare b).swap := by
  simp only [DateTime.compare, Ordering.swap_then, Date.compare_swap a.date, Nat.compare_swap]

theorem DateTime.compare_eq_iff (a b : DateTime) : a.compare b = .eq ↔ a = b := by
  simp only [DateTime.compare, Ordering.then_eq_eq, Date.compare_eq_iff, Nat.compare_eq_eq]
  constructor
  · rintro ⟨hdate, hsecond, hnano⟩
    cases a
    cases b
    simp_all
  · rintro rfl
    simp

/-! ## Numbers of one kind -/

namespace NumericPair

@[simp]
theorem swap_swap (p : NumericPair) : p.swap.swap = p := by
  cases p <;> rfl

theorem compare_swap (p : NumericPair) : p.swap.compare = p.compare.map Ordering.swap := by
  cases p with
  | int a b => simp [swap, compare, Int.compare_swap]
  | uint a b => simp [swap, compare, Nat.compare_swap]
  | float a b => exact compareDoubles_swap a b
  | decimal a b => simp [swap, compare, Decimal.compare, Int.compare_swap]

/-- Numbers of one kind compare as the rational numbers that they stand for. -/
theorem compare_rational {p : NumericPair} {x y : ℚ} (hx : p.first.rational? = some x)
    (hy : p.second.rational? = some y) : p.compare = some (Ord.compare x y) := by
  cases p with
  | int a b =>
    obtain rfl := Option.some.inj hx
    obtain rfl := Option.some.inj hy
    rw [compare, ← cmp_eq_compare, ← cmp_eq_compare, Int.cast_strictMono.cmp_map_eq]
  | uint a b =>
    obtain rfl := Option.some.inj hx
    obtain rfl := Option.some.inj hy
    rw [compare, ← cmp_eq_compare, ← cmp_eq_compare, Nat.strictMono_cast.cmp_map_eq]
  | float a b => cases hx
  | decimal a b =>
    obtain rfl := Option.some.inj hx
    obtain rfl := Option.some.inj hy
    rw [compare, Decimal.compare_eq]

theorem compare_eq_none {p : NumericPair} :
    p.compare = none ↔ ∃ x y, p = .float x y ∧ (x.isNaN = true ∨ y.isNaN = true) := by
  cases p <;> simp [compare, compareDoubles_eq_none]

end NumericPair

/-! ## The common kind -/

section Promotion

variable {a b : Value} {x y : ℚ}

theorem promote?_float_left (u : Float) (b : Value) :
    promote? (.float u) b = b.toDouble?.map (.float u) := by
  cases b <;> rfl

theorem promote?_float_right (a : Value) (v : Float) :
    promote? a (.float v) = a.toDouble?.map (.float · v) := by
  cases a <;> rfl

theorem promote?_float_swap (u : Float) (b : Value) :
    promote? b (.float u) = (promote? (.float u) b).map NumericPair.swap := by
  rw [promote?_float_left, promote?_float_right, Option.map_map]
  rfl

/-- Which side comes first makes no difference to the kind in which two numbers meet. -/
theorem promote?_swap (a b : Value) : promote? b a = (promote? a b).map NumericPair.swap := by
  have hfloat (a : Value) (v : Float) :
      promote? (.float v) a = (promote? a (.float v)).map NumericPair.swap := by
    rw [promote?_float_swap, Option.map_map]
    cases promote? (.float v) a <;> simp
  have hmixed (m : Int64) (n : UInt64) :
      promote? (.int m) (.uint n) = (promote? (.uint n) (.int m)).map NumericPair.swap := by
    simp only [promote?, Option.map_some, NumericPair.swap_swap]
  -- doubles and pairs of both kinds of integers have rows of their own; the others are mirrored
  cases a with
  | float u => exact promote?_float_swap u b
  | uint n =>
    cases b with
    | float v => exact hfloat _ v
    | int m => exact hmixed m n
    | _ => rfl
  | _ =>
    cases b with
    | float v => exact hfloat _ v
    | _ => rfl

/-- The two numbers of a pair of integers. -/
theorem NumericPair.Stands.rational {p : NumericPair} {m n : Int} (h : p.Stands m n) :
    p.first.rational? = some (m : ℚ) ∧ p.second.rational? = some (n : ℚ) := by
  cases h with
  | int a b => exact ⟨rfl, rfl⟩
  | uint a b => simp [NumericPair.first, NumericPair.second, NumericPair.swap, Value.rational?]
  | decimal ha hb => exact ⟨congrArg some ha.value, congrArg some hb.value⟩

/-- A number that stands for a rational one is an integer or a decimal. -/
theorem rational?_cases (h : a.rational? = some x) :
    (∃ n : Integer, a = n.value ∧ x = n.toInt) ∨ ∃ d, a = .decimal d ∧ x = d.value := by
  cases a with
  | int n => exact .inl ⟨.signed n, rfl, (Option.some.inj h).symm⟩
  | uint n => exact .inl ⟨.unsigned n, rfl, by simpa [Integer.toInt] using (Option.some.inj h).symm⟩
  | decimal d => exact .inr ⟨d, rfl, (Option.some.inj h).symm⟩
  | _ => cases h

/-- An integer as a decimal. -/
theorem toDecimal?_integer (n : Integer) :
    ∃ d, n.value.toDecimal? = some d ∧ d.value = n.toInt := by
  cases n with
  | signed n => exact ⟨_, rfl, (Decimal.ofInt64_whole n).value⟩
  | unsigned n => exact ⟨_, rfl, (Decimal.ofUInt64_whole n).value⟩

/-- Integers and decimals keep their values when they are brought to a common kind. -/
theorem promote?_rational (ha : a.rational? = some x) (hb : b.rational? = some y) :
    ∃ p, promote? a b = some p ∧ p.first.rational? = some x ∧ p.second.rational? = some y := by
  rcases rational?_cases ha with ⟨m, rfl, rfl⟩ | ⟨d, rfl, rfl⟩
  · rcases rational?_cases hb with ⟨n, rfl, rfl⟩ | ⟨e, rfl, rfl⟩
    · obtain ⟨p, hp, -, hstands⟩ := NumericPair.promote?_integers m n
      exact ⟨p, hp, hstands.rational⟩
    · obtain ⟨d, hd, hvalue⟩ := toDecimal?_integer m
      refine ⟨.decimal d e, ?_, congrArg some hvalue, rfl⟩
      have hmeet : promote? m.value (.decimal e) = m.value.toDecimal?.map (.decimal · e) := by
        cases m <;> rfl
      rw [hmeet, hd, Option.map_some]
  · rcases rational?_cases hb with ⟨n, rfl, rfl⟩ | ⟨e, rfl, rfl⟩
    · obtain ⟨e, he, hvalue⟩ := toDecimal?_integer n
      refine ⟨.decimal d e, ?_, rfl, congrArg some hvalue⟩
      have hmeet : promote? (.decimal d) n.value = n.value.toDecimal?.map (.decimal d) := by
        cases n <;> rfl
      rw [hmeet, he, Option.map_some]
    · exact ⟨.decimal d e, rfl, rfl, rfl⟩

end Promotion

/-! ## Values -/

namespace Value

variable {a b : Value} {p : NumericPair} {x y : ℚ}

theorem compare_of_promote (h : promote? a b = some p) : a.compare b = p.compare := by
  unfold Value.compare
  rw [h]

theorem equals_of_promote (h : promote? a b = some p) :
    a.equals b = (p.compare == some .eq) := by
  have hleaf : a.leafEquals b = (p.compare == some .eq) := by
    rw [leafEquals, h]
  rw [← hleaf]
  cases a with
  | list xs => cases b <;> cases h
  | _ => rw [equals]; simp

/-- Integers and decimals compare as the rational numbers that they stand for. -/
theorem compare_rational (ha : a.rational? = some x) (hb : b.rational? = some y) :
    a.compare b = some (Ord.compare x y) := by
  obtain ⟨p, hp, hx, hy⟩ := promote?_rational ha hb
  rw [compare_of_promote hp, p.compare_rational hx hy]

/-- Integers and decimals are equal if they stand for the same rational number. -/
theorem equals_rational (ha : a.rational? = some x) (hb : b.rational? = some y) :
    a.equals b = true ↔ x = y := by
  obtain ⟨p, hp, hx, hy⟩ := promote?_rational ha hb
  rw [equals_of_promote hp, p.compare_rational hx hy, beq_iff_eq, Option.some.injEq,
    compare_eq_iff_eq]

/-- What the two sides of an order are makes no difference to it. -/
theorem compare_swap (a b : Value) : b.compare a = (a.compare b).map Ordering.swap := by
  unfold Value.compare
  rw [promote?_swap a b]
  cases promote? a b with
  | some p => exact p.compare_swap
  | none =>
    -- besides numbers three kinds have an order
    cases a <;> cases b <;> first | rfl | skip
    case char c d => exact congrArg some Std.OrientedOrd.eq_swap
    case string s t => exact congrArg some Std.OrientedOrd.eq_swap
    case dateTime s t => exact congrArg some (DateTime.compare_swap s t)

/-- Two values of one order are equal if and only if the order says so. -/
theorem equals_of_compare {order : Ordering} (h : a.compare b = some order) :
    a.equals b = (order == .eq) := by
  cases hp : promote? a b with
  | some p =>
    rw [compare_of_promote hp] at h
    rw [equals_of_promote hp, h]
    rfl
  | none =>
    unfold Value.compare at h
    rw [hp] at h
    dsimp only at h
    split at h
    · rename_i s t
      obtain rfl := Option.some.inj h
      rw [Bool.eq_iff_iff, beq_iff_eq, Std.LawfulEqOrd.compare_eq_iff_eq]
      exact beq_iff_eq
    · rename_i c d
      obtain rfl := Option.some.inj h
      rw [Bool.eq_iff_iff, beq_iff_eq, Std.LawfulEqOrd.compare_eq_iff_eq]
      exact beq_iff_eq
    · rename_i s t
      obtain rfl := Option.some.inj h
      rw [Bool.eq_iff_iff, beq_iff_eq, DateTime.compare_eq_iff]
      exact beq_iff_eq
    · cases h

/-! ## Where there is an order -/

/-- The value is the double that is not a number. -/
def isNaN : Value → Bool
  | .float x => x.isNaN
  | _ => false

/-- Only what is not a number becomes a double that is not a number. -/
theorem isNaN_toDouble? {u : Float} (h : a.toDouble? = some u) : u.isNaN = a.isNaN := by
  cases a with
  | int n => exact Option.some.inj h ▸ isNaN_doubleOfInt _
  | uint n => exact Option.some.inj h ▸ isNaN_doubleOfInt _
  | float v => exact Option.some.inj h ▸ rfl
  | decimal d => exact Option.some.inj h ▸ d.isNaN_toDouble
  | _ => cases h

/-- Numbers meet as doubles only by becoming doubles. -/
theorem toDouble?_of_promote {u v : Float} (h : promote? a b = some (.float u v)) :
    a.toDouble? = some u ∧ b.toDouble? = some v := by
  -- without a double among them numbers keep their rational values, and a double has none
  have hexact {x y : ℚ} (hx : a.rational? = some x) (hy : b.rational? = some y) : False := by
    obtain ⟨p, hp, hfirst, -⟩ := promote?_rational hx hy
    rw [h] at hp
    obtain rfl := Option.some.inj hp
    cases hfirst
  cases a with
  | float u =>
    rw [promote?_float_left, Option.map_eq_some_iff] at h
    obtain ⟨v, hv, hpair⟩ := h
    cases hpair
    exact ⟨rfl, hv⟩
  | _ =>
    cases b with
    | float v =>
      rw [promote?_float_right, Option.map_eq_some_iff] at h
      obtain ⟨u, hu, hpair⟩ := h
      cases hpair
      exact ⟨hu, rfl⟩
    | _ => first | exact (hexact rfl rfl).elim | cases h

/-- Values of kinds with an order have one, if doubles among them are numbers. -/
theorem compare_isSome (h : a.isOrderedWith b = true) (ha : a.isNaN = false)
    (hb : b.isNaN = false) : ∃ order, a.compare b = some order := by
  cases hp : promote? a b with
  | some p =>
    rw [compare_of_promote hp]
    cases horder : p.compare with
    | some order => exact ⟨order, rfl⟩
    | none =>
      -- what is not a number has been so before the two were brought to a common kind
      obtain ⟨u, v, rfl, hnan⟩ := NumericPair.compare_eq_none.1 horder
      obtain ⟨hu, hv⟩ := toDouble?_of_promote hp
      rw [isNaN_toDouble? hu, isNaN_toDouble? hv, ha, hb] at hnan
      simp at hnan
  | none =>
    unfold isOrderedWith at h
    unfold Value.compare
    rw [hp] at h ⊢
    dsimp only at h ⊢
    split at h <;> first | exact ⟨_, rfl⟩ | cases h

/-- There is no order between values of kinds that have none. -/
theorem compare_eq_none_of_unordered (h : a.isOrderedWith b = false) : a.compare b = none := by
  unfold isOrderedWith at h
  unfold Value.compare
  cases hp : promote? a b with
  | some p =>
    rw [hp] at h
    cases h
  | none =>
    -- of the kinds that are compared without being numbers, each has an order
    rw [hp] at h
    dsimp only at h ⊢
    split at h <;> first | rfl | cases h

end Value

/-! ## The operators that compare -/

/-- The six operators that compare tell one order of `a` and `b`. Of `<`, `==` and `>` one holds and
no other does; the rest follow from these, and exchanging the sides turns `<` into `>`. -/
structure TellsOrder (a b : Value) (lt eq gt : Bool) : Prop where
  exactlyOne : [lt, eq, gt].count true = 1
  less : applyBinary .lt a b = .ok (.bool lt)
  equal : applyBinary .eq a b = .ok (.bool eq)
  greater : applyBinary .gt a b = .ok (.bool gt)
  atMost : applyBinary .le a b = .ok (.bool (lt || eq))
  atLeast : applyBinary .ge a b = .ok (.bool (gt || eq))
  unequal : applyBinary .ne a b = .ok (.bool !eq)
  exchanged : applyBinary .gt b a = .ok (.bool lt)

/-- The relational operators fail on `a` and `b` with a mismatch of their types. -/
def NotComparable (a b : Value) : Prop :=
  ∀ op ∈ [BinaryOp.lt, .le, .gt, .ge],
    applyBinary op a b = .error (.typeMismatch op.symbol (.notComparable a.type b.type))

section Operators

variable {a b c : Value}

theorem applyRelational_of_compare {order : Ordering} (h : a.compare b = some order)
    (op : BinaryOp) : applyRelational op a b = .ok (.bool (BinaryOp.holdsOf op order)) := by
  unfold applyRelational
  rw [h]

theorem tellsOrder_of_compare {order : Ordering} (h : a.compare b = some order) :
    TellsOrder a b (order == .lt) (order == .eq) (order == .gt) := by
  have hswap : b.compare a = some order.swap := by
    rw [Value.compare_swap, h, Option.map_some]
  constructor
  case exactlyOne => cases order <;> rfl
  -- equality has its own definition, the relational operators ask for the order
  case equal => rw [applyBinary, Value.equals_of_compare h]
  case unequal => rw [applyBinary, Value.equals_of_compare h]
  case less => exact applyRelational_of_compare h .lt
  case greater => exact applyRelational_of_compare h .gt
  case atMost => exact (applyRelational_of_compare h .le).trans (by cases order <;> rfl)
  case atLeast => exact (applyRelational_of_compare h .ge).trans (by cases order <;> rfl)
  case exchanged => exact (applyRelational_of_compare hswap .gt).trans (by cases order <;> rfl)

theorem notComparable_of_unordered (h : a.isOrderedWith b = false) : NotComparable a b := by
  have hrelational (op : BinaryOp) : applyRelational op a b =
      .error (.typeMismatch op.symbol (.notComparable a.type b.type)) := by
    unfold applyRelational
    rw [Value.compare_eq_none_of_unordered h, h]
    rfl
  intro op hop
  simp only [List.mem_cons, List.not_mem_nil, or_false] at hop
  rcases hop with rfl | rfl | rfl | rfl <;> exact hrelational _

end Operators

/-! ## Integers and decimals in any mix -/

namespace Value

/-- The value is an integer or a decimal. -/
def IsExact (v : Value) : Prop :=
  v.rational?.isSome = true

/-- The operator `<=` holds of the two values. -/
def AtMost (a b : Value) : Prop :=
  applyBinary .le a b = .ok (.bool true)

variable {a b c : Value} {x y : ℚ}

theorem IsExact.rational (h : a.IsExact) : ∃ x, a.rational? = some x :=
  Option.isSome_iff_exists.1 h

theorem atMost_rational (ha : a.rational? = some x) (hb : b.rational? = some y) :
    a.AtMost b ↔ x ≤ y := by
  have htells := (tellsOrder_of_compare (compare_rational ha hb)).atMost
  rw [AtMost, htells, ← compare_le_iff_le]
  cases Ord.compare x y <;> simp

theorem AtMost.antisymm (ha : a.IsExact) (hb : b.IsExact) (hab : a.AtMost b) (hba : b.AtMost a) :
    a.equals b = true := by
  obtain ⟨x, hx⟩ := ha.rational
  obtain ⟨y, hy⟩ := hb.rational
  rw [equals_rational hx hy]
  exact le_antisymm ((atMost_rational hx hy).1 hab) ((atMost_rational hy hx).1 hba)

theorem AtMost.trans (ha : a.IsExact) (hb : b.IsExact) (hc : c.IsExact) (hab : a.AtMost b)
    (hbc : b.AtMost c) : a.AtMost c := by
  obtain ⟨x, hx⟩ := ha.rational
  obtain ⟨y, hy⟩ := hb.rational
  obtain ⟨z, hz⟩ := hc.rational
  rw [atMost_rational hx hz]
  exact ((atMost_rational hx hy).1 hab).trans ((atMost_rational hy hz).1 hbc)

end Value

/-! ## Comparison by value -/

/-- Comparison is by value and total. Integers and decimals in any mix compare as the rational
numbers that they stand for, and they are equal if these are the same, so their order is
antisymmetric and transitive across the kinds. The operators tell one order of every two values of
kinds that have one, unless a value is a double that is not a number; every two other values are
refused by the relational operators. -/
theorem comparison_by_value :
    (∀ (a b : Value) (x y : ℚ), a.rational? = some x → b.rational? = some y →
      a.compare b = some (Ord.compare x y) ∧ (a.equals b = true ↔ x = y)) ∧
    (∀ a b : Value, b.compare a = (a.compare b).map Ordering.swap) ∧
    (∀ a b : Value, a.IsExact → b.IsExact → a.AtMost b → b.AtMost a → a.equals b = true) ∧
    (∀ a b c : Value, a.IsExact → b.IsExact → c.IsExact → a.AtMost b → b.AtMost c → a.AtMost c) ∧
    (∀ a b : Value, a.isOrderedWith b = true → a.isNaN = false → b.isNaN = false →
      ∃ lt eq gt, TellsOrder a b lt eq gt) ∧
    ∀ a b : Value, a.isOrderedWith b = false → NotComparable a b := by
  refine ⟨fun a b x y hx hy => ⟨Value.compare_rational hx hy, Value.equals_rational hx hy⟩,
    Value.compare_swap, fun a b ha hb => Value.AtMost.antisymm ha hb,
    fun a b c ha hb hc => Value.AtMost.trans ha hb hc,
    fun a b hordered ha hb => ?_, fun a b h => notComparable_of_unordered h⟩
  obtain ⟨order, horder⟩ := Value.compare_isSome hordered ha hb
  exact ⟨_, _, _, tellsOrder_of_compare horder⟩

/-- The smallest signed integer is below the largest unsigned one, though they meet as decimals; a
double and a text have no order. -/
theorem comparison_by_value_mixed :
    let least : Value := .int Int64.minValue
    let greatest : Value := .uint 18446744073709551615
    least.compare greatest = some .lt ∧
      (∃ lt eq gt, TellsOrder least greatest lt eq gt) ∧
      NotComparable (.float 0.5) (.string "a") := by
  intro least greatest
  obtain ⟨hrational, -, -, -, htotal, hrefused⟩ := comparison_by_value
  refine ⟨?_, htotal least greatest (by rfl) rfl rfl, hrefused (.float 0.5) (.string "a") (by rfl)⟩
  rw [(hrational least greatest _ _ rfl rfl).1, Option.some.injEq, compare_lt_iff_lt]
  decide

end GatedPredicate
