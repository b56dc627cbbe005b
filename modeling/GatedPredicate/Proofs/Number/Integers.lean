import GatedPredicate.Proofs.Decimal.Whole
import GatedPredicate.Proofs.Typing.Soundness

/-!
# Integer arithmetic never wraps

Two integers meet in a kind that holds both, the operation is carried out there, and the outcome is
the exact result or an overflow. Which of the two is settled by the exact result alone: it is an
overflow precisely where the kind does not hold the result.

- `Value.rational?`: the number that a value stands for
- `Integer`, `Integer.meet`: operands and the kind in which two of them meet
- `Outcome.IsInteger`: the exact result, or an overflow where it is not held
- `NumericPair.Stands`: a pair of numbers of one kind that stands for two integers
- `integer_arithmetic_exact`
-/

namespace GatedPredicate

open GatedPredicate.Number GatedPredicate.Syntax

/-! ## What numbers stand for -/

/-- The rational number that an integer or a decimal stands for. -/
def Value.rational? : Value → Option ℚ
  | .int n => some n.toInt
  | .uint n => some n.toNat
  | .decimal d => some d.value
  | _ => none

/-- The integers that a kind of number holds. -/
def ValueType.Holds : ValueType → Int → Prop
  | .int, n => -2 ^ 63 ≤ n ∧ n < 2 ^ 63
  | .uint, n => 0 ≤ n ∧ n < 2 ^ 64
  | .decimal, n => n.natAbs < 2 ^ 96
  | _, _ => False

/-- An integer of either kind. -/
inductive Integer where
  | signed (n : Int64)
  | unsigned (n : UInt64)

namespace Integer

def value : Integer → Value
  | .signed n => .int n
  | .unsigned n => .uint n

def toInt : Integer → Int
  | .signed n => n.toInt
  | .unsigned n => n.toNat

/-- The kind in which an integer meets one of the other kind: `int` if that holds both, else `uint`
if that does, else decimals. -/
def meetMixed (x : Int64) (y : UInt64) : ValueType :=
  if y.toNat < 2 ^ 63 then .int else if 0 ≤ x.toInt then .uint else .decimal

/-- The kind in which two integers meet. -/
def meet : Integer → Integer → ValueType
  | .signed _, .signed _ => .int
  | .unsigned _, .unsigned _ => .uint
  | .signed x, .unsigned y => meetMixed x y
  | .unsigned y, .signed x => meetMixed x y

end Integer

/-- The outcome is the integer `n` as a value of the given kind, or an overflow if the kind does not
hold it. -/
def Outcome.IsInteger (o : Outcome Value) (kind : ValueType) (n : Int) : Prop :=
  (kind.Holds n → ∃ v, o = .ok v ∧ v.type = kind ∧ v.rational? = some (n : ℚ)) ∧
    (¬ kind.Holds n → o = .error (.arithmetic .overflow))

/-! ## Machine integers -/

theorem int64?_of_holds {n : Int} (h : ValueType.Holds .int n) :
    ∃ m, int64? n = some m ∧ m.toInt = n :=
  ⟨Int64.ofInt n, if_pos h, Int64.toInt_ofInt_of_le h.1 h.2⟩

theorem int64?_eq_none {n : Int} (h : ¬ ValueType.Holds .int n) : int64? n = none :=
  if_neg h

/-- An unsigned integer is read as a signed one unless it is too large for it. -/
theorem int64?_unsigned (n : UInt64) :
    (∃ m, int64? n.toNat = some m ∧ m.toInt = n.toNat) ∨
      2 ^ 63 ≤ n.toNat ∧ int64? n.toNat = none := by
  by_cases hsmall : n.toNat < 2 ^ 63
  · exact .inl (int64?_of_holds ⟨by omega, by omega⟩)
  · exact .inr ⟨by omega, int64?_eq_none fun h => by have := h.2; omega⟩

theorem uint64?_of_holds {n : Int} (h : ValueType.Holds .uint n) :
    ∃ m, uint64? n = some m ∧ (m.toNat : Int) = n := by
  refine ⟨UInt64.ofNat n.toNat, if_pos h, ?_⟩
  obtain ⟨hlow, hhigh⟩ := h
  have hlt : n.toNat < 2 ^ 64 := by omega
  rw [UInt64.toNat_ofNat_of_lt' hlt, Int.toNat_of_nonneg hlow]

theorem uint64?_eq_none {n : Int} (h : ¬ ValueType.Holds .uint n) : uint64? n = none :=
  if_neg h

namespace Outcome.IsInteger

/-- A signed integer that is narrowed. -/
theorem ofInt64 (n : Int) : Outcome.IsInteger ((orOverflow (int64? n)).map .int) .int n := by
  constructor
  · intro h
    obtain ⟨m, hm, rfl⟩ := int64?_of_holds h
    exact ⟨.int m, by rw [hm]; rfl, rfl, rfl⟩
  · intro h
    rw [int64?_eq_none h]
    rfl

/-- An unsigned integer that is narrowed. -/
theorem ofUInt64 (n : Int) : Outcome.IsInteger ((orOverflow (uint64? n)).map .uint) .uint n := by
  constructor
  · intro h
    obtain ⟨m, hm, rfl⟩ := uint64?_of_holds h
    exact ⟨.uint m, by rw [hm]; rfl, rfl, by simp [Value.rational?]⟩
  · intro h
    rw [uint64?_eq_none h]
    rfl

/-- A decimal that is narrowed. -/
theorem ofNarrows {d? : Option Decimal} {n : Int} (h : Decimal.Narrows d? n) :
    Outcome.IsInteger ((orOverflow d?).map .decimal) .decimal n := by
  constructor
  · intro hholds
    obtain ⟨d, rfl, hwhole⟩ := h.1 hholds
    exact ⟨.decimal d, rfl, rfl, by rw [Value.rational?, hwhole.value]⟩
  · intro hholds
    rw [h.2 hholds]
    rfl

end Outcome.IsInteger

/-! ## Pairs of integers -/

/-- The exact result of the three operators that every two integers have one for. -/
def BinaryOp.exactResult? (op : BinaryOp) (x y : Int) : Option Int :=
  match op with
  | .add => some (x + y)
  | .sub => some (x - y)
  | .mul => some (x * y)
  | _ => none

namespace NumericPair

/-- The numbers of the pair are the integers `x` and `y`. -/
inductive Stands : NumericPair → Int → Int → Prop
  | int (a b : Int64) : Stands (.int a b) a.toInt b.toInt
  | uint (a b : UInt64) : Stands (.uint a b) a.toNat b.toNat
  | decimal {a b : Decimal} {x y : Int} : a.IsWhole x → b.IsWhole y → Stands (.decimal a b) x y

variable {p : NumericPair} {x y : Int}

theorem Stands.swap (h : p.Stands x y) : p.swap.Stands y x := by
  cases h with
  | int a b => exact .int b a
  | uint a b => exact .uint b a
  | decimal ha hb => exact .decimal hb ha

/-- A signed and an unsigned integer meet in the narrowest kind that holds both. -/
theorem mixedPair_stands (x : Int64) (y : UInt64) :
    (mixedPair x y).type = Integer.meetMixed x y ∧ (mixedPair x y).Stands x.toInt y.toNat := by
  unfold mixedPair Integer.meetMixed
  by_cases hsmall : y.toNat < 2 ^ 63
  · have hholds : ValueType.Holds .int (y.toNat : Int) := ⟨by omega, by omega⟩
    obtain ⟨m, hm, hvalue⟩ := int64?_of_holds hholds
    rw [hm, if_pos hsmall, ← hvalue]
    exact ⟨rfl, .int x m⟩
  · have hholds : ¬ ValueType.Holds .int (y.toNat : Int) := fun h => hsmall (by have := h.2; omega)
    rw [int64?_eq_none hholds, if_neg hsmall, Option.elim_none, widePair]
    by_cases hsign : 0 ≤ x.toInt
    · rw [if_pos hsign, if_pos hsign]
      have hlt : x.toInt.toNat < 2 ^ 64 := by
        have hbound := Int64.toInt_lt x
        omega
      have hvalue : ((UInt64.ofNat x.toInt.toNat).toNat : Int) = x.toInt := by
        rw [UInt64.toNat_ofNat_of_lt' hlt, Int.toNat_of_nonneg hsign]
      have hstands := Stands.uint (UInt64.ofNat x.toInt.toNat) y
      rw [hvalue] at hstands
      exact ⟨rfl, hstands⟩
    · rw [if_neg hsign, if_neg hsign]
      exact ⟨rfl, .decimal (Decimal.ofInt64_whole x) (Decimal.ofUInt64_whole y)⟩

/-- Two integers meet in their common kind, as what they are. -/
theorem promote?_integers (a b : Integer) :
    ∃ p, promote? a.value b.value = some p ∧ p.type = a.meet b ∧ p.Stands a.toInt b.toInt := by
  cases a with
  | signed x =>
    cases b with
    | signed y => exact ⟨.int x y, rfl, rfl, .int x y⟩
    | unsigned y =>
      obtain ⟨htype, hstands⟩ := mixedPair_stands x y
      exact ⟨mixedPair x y, rfl, htype, hstands⟩
  | unsigned x =>
    cases b with
    | signed y =>
      obtain ⟨htype, hstands⟩ := mixedPair_stands y x
      exact ⟨(mixedPair y x).swap, rfl, (swap_type _).trans htype, hstands.swap⟩
    | unsigned y => exact ⟨.uint x y, rfl, rfl, .uint x y⟩

/-- On a pair that stands for two integers the three operators are exact or overflow. -/
theorem Stands.apply_isInteger (h : p.Stands x y) {op : BinaryOp} {n : Int}
    (hn : BinaryOp.exactResult? op x y = some n) : Outcome.IsInteger (p.apply op) p.type n := by
  cases h with
  | int a b =>
    cases op <;> cases hn <;>
      simp only [NumericPair.apply, Operations.apply, signedOperations] <;> exact .ofInt64 _
  | uint a b =>
    cases op <;> cases hn <;>
      simp only [NumericPair.apply, Operations.apply, unsignedOperations] <;> exact .ofUInt64 _
  | decimal ha hb =>
    cases op with
    | add =>
      obtain rfl := Option.some.inj hn
      exact .ofNarrows (Decimal.add?_whole ha hb)
    | sub =>
      obtain rfl := Option.some.inj hn
      exact .ofNarrows (Decimal.sub?_whole ha hb)
    | mul =>
      obtain rfl := Option.some.inj hn
      exact .ofNarrows (Decimal.mul?_whole ha hb)
    | _ => cases hn

end NumericPair

/-! ## Quotients and remainders -/

namespace Operations

variable {α : Type} {ops : Operations α} {op : BinaryOp} {x y : α}

theorem apply_zero (hop : op = .div ∨ op = .mod) (hy : ops.isZero y = true) :
    ops.apply op x y = .error (.arithmetic .divisionByZero) := by
  rcases hop with rfl | rfl <;> simp [apply, hy]

theorem apply_nonzero (hop : op = .div ∨ op = .mod) (hy : ops.isZero y = false)
    (hdiv : (ops.div x y).isSome = true) (hrem : (ops.rem x y).isSome = true) :
    ∃ z, ops.apply op x y = .ok z := by
  obtain ⟨q, hq⟩ := Option.isSome_iff_exists.1 hdiv
  obtain ⟨m, hm⟩ := Option.isSome_iff_exists.1 hrem
  rcases hop with rfl | rfl
  · exact ⟨q, by simp [apply, hy, hq, orOverflow]⟩
  · exact ⟨m, by simp [apply, hy, hm, orOverflow]⟩

end Operations

theorem int64?_isSome {n : Int} (h : ValueType.Holds .int n) : (int64? n).isSome = true := by
  obtain ⟨m, hm, -⟩ := int64?_of_holds h
  rw [hm]
  rfl

theorem uint64?_isSome {n : Int} (h : ValueType.Holds .uint n) : (uint64? n).isSome = true := by
  obtain ⟨m, hm, -⟩ := uint64?_of_holds h
  rw [hm]
  rfl

/-- A quotient of signed integers is one, save where the smallest of them changes its sign. -/
theorem holds_tdiv {x y : Int} (hx : ValueType.Holds .int x) (hy : y ≠ 0)
    (hne : ¬ (x = -2 ^ 63 ∧ y = -1)) : ValueType.Holds .int (x.tdiv y) := by
  obtain ⟨hlow, hhigh⟩ := hx
  by_cases hone : y = 1
  · rw [hone, Int.tdiv_one]
    exact ⟨hlow, hhigh⟩
  by_cases hminus : y = -1
  · have hsmallest : x ≠ -2 ^ 63 := fun h => hne ⟨h, hminus⟩
    rw [hminus, Int.tdiv_neg, Int.tdiv_one]
    constructor <;> omega
  · -- any other divisor halves the magnitude at least
    have htwo : 2 ≤ y.natAbs := by omega
    have hhalf : x.natAbs / y.natAbs ≤ x.natAbs / 2 := Nat.div_le_div_left htwo (by decide)
    have hquotient : (x.tdiv y).natAbs = x.natAbs / y.natAbs := Int.natAbs_tdiv x y
    constructor <;> omega

theorem holds_tmod {x y : Int} (hy : ValueType.Holds .int y) (hne : y ≠ 0) :
    ValueType.Holds .int (x.tmod y) := by
  obtain ⟨hlow, hhigh⟩ := hy
  have hmod : x.natAbs % y.natAbs < y.natAbs := Nat.mod_lt _ (by omega)
  have hremainder : (x.tmod y).natAbs = x.natAbs % y.natAbs := Int.natAbs_tmod x y
  constructor <;> omega

theorem holds_natCast {n : Nat} (h : n < 2 ^ 64) : ValueType.Holds .uint (n : Int) :=
  ⟨Int.natCast_nonneg n, by omega⟩

theorem holds_toInt (n : Int64) : ValueType.Holds .int n.toInt :=
  ⟨Int64.le_toInt n, Int64.toInt_lt n⟩

/-- The smallest signed integer by -1, the one quotient of signed integers that is none. -/
def Overreaches (x y : Int) : Prop :=
  x = -2 ^ 63 ∧ y = -1

instance (x y : Int) : Decidable (Overreaches x y) :=
  inferInstanceAs (Decidable (_ ∧ _))

namespace NumericPair

variable {p : NumericPair} {x y : Int} {op : BinaryOp}

/-- A divisor that stands for zero is refused. -/
theorem Stands.apply_zero (h : p.Stands x y) (hop : op = .div ∨ op = .mod) (hy : y = 0) :
    p.apply op = .error (.arithmetic .divisionByZero) := by
  cases h with
  | int a b =>
    have hzero : signedOperations.isZero b = true := by simpa [signedOperations] using hy
    rw [apply, Operations.apply_zero hop hzero]
    rfl
  | uint a b =>
    have hzero : unsignedOperations.isZero b = true := by simpa [unsignedOperations] using hy
    rw [apply, Operations.apply_zero hop hzero]
    rfl
  | decimal ha hb =>
    have hzero : decimalOperations.isZero _ = true := hb.isZero_iff.2 hy
    rw [apply, Operations.apply_zero hop hzero]
    rfl

/-- Division by anything else has a result, except for that one pair of signed integers. -/
theorem Stands.apply_nonzero (h : p.Stands x y) (hop : op = .div ∨ op = .mod) (hy : y ≠ 0)
    (hreach : p.type = .int → ¬ Overreaches x y) : ∃ v, p.apply op = .ok v := by
  cases h with
  | int a b =>
    have hnonzero : signedOperations.isZero b = false := by simpa [signedOperations] using hy
    have hdiv := int64?_isSome (holds_tdiv (holds_toInt a) hy (hreach rfl))
    have hmod := int64?_isSome (holds_tmod (x := a.toInt) (holds_toInt b) hy)
    -- the remainder of signed integers is there only if the quotient is
    have hrem : (signedOperations.rem a b).isSome = true := by
      obtain ⟨q, hq⟩ := Option.isSome_iff_exists.1 hdiv
      simp only [signedOperations, hq, Option.bind_some]
      exact hmod
    obtain ⟨z, hz⟩ := Operations.apply_nonzero hop hnonzero hdiv hrem
    exact ⟨.int z, by rw [apply, hz]; rfl⟩
  | uint a b =>
    have hnonzero : unsignedOperations.isZero b = false := by
      simpa [unsignedOperations] using hy
    have hbound := UInt64.toNat_lt a
    have hquotient := Nat.div_le_self a.toNat b.toNat
    have hremainder := Nat.mod_le a.toNat b.toNat
    have hdiv : (unsignedOperations.div a b).isSome = true := by
      simp only [unsignedOperations]
      exact uint64?_isSome (holds_natCast (by omega))
    have hrem : (unsignedOperations.rem a b).isSome = true := by
      simp only [unsignedOperations]
      exact uint64?_isSome (holds_natCast (by omega))
    obtain ⟨z, hz⟩ := Operations.apply_nonzero hop hnonzero hdiv hrem
    exact ⟨.uint z, by rw [apply, hz]; rfl⟩
  | @decimal a b _ _ ha hb =>
    have hnonzero : decimalOperations.isZero b = false :=
      Bool.not_eq_true _ ▸ mt hb.isZero_iff.1 hy
    have hdiv : (decimalOperations.div a b).isSome = true :=
      Decimal.div?_isSome ha.1 hb.1 hnonzero
    have hrem : (decimalOperations.rem a b).isSome = true :=
      Decimal.rem?_isSome ha.1 hb.1 hnonzero
    obtain ⟨z, hz⟩ := Operations.apply_nonzero hop hnonzero hdiv hrem
    exact ⟨.decimal z, by rw [apply, hz]; rfl⟩

/-- The quotient of that pair overflows, and so does its remainder. -/
theorem Stands.apply_overreaching (h : p.Stands x y) (hop : op = .div ∨ op = .mod)
    (hkind : p.type = .int) (hreach : Overreaches x y) :
    p.apply op = .error (.arithmetic .overflow) := by
  cases h with
  | uint a b => cases hkind
  | decimal ha hb => cases hkind
  | int a b =>
    obtain ⟨ha, hb⟩ := hreach
    have hquotient : int64? (a.toInt.tdiv b.toInt) = none := by
      rw [ha, hb]
      exact int64?_eq_none fun hholds => absurd hholds.2 (by decide)
    have hnonzero : ¬ signedOperations.isZero b = true := by simp [signedOperations, hb]
    -- both operations look at the quotient first
    rcases hop with rfl | rfl
    · rw [apply, Operations.apply, if_neg hnonzero]
      simp only [signedOperations, hquotient]
      rfl
    · rw [apply, Operations.apply, if_neg hnonzero]
      simp only [signedOperations, hquotient]
      rfl

end NumericPair

/-- The operands of that division are signed. -/
theorem Integer.meet_of_overreaches {a b : Integer} (h : Overreaches a.toInt b.toInt) :
    a.meet b = .int := by
  obtain ⟨ha, hb⟩ := h
  cases a with
  | unsigned x =>
    rw [Integer.toInt] at ha
    omega
  | signed x =>
    cases b with
    | unsigned y =>
      rw [Integer.toInt] at hb
      omega
    | signed y => rfl

/-! ## Expressions -/

/-- An arithmetic operator on two integers is applied to the pair in which they meet. -/
theorem applyBinary_integers {op : BinaryOp} (a b : Integer)
    (hop : op = .add ∨ op = .sub ∨ op = .mul ∨ op = .div ∨ op = .mod) :
    ∃ p : NumericPair, p.type = a.meet b ∧ p.Stands a.toInt b.toInt ∧
      applyBinary op a.value b.value = p.apply op := by
  obtain ⟨p, hp, htype, hstands⟩ := NumericPair.promote?_integers a b
  have harithmetic (op : BinaryOp) : applyArithmetic op a.value b.value = p.apply op := by
    rw [applyArithmetic, arithmetic?, hp]
    rfl
  -- neither operand is a text, so `+` does not join
  have hadd : applyAdd a.value b.value = p.apply .add := by
    rw [← harithmetic]
    cases a <;> cases b <;> rfl
  refine ⟨p, htype, hstands, ?_⟩
  rcases hop with rfl | rfl | rfl | rfl | rfl
  · exact hadd
  · exact harithmetic _
  · exact harithmetic _
  · exact harithmetic _
  · exact harithmetic _

/-- Integer arithmetic is exact or fails. In a sum, a difference or a product of two integers the
result is the exact one, of the kind in which the integers meet, or an overflow if that kind does
not hold it; the minus sign gives the exact negation as a signed integer, or an overflow if there is
none. A division by zero is refused, and of all other quotients and remainders only those of the
smallest signed integer by -1 fail. -/
theorem integer_arithmetic_exact (act : Activation) (l r : Bound) (a b : Integer)
    (hl : l.eval act = .ok a.value) (hr : r.eval act = .ok b.value) :
    (∀ op n, BinaryOp.exactResult? op a.toInt b.toInt = some n →
      Outcome.IsInteger (Bound.eval act (.binary op l r)) (a.meet b) n) ∧
      Outcome.IsInteger (Bound.eval act (.unary .neg l)) .int (-a.toInt) ∧
      ∀ op, op = .div ∨ op = .mod →
        (b.toInt = 0 →
          Bound.eval act (.binary op l r) = .error (.arithmetic .divisionByZero)) ∧
        (Overreaches a.toInt b.toInt →
          Bound.eval act (.binary op l r) = .error (.arithmetic .overflow)) ∧
        (b.toInt ≠ 0 → ¬ Overreaches a.toInt b.toInt →
          ∃ v, Bound.eval act (.binary op l r) = .ok v) := by
  have heval (op : BinaryOp) (hop : op = .add ∨ op = .sub ∨ op = .mul ∨ op = .div ∨ op = .mod) :
      ∃ p : NumericPair, p.type = a.meet b ∧ p.Stands a.toInt b.toInt ∧
        Bound.eval act (.binary op l r) = p.apply op := by
    obtain ⟨p, htype, hstands, happly⟩ := applyBinary_integers a b hop
    refine ⟨p, htype, hstands, ?_⟩
    -- none of the five is lazy, so both operands are evaluated
    rw [eval_binary (by rintro rfl; simp at hop) (by rintro rfl; simp at hop), hl, hr, ← happly]
    rfl
  refine ⟨fun op n hn => ?_, ?_, fun op hop => ?_⟩
  · have hop : op = .add ∨ op = .sub ∨ op = .mul := by
      cases op <;> simp_all [BinaryOp.exactResult?]
    obtain ⟨p, htype, hstands, hp⟩ := heval op (by tauto)
    rw [hp, ← htype]
    exact hstands.apply_isInteger hn
  · have hneg : Bound.eval act (.unary .neg l) = a.value.negate := by
      rw [Bound.eval, hl]
      rfl
    rw [hneg]
    cases a with
    | signed x => exact .ofInt64 _
    | unsigned x => exact .ofInt64 _
  · obtain ⟨p, htype, hstands, hp⟩ := heval op (by tauto)
    rw [hp]
    refine ⟨hstands.apply_zero hop, fun hreach => ?_, fun hne hreach => ?_⟩
    · have hkind : p.type = .int := htype.trans (Integer.meet_of_overreaches hreach)
      exact hstands.apply_overreaching hop hkind hreach
    · exact hstands.apply_nonzero hop hne fun _ => hreach

/-- The largest unsigned and the smallest signed integer meet in decimals. Their difference is exact
there, their product overflows, and there is a quotient. -/
theorem integer_arithmetic_exact_decimal :
    let act : Activation := .ofBags (.empty .standard)
    let l : Bound := .const (.uint 18446744073709551615)
    let r : Bound := .const (.int Int64.minValue)
    l.eval act = .ok (.uint 18446744073709551615) ∧ r.eval act = .ok (.int Int64.minValue) ∧
      (∃ v, Bound.eval act (.binary .sub l r) = .ok v ∧ v.type = .decimal ∧
        v.rational? = some 27670116110564327423) ∧
      Bound.eval act (.binary .mul l r) = .error (.arithmetic .overflow) ∧
      Outcome.IsInteger (Bound.eval act (.unary .neg l)) .int (-18446744073709551615) ∧
      ∃ v, Bound.eval act (.binary .div l r) = .ok v := by
  intro act l r
  obtain ⟨hexact, hneg, hdivision⟩ := integer_arithmetic_exact act l r
    (.unsigned 18446744073709551615) (.signed Int64.minValue) rfl rfl
  obtain ⟨hsub, -⟩ := hexact .sub 27670116110564327423 (by decide +kernel)
  obtain ⟨-, hmul⟩ := hexact .mul (-170141183460469231722463931679029329920)
    (by decide +kernel)
  obtain ⟨-, -, hdiv⟩ := hdivision .div (.inl rfl)
  have hoverflow : ¬ ValueType.Holds .decimal (-170141183460469231722463931679029329920) := by
    simp [ValueType.Holds]
  have hholds : ValueType.Holds .decimal 27670116110564327423 := by simp [ValueType.Holds]
  exact ⟨rfl, rfl, by exact_mod_cast hsub hholds, hmul hoverflow, hneg,
    hdiv (by decide) (by decide)⟩

end GatedPredicate
