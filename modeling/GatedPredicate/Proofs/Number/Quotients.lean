import GatedPredicate.Proofs.Decimal.Quotient
import GatedPredicate.Proofs.Number.Integers

/-!
# Quotients and remainders of integers

Integers divide as integers in the kinds of integers, and their remainder is that of the truncated
quotient whatever the kind in which they meet. Where they meet as decimals, division goes on behind
the point: the integer part of the result is still the truncated quotient, but the result is more
than that unless the division leaves no remainder. So a negative integer and an unsigned one that is
too large for a signed kind do not divide like any other two integers.

- `Value.integerPart?`
- `NumericPair.Stands.apply_div`, `NumericPair.Stands.apply_mod`
- `integer_quotients`, `integer_quotient_with_fraction`
-/

namespace GatedPredicate

open GatedPredicate.Number GatedPredicate.Syntax

/-- What stands before the point of an integer or a decimal. -/
def Value.integerPart? : Value → Option Int
  | .int n => some n.toInt
  | .uint n => some n.toNat
  | .decimal d => some d.toInt
  | _ => none

section

variable {v : Value} {n x y : Int}

theorem eq_int_of_narrowed (h : (orOverflow (int64? n)).map Value.int = .ok v) :
    ∃ m : Int64, v = .int m ∧ m.toInt = n := by
  by_cases hholds : ValueType.Holds .int n
  · obtain ⟨m, hm, hvalue⟩ := int64?_of_holds hholds
    rw [hm] at h
    cases h
    exact ⟨m, rfl, hvalue⟩
  · rw [int64?_eq_none hholds] at h
    cases h

theorem eq_uint_of_narrowed (h : (orOverflow (uint64? n)).map Value.uint = .ok v) :
    ∃ m : UInt64, v = .uint m ∧ (m.toNat : Int) = n := by
  by_cases hholds : ValueType.Holds .uint n
  · obtain ⟨m, hm, hvalue⟩ := uint64?_of_holds hholds
    rw [hm] at h
    cases h
    exact ⟨m, rfl, hvalue⟩
  · rw [uint64?_eq_none hholds] at h
    cases h

theorem eq_decimal_of_fitted {d? : Option Decimal}
    (h : (orOverflow d?).map Value.decimal = .ok v) : ∃ d, v = .decimal d ∧ d? = some d := by
  cases d? with
  | none => cases h
  | some d =>
    cases h
    exact ⟨d, rfl, rfl⟩

namespace NumericPair

variable {p : NumericPair}

/-- The quotient of a pair of integers: truncated, if they are not decimals, and at least before the
point if they are. -/
theorem Stands.apply_div (h : p.Stands x y) (hy : y ≠ 0) (hx64 : x.natAbs < 2 ^ 64)
    (hy64 : y.natAbs < 2 ^ 64) (hv : p.apply .div = .ok v) :
    v.integerPart? = some (x.tdiv y) ∧
      (v.rational? = some ((x.tdiv y : Int) : ℚ) ↔ (p.type = .decimal → y ∣ x)) := by
  cases h with
  | int a b =>
    have hnonzero : ¬ signedOperations.isZero b = true := by simpa [signedOperations] using hy
    rw [apply, Operations.apply, if_neg hnonzero] at hv
    obtain ⟨m, rfl, hm⟩ := eq_int_of_narrowed hv
    have hrational : (Value.int m).rational? = some ((a.toInt.tdiv b.toInt : Int) : ℚ) := by
      rw [← hm]
      rfl
    refine ⟨congrArg some hm, iff_of_true hrational fun hkind => ?_⟩
    cases hkind
  | uint a b =>
    have hnonzero : ¬ unsignedOperations.isZero b = true := by simpa [unsignedOperations] using hy
    rw [apply, Operations.apply, if_neg hnonzero] at hv
    simp only [unsignedOperations] at hv
    obtain ⟨m, rfl, hm⟩ := eq_uint_of_narrowed hv
    rw [Int.ofNat_tdiv] at hm
    have hrational :
        (Value.uint m).rational? = some (((a.toNat : Int).tdiv b.toNat : Int) : ℚ) := by
      rw [← hm]
      simp [Value.rational?]
    refine ⟨congrArg some hm, iff_of_true hrational fun hkind => ?_⟩
    cases hkind
  | decimal ha hb =>
    have hnonzero : ¬ decimalOperations.isZero _ = true := fun hzero => hy (hb.isZero_iff.1 hzero)
    rw [apply, Operations.apply, if_neg hnonzero] at hv
    obtain ⟨c, rfl, hc⟩ := eq_decimal_of_fitted hv
    obtain ⟨hinteger, hexact⟩ := Decimal.div?_whole ha hb hx64 hy64 hc
    refine ⟨congrArg some hinteger, ?_⟩
    rw [Value.rational?, Option.some.injEq, hexact]
    exact ⟨fun hdvd _ => hdvd, fun hdvd => hdvd rfl⟩

/-- The remainder of a pair of integers. -/
theorem Stands.apply_mod (h : p.Stands x y) (hy : y ≠ 0) (hv : p.apply .mod = .ok v) :
    v.rational? = some ((x.tmod y : Int) : ℚ) := by
  cases h with
  | int a b =>
    have hnonzero : ¬ signedOperations.isZero b = true := by simpa [signedOperations] using hy
    rw [apply, Operations.apply, if_neg hnonzero] at hv
    -- the quotient is only looked at for whether it is there
    simp only [signedOperations] at hv
    cases hquotient : int64? (a.toInt.tdiv b.toInt) with
    | none =>
      rw [hquotient] at hv
      cases hv
    | some q =>
      rw [hquotient, Option.bind_some] at hv
      obtain ⟨m, rfl, hm⟩ := eq_int_of_narrowed hv
      rw [← hm]
      rfl
  | uint a b =>
    have hnonzero : ¬ unsignedOperations.isZero b = true := by simpa [unsignedOperations] using hy
    rw [apply, Operations.apply, if_neg hnonzero] at hv
    simp only [unsignedOperations] at hv
    obtain ⟨m, rfl, hm⟩ := eq_uint_of_narrowed hv
    rw [Int.ofNat_tmod] at hm
    rw [← hm]
    simp [Value.rational?]
  | decimal ha hb =>
    have hnonzero : ¬ decimalOperations.isZero _ = true := fun hzero => hy (hb.isZero_iff.1 hzero)
    rw [apply, Operations.apply, if_neg hnonzero] at hv
    obtain ⟨c, rfl, hc⟩ := eq_decimal_of_fitted hv
    exact congrArg some (Decimal.rem?_whole ha hb hc).value

end NumericPair

end

/-! ## Expressions -/

theorem Integer.natAbs_toInt_lt (a : Integer) : a.toInt.natAbs < 2 ^ 64 := by
  cases a with
  | signed n =>
    obtain ⟨hlow, hhigh⟩ := holds_toInt n
    rw [Integer.toInt]
    omega
  | unsigned n => exact UInt64.toNat_lt n

/-- There is a quotient and a remainder, unless the quotient is too large for a signed kind. -/
theorem applyBinary_division_ok {op : BinaryOp} (a b : Integer) (hop : op = .div ∨ op = .mod)
    (hb : b.toInt ≠ 0) (hreach : ¬ Overreaches a.toInt b.toInt) :
    ∃ v, applyBinary op a.value b.value = .ok v := by
  obtain ⟨p, -, hstands, happly⟩ := applyBinary_integers a b (.inr (.inr (.inr hop)))
  obtain ⟨v, hv⟩ := hstands.apply_nonzero hop hb fun _ => hreach
  exact ⟨v, happly.trans hv⟩

/-- Division of integers. There is a quotient and a remainder, unless the quotient is too large for
a signed kind. The remainder is what the truncated quotient leaves, whatever the kinds of the
operands. The quotient has the truncated quotient as its integer part; it is that quotient itself
unless the operands meet as decimals and the division leaves a remainder. -/
theorem integer_quotients (a b : Integer) (hb : b.toInt ≠ 0) :
    (∀ v, applyBinary .div a.value b.value = .ok v →
      v.integerPart? = some (a.toInt.tdiv b.toInt) ∧
        (v.rational? = some ((a.toInt.tdiv b.toInt : Int) : ℚ) ↔
          (a.meet b = .decimal → b.toInt ∣ a.toInt))) ∧
      (∀ v, applyBinary .mod a.value b.value = .ok v →
        v.rational? = some ((a.toInt - b.toInt * a.toInt.tdiv b.toInt : Int) : ℚ)) ∧
      ∀ op, op = .div ∨ op = .mod → ¬ Overreaches a.toInt b.toInt →
        ∃ v, applyBinary op a.value b.value = .ok v := by
  refine ⟨?_, ?_, fun op hop hreach => applyBinary_division_ok a b hop hb hreach⟩
  · intro v hv
    obtain ⟨p, htype, hstands, happly⟩ := applyBinary_integers a b (.inr (.inr (.inr (.inl rfl))))
    rw [happly] at hv
    rw [← htype]
    exact hstands.apply_div hb a.natAbs_toInt_lt b.natAbs_toInt_lt hv
  · intro v hv
    obtain ⟨p, -, hstands, happly⟩ := applyBinary_integers a b (.inr (.inr (.inr (.inr rfl))))
    rw [happly] at hv
    rw [← Int.tmod_def]
    exact hstands.apply_mod hb hv

/-- The largest even unsigned integer and -2 meet as decimals and divide without a remainder, so
their quotient is the truncated one. -/
theorem integer_quotients_even :
    let a : Integer := .unsigned 18446744073709551614
    let b : Integer := .signed (-2)
    b.toInt ≠ 0 ∧ a.meet b = .decimal ∧
      (∃ v, applyBinary .div a.value b.value = .ok v ∧ v.rational? = some (-9223372036854775807)) ∧
      ∃ v, applyBinary .mod a.value b.value = .ok v ∧ v.rational? = some 0 := by
  intro a b
  have hb : b.toInt ≠ 0 := by decide
  have hreach : ¬ Overreaches a.toInt b.toInt := by decide
  obtain ⟨hdiv, hmod, hok⟩ := integer_quotients a b hb
  obtain ⟨q, hq⟩ := hok .div (.inl rfl) hreach
  obtain ⟨r, hr⟩ := hok .mod (.inr rfl) hreach
  have htdiv : a.toInt.tdiv b.toInt = -9223372036854775807 := by decide
  have hquotient := (hdiv q hq).2.2 fun _ => by decide
  have hremainder := hmod r hr
  have hzero : a.toInt - b.toInt * a.toInt.tdiv b.toInt = 0 := by decide
  rw [htdiv] at hquotient
  rw [hzero] at hremainder
  exact ⟨hb, by decide, ⟨q, hq, by exact_mod_cast hquotient⟩, r, hr, by exact_mod_cast hremainder⟩

/-- The next integer is odd, and by -2 it leaves a half behind the point, unlike every integer that
a signed kind holds. -/
theorem integer_quotient_with_fraction :
    ∃ v, applyBinary .div (.uint 18446744073709551615) (.int (-2)) = .ok v ∧
      v.rational? ≠ some (((18446744073709551615 : Int).tdiv (-2) : Int) : ℚ) := by
  let a : Integer := .unsigned 18446744073709551615
  let b : Integer := .signed (-2)
  have hb : b.toInt ≠ 0 := by decide
  obtain ⟨p, htype, hstands, happly⟩ := applyBinary_integers a b (.inr (.inr (.inr (.inl rfl))))
  obtain ⟨v, hv⟩ := hstands.apply_nonzero (.inl rfl) hb fun _ => by decide
  -- they meet as decimals, and there the quotient is the truncated one only if nothing remains
  obtain ⟨-, hexact⟩ := hstands.apply_div hb a.natAbs_toInt_lt b.natAbs_toInt_lt hv
  have hodd : ¬ b.toInt ∣ a.toInt := by decide
  exact ⟨v, happly.trans hv, fun hvalue => hodd (hexact.1 hvalue (htype.trans (by decide)))⟩

end GatedPredicate
