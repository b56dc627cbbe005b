import GatedPredicate.Number.DoubleText
import GatedPredicate.Proofs.Number.Nearest
import GatedPredicate.Proofs.Text.Numerals

/-!
# Singles and doubles of a written number

A number is rounded to a single and then to a double, or to a double at once. The two agree if the
single is so near to the number that no other double comes between.

- `Scientific.magnitude`: the number that digits and an exponent stand for, without its sign
- `Scientific.toSingle_bounds`: the single of a number that is not too small
- `Scientific.toDouble_of_near`: the double of a number that is near to one
-/

namespace GatedPredicate.Number

open GatedPredicate.Text

namespace Scientific

variable {x : Scientific} {f : Format}

/-- The number without its sign. -/
def magnitude (x : Scientific) : ℚ :=
  x.digits * 10 ^ x.exponent

/-- The place of the first digit before the point. -/
def point (x : Scientific) : Int :=
  (decimalDigits x.digits).length + x.exponent

/-- The number is a quotient of integers. -/
theorem magnitude_eq_div (x : Scientific) :
    x.magnitude = (x.digits * 10 ^ x.exponent.toNat : Nat) / (10 ^ (-x.exponent).toNat : Nat) := by
  rw [magnitude]
  push_cast
  rcases le_total 0 x.exponent with h | h
  · obtain ⟨k, hk⟩ := Int.eq_ofNat_of_zero_le h
    simp [hk]
  · obtain ⟨k, hk⟩ := Int.eq_ofNat_of_zero_le (neg_nonneg.2 h)
    rw [← neg_neg x.exponent, hk]
    simp [div_eq_mul_inv]

theorem magnitude_lt (x : Scientific) : x.magnitude < 10 ^ x.point := by
  have hlength : x.digits < 10 ^ (decimalDigits x.digits).length :=
    (Nat.length_toDigits_le_iff (by decide) Nat.length_toDigits_pos).1 le_rfl
  have hdigits : (x.digits : ℚ) < 10 ^ (decimalDigits x.digits).length := by exact_mod_cast hlength
  rw [magnitude, point, zpow_add₀ (by norm_num), zpow_natCast]
  exact mul_lt_mul_of_pos_right hdigits (by positivity)

theorem digits_ne_zero (hpos : 0 < x.magnitude) : x.digits ≠ 0 := by
  intro hzero
  simp [magnitude, hzero] at hpos

/-- Numbers that are neither too large nor too small for every format are rounded as quotients. -/
theorem nearest_eq (hpos : 0 < x.magnitude) (hsmall : -400 ≤ x.point) (hlarge : x.point ≤ 400) :
    x.nearest f =
      f.nearest (x.digits * 10 ^ x.exponent.toNat) (10 ^ (-x.exponent).toNat) := by
  unfold point at hsmall hlarge
  rw [nearest, if_neg (digits_ne_zero hpos), if_neg hlarge.not_gt, if_neg hsmall.not_gt]

/-- The last place of a double lies as many bits behind that of a single as a single lacks. -/
theorem two_zpow_single (e : Int) : (2 : ℚ) ^ e = 2 ^ 29 * 2 ^ (e - 29) := by
  rw [← zpow_natCast, ← zpow_add₀ (by norm_num)]
  congr 1
  push_cast
  ring

/-- The double of a single is made of the bits of that single and as many zeros as it lacks. -/
theorem ofParts_single (negative : Bool) {m : Nat} {e : Int} (hlow : 2 ^ 23 ≤ m)
    (hhigh : m < 2 ^ 24) (hmin : -149 < e) (hmax : e ≤ 104) :
    ofParts negative m e =
      Float.ofBits (bitsOf negative (some (m * 2 ^ 29, e - 29))) := by
  have hexact {n d : Nat} (hd : 0 < d) (hquotient : (n / d : ℚ) = m * 2 ^ e) :
      Format.double.nearest n d = some (m * 2 ^ 29, e - 29) := by
    refine Format.nearest_of_near (k := 52) hd rfl (by omega) (by omega) ?_ ?_ ?_
    · exact lt_sub_iff_add_lt.2 (lt_of_le_of_lt (by decide) hmin)
    · exact le_trans (by omega) (show (75 : Int) ≤ 971 by decide)
    · rw [hquotient, two_zpow_single, Nat.cast_mul, Nat.cast_pow, Nat.cast_ofNat, mul_assoc,
        sub_self, abs_zero]
      positivity
  unfold ofParts nearestDouble
  split
  · rename_i he
    rw [hexact Nat.one_pos]
    rw [two_zpow_toNat he]
    push_cast
    rw [div_one]
  · rename_i he
    rw [hexact (Nat.two_pow_pos _)]
    have hinverse : (2 : ℚ) ^ e = (2 ^ (-e).toNat)⁻¹ := by
      rw [← two_zpow_toNat (by omega), zpow_neg, inv_inv]
    rw [hinverse, div_eq_mul_inv]
    push_cast
    rfl

/-- A number that is not too small has its first digit not far behind the point. -/
theorem point_of_size (hsize : 1 / 10 ^ 11 ≤ x.magnitude) : -11 < x.point := by
  by_contra hfar
  have hle : (10 : ℚ) ^ x.point ≤ 10 ^ (-11 : Int) :=
    zpow_le_zpow_right₀ (by norm_num) (not_lt.1 hfar)
  have hlt := (hsize.trans_lt x.magnitude_lt).trans_le hle
  norm_num at hlt

/-- The single of a number that is not too small has all its bits, so that it differs from the
number by less than the last of them. -/
theorem toSingle_bounds (hfinite : x.toSingle.isFinite = true)
    (hsize : 1 / 10 ^ 11 ≤ x.magnitude) :
    ∃ m e, 2 ^ 52 ≤ m ∧ IsDouble m e ∧ -1074 < e ∧ x.point ≤ 400 ∧
      x.toSingle = Float.ofBits (bitsOf x.negative (some (m, e))) ∧
      |(m * 2 ^ e : ℚ) - x.magnitude| ≤ m * 2 ^ e / 2 ^ 24 := by
  have hpos : 0 < x.magnitude := lt_of_lt_of_le (by norm_num) hsize
  have hpoint := point_of_size hsize
  unfold toSingle at hfinite ⊢
  cases hnearest : x.nearest .single with
  | none =>
    have hinfinite (negative : Bool) : (infinity negative).isFinite = false := by
      cases negative <;> decide +kernel
    rw [hnearest] at hfinite
    dsimp only at hfinite
    rw [hinfinite] at hfinite
    cases hfinite
  | some found =>
    obtain ⟨m, e⟩ := found
    have hlarge : x.point ≤ 400 := by
      by_contra hlarge
      unfold point at hlarge
      rw [nearest, if_neg (digits_ne_zero hpos), if_pos (not_le.1 hlarge)] at hnearest
      cases hnearest
    rw [nearest_eq hpos (by omega) hlarge] at hnearest
    -- the number is far above the smallest single that has all its bits
    have hnormal : (2 : ℚ) ^ (Format.single.minExponent + (23 : Nat) + 1) ≤ x.magnitude := by
      refine le_trans ?_ hsize
      norm_num [Format.single]
    have hn : x.digits * 10 ^ x.exponent.toNat ≠ 0 :=
      Nat.mul_ne_zero (digits_ne_zero hpos) (Nat.pow_pos (by decide)).ne'
    rw [magnitude_eq_div] at hnormal
    obtain ⟨hlow, hhigh, hmin, hmax, hnear⟩ :=
      Format.nearest_bounds hn (Nat.pow_pos (by decide)) rfl hnormal hnearest
    change -149 < e at hmin
    change e ≤ 104 at hmax
    rw [← magnitude_eq_div] at hnear
    have hvalue : ((m * 2 ^ 29 : Nat) * 2 ^ (e - 29) : ℚ) = m * 2 ^ e := by
      rw [two_zpow_single e]
      push_cast
      ring
    refine ⟨m * 2 ^ 29, e - 29, by omega, ⟨by omega, by omega, by omega⟩, by omega, hlarge, ?_, ?_⟩
    · exact ofParts_single x.negative hlow hhigh hmin hmax
    · rw [hvalue]
      have hm : (2 ^ 23 : ℚ) ≤ m := by exact_mod_cast hlow
      have hunit : (0 : ℚ) < 2 ^ e := by positivity
      refine hnear.trans ?_
      rw [div_le_div_iff₀ (by norm_num) (by norm_num)]
      nlinarith

/-- A number that is nearer to a double with all bits than a quarter of its last place is rounded to
that double. -/
theorem toDouble_of_near {m : Nat} {e : Int} (hlow : 2 ^ 52 ≤ m) (hdouble : IsDouble m e)
    (hmin : -1074 < e) (hlarge : x.point ≤ 400) (hsize : 1 / 10 ^ 11 ≤ x.magnitude)
    (hnear : |x.magnitude - m * 2 ^ e| < 2 ^ e / 4) :
    x.toDouble = Float.ofBits (bitsOf x.negative (some (m, e))) := by
  have hpos : 0 < x.magnitude := lt_of_lt_of_le (by norm_num) hsize
  have hpoint := point_of_size hsize
  rw [magnitude_eq_div] at hnear
  rw [toDouble, nearest_eq hpos (by omega) hlarge,
    Format.nearest_of_near (Nat.pow_pos (by decide)) rfl hlow hdouble.mantissa_lt hmin
      hdouble.exponent_le hnear]

end Scientific

end GatedPredicate.Number
