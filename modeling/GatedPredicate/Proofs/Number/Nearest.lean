import GatedPredicate.Proofs.Number.Doubles
import Mathlib.Tactic.Linarith

/-!
# Correct rounding

A quotient rounds to a number of a format that has all its bits if it is nearer to that number than
a quarter of its last place. Below a power of two the places are half as wide, so a quarter is what
is left there of the half that rounding allows.

- `abs_scaledHalfEven_sub_le`, `scaledHalfEven_eq_of_near`: rounding at a place
- `leadingBit_eq`: the leading bit of a quotient
- `Format.nearest_of_near`, `Format.nearest_bounds`
- `toBits_ofBits`, `parts_ofBits`: what a double is made of
-/

namespace GatedPredicate.Number

variable {n d : Nat}

/-! ## Rounding at a place -/

/-- Rounding changes a quotient by half a unit at most. -/
theorem abs_halfEven_sub_le (n : Nat) (hd : 0 < d) : |(halfEven n d : ℚ) - n / d| ≤ 1 / 2 := by
  obtain ⟨hlow, hhigh⟩ := halfEven_near n d hd
  have hpos : (0 : ℚ) < d := by exact_mod_cast hd
  have hlow' : (2 * n : ℚ) ≤ 2 * d * halfEven n d + d := by exact_mod_cast hlow
  have hhigh' : (2 * d * halfEven n d : ℚ) ≤ 2 * n + d := by exact_mod_cast hhigh
  have hn : (n : ℚ) = n / d * d := (div_mul_cancel₀ _ hpos.ne').symm
  rw [hn] at hlow' hhigh'
  rw [abs_le]
  constructor
  · have hdiv : 2 * (n / d : ℚ) ≤ 2 * halfEven n d + 1 :=
      le_of_mul_le_mul_right (by linarith) hpos
    linarith
  · have hdiv : 2 * (halfEven n d : ℚ) ≤ 2 * (n / d) + 1 :=
      le_of_mul_le_mul_right (by linarith) hpos
    linarith

/-- Rounding at the place `e` changes the quotient by half a unit of that place at most. -/
theorem abs_scaledHalfEven_sub_le (n : Nat) (hd : 0 < d) (e : Int) :
    |(scaledHalfEven n d e : ℚ) - n / d / 2 ^ e| ≤ 1 / 2 := by
  unfold scaledHalfEven
  by_cases he : 0 ≤ e
  · have hround := abs_halfEven_sub_le n (Nat.mul_pos hd (Nat.two_pow_pos e.toNat))
    rw [if_pos he, two_zpow_toNat he, div_div]
    exact_mod_cast hround
  · have hround := abs_halfEven_sub_le (n * 2 ^ (-e).toNat) hd
    have hinverse : (2 : ℚ) ^ e = (2 ^ (-e).toNat)⁻¹ := by
      rw [← two_zpow_toNat (by omega), zpow_neg, inv_inv]
    rw [if_neg he, hinverse, div_inv_eq_mul, div_mul_eq_mul_div]
    exact_mod_cast hround

/-- An integer within half a unit is what rounding gives. -/
theorem scaledHalfEven_eq_of_near {k : Nat} {e : Int} (hd : 0 < d)
    (h : |(n / d / 2 ^ e : ℚ) - k| < 1 / 2) : scaledHalfEven n d e = k := by
  have hround := abs_scaledHalfEven_sub_le n hd e
  have hclose : |(scaledHalfEven n d e : ℚ) - k| < 1 := by
    calc |(scaledHalfEven n d e : ℚ) - k|
      _ ≤ |(scaledHalfEven n d e : ℚ) - n / d / 2 ^ e| + |(n / d / 2 ^ e : ℚ) - k| :=
        abs_sub_le _ _ _
      _ < 1 := by linarith
  have hint : |(scaledHalfEven n d e : ℤ) - k| < 1 := by exact_mod_cast hclose
  have hzero := Int.abs_lt_one_iff.1 hint
  omega

/-! ## The leading bit -/

/-- The quotient reaches its leading bit. -/
theorem mul_leadingBit_le (hn : n ≠ 0) (d : Nat) : (d : ℚ) * 2 ^ leadingBit n d ≤ n := by
  unfold leadingBit
  generalize hguess : (n.log2 : Int) - d.log2 = guess
  simp only [← lt_mul_zpow_iff]
  split
  · have hd : (d : ℚ) ≤ 2 ^ (d.log2 + 1) := by exact_mod_cast Nat.lt_log2_self.le
    have hlog : (2 : ℚ) ^ n.log2 ≤ n := by exact_mod_cast Nat.log2_self_le hn
    have hsum : (2 : ℚ) ^ (d.log2 + 1) * 2 ^ (guess - 1) = 2 ^ n.log2 := by
      rw [← zpow_natCast, ← zpow_natCast, ← zpow_add₀ (by norm_num)]
      congr 1
      push_cast
      omega
    calc (d : ℚ) * 2 ^ (guess - 1)
      _ ≤ 2 ^ (d.log2 + 1) * 2 ^ (guess - 1) := mul_le_mul_of_nonneg_right hd (by positivity)
      _ = 2 ^ n.log2 := hsum
      _ ≤ n := hlog
  · exact not_lt.1 ‹_›

/-- A quotient lies between two powers of two. -/
theorem leadingBit_bounds (hn : n ≠ 0) (hd : 0 < d) :
    (2 : ℚ) ^ leadingBit n d ≤ n / d ∧ (n / d : ℚ) < 2 ^ (leadingBit n d + 1) := by
  have hpos : (0 : ℚ) < d := by exact_mod_cast hd
  rw [le_div_iff₀ hpos, div_lt_iff₀ hpos, mul_comm _ (d : ℚ), mul_comm _ (d : ℚ)]
  exact ⟨mul_leadingBit_le hn d, lt_leadingBit n hd⟩

/-- No other powers of two enclose it. -/
theorem leadingBit_eq {b : Int} (hn : n ≠ 0) (hd : 0 < d) (hlow : (2 : ℚ) ^ b ≤ n / d)
    (hhigh : (n / d : ℚ) < 2 ^ (b + 1)) : leadingBit n d = b := by
  obtain ⟨hle, hlt⟩ := leadingBit_bounds hn hd
  have hbelow := (zpow_lt_zpow_iff_right₀ (by norm_num : (1 : ℚ) < 2)).1 (hle.trans_lt hhigh)
  have habove := (zpow_lt_zpow_iff_right₀ (by norm_num : (1 : ℚ) < 2)).1 (hlow.trans_lt hlt)
  omega

/-! ## The nearest number -/

variable {f : Format} {m : Nat} {e : Int}

/-- Rounding at the place of the leading bit, with a carry into the next power of two. -/
theorem Format.nearest_of_place {k : Nat} {place : Int} (hn : n ≠ 0)
    (hprecision : f.precision = k + 1) (hplace : leadingBit n d = place + k)
    (hmin : f.minExponent ≤ place) :
    f.nearest n d =
      let rounded := if scaledHalfEven n d place = 2 ^ (k + 1) then (2 ^ k, place + 1)
        else (scaledHalfEven n d place, place)
      if rounded.2 ≤ f.maxExponent then some rounded else none := by
  have hexponent : max f.minExponent (leadingBit n d - ((k + 1 : Nat) - 1)) = place := by
    push_cast
    omega
  rw [Format.nearest, if_neg hn, hprecision]
  simp only [hexponent]
  split <;> rfl

/-- A quotient near to a number with all bits of the format is rounded to it. -/
theorem Format.nearest_of_near {k : Nat} (hd : 0 < d) (hprecision : f.precision = k + 1)
    (hlow : 2 ^ k ≤ m) (hhigh : m < 2 ^ (k + 1)) (hmin : f.minExponent < e)
    (hmax : e ≤ f.maxExponent) (hnear : |(n / d : ℚ) - m * 2 ^ e| < 2 ^ e / 4) :
    f.nearest n d = some (m, e) := by
  have hunit : (0 : ℚ) < 2 ^ e := by positivity
  have hlow' : (2 ^ k : ℚ) ≤ m := by exact_mod_cast hlow
  have hhigh' : (m + 1 : ℚ) ≤ 2 ^ k * 2 := by exact_mod_cast hhigh
  have hk : (1 : ℚ) ≤ 2 ^ k := one_le_pow₀ (by norm_num)
  obtain ⟨hbelow, habove⟩ := abs_lt.1 hnear
  have hn : n ≠ 0 := by
    rintro rfl
    rw [Nat.cast_zero, zero_div] at hbelow
    nlinarith
  have hpower : (2 : ℚ) ^ (e + k) = 2 ^ k * 2 ^ e := by
    rw [zpow_add₀ (by norm_num), zpow_natCast, mul_comm]
  -- the leading bit is that of the number itself unless the number is a power of two
  rcases le_or_gt ((2 : ℚ) ^ (e + k)) (n / d) with hreach | hshort
  · have hbit : leadingBit n d = e + k := by
      refine leadingBit_eq hn hd hreach ?_
      rw [zpow_add_one₀ (by norm_num), hpower]
      nlinarith
    have hmantissa : scaledHalfEven n d e = m := by
      refine scaledHalfEven_eq_of_near hd ?_
      rw [div_sub' hunit.ne', abs_div, abs_of_pos hunit, div_lt_iff₀ hunit, mul_comm (2 ^ e : ℚ)]
      linarith
    rw [Format.nearest_of_place hn hprecision hbit hmin.le, hmantissa, if_neg hhigh.ne]
    exact if_pos hmax
  · -- the quotient is just below a power of two, where the places are half as wide
    have hm : m = 2 ^ k := by
      have hle : (m : ℚ) < 2 ^ k + 1 := by
        rw [hpower] at hshort
        nlinarith
      have hlt : m < 2 ^ k + 1 := by exact_mod_cast hle
      omega
    have hhalf : (2 : ℚ) ^ (e - 1) = 2 ^ e / 2 := by
      rw [zpow_sub_one₀ (by norm_num), div_eq_mul_inv]
    have hm' : (m : ℚ) = 2 ^ k := by exact_mod_cast hm
    rw [hm'] at hbelow habove
    have hbit : leadingBit n d = e - 1 + k := by
      refine leadingBit_eq hn hd ?_ ?_
      · rw [zpow_add₀ (by norm_num), zpow_natCast, hhalf]
        nlinarith
      · rwa [show e - 1 + (k : Int) + 1 = e + k by ring]
    have hmantissa : scaledHalfEven n d (e - 1) = 2 ^ (k + 1) := by
      refine scaledHalfEven_eq_of_near hd ?_
      rw [hhalf, abs_lt, lt_sub_iff_add_lt, sub_lt_iff_lt_add, lt_div_iff₀ (by positivity),
        div_lt_iff₀ (by positivity), Nat.cast_pow, Nat.cast_ofNat, pow_succ]
      constructor <;> linarith
    rw [Format.nearest_of_place hn hprecision hbit (by omega), hmantissa, if_pos rfl, hm]
    simp only [sub_add_cancel]
    exact if_pos hmax

/-- Where no place is cut off, rounding gives a number with all bits of the format, at most half a
place away. -/
theorem Format.nearest_bounds {k : Nat} (hn : n ≠ 0) (hd : 0 < d)
    (hprecision : f.precision = k + 1) (hnormal : (2 : ℚ) ^ (f.minExponent + k + 1) ≤ n / d)
    (h : f.nearest n d = some (m, e)) :
    2 ^ k ≤ m ∧ m < 2 ^ (k + 1) ∧ f.minExponent < e ∧ e ≤ f.maxExponent ∧
      |(m * 2 ^ e : ℚ) - n / d| ≤ 2 ^ e / 2 := by
  obtain ⟨hle, hlt⟩ := leadingBit_bounds hn hd
  have hbit : f.minExponent + k + 1 ≤ leadingBit n d := by
    have hcompare := (zpow_lt_zpow_iff_right₀ (by norm_num : (1 : ℚ) < 2)).1 (hnormal.trans_lt hlt)
    omega
  obtain ⟨place, hplace⟩ : ∃ place, leadingBit n d = place + k := ⟨leadingBit n d - k, by ring⟩
  have hunit : (0 : ℚ) < 2 ^ place := by positivity
  have hround := abs_scaledHalfEven_sub_le n hd place
  have herror : |(scaledHalfEven n d place * 2 ^ place : ℚ) - n / d| ≤ 2 ^ place / 2 := by
    have hscaled : (scaledHalfEven n d place * 2 ^ place : ℚ) - n / d =
        (scaledHalfEven n d place - n / d / 2 ^ place) * 2 ^ place := by
      rw [sub_mul, div_mul_cancel₀ _ hunit.ne']
    rw [hscaled, abs_mul, abs_of_pos hunit]
    calc |(scaledHalfEven n d place - n / d / 2 ^ place : ℚ)| * 2 ^ place
      _ ≤ 1 / 2 * 2 ^ place := mul_le_mul_of_nonneg_right hround hunit.le
      _ = 2 ^ place / 2 := by ring
  have hlow : 2 ^ k ≤ scaledHalfEven n d place := by
    have hreach : (2 ^ k : ℚ) ≤ n / d / 2 ^ place := by
      rwa [le_div_iff₀ hunit, ← zpow_natCast, ← zpow_add₀ (by norm_num), add_comm, ← hplace]
    have hnear := (abs_le.1 hround).1
    have hlt : (2 ^ k : ℚ) < scaledHalfEven n d place + 1 := by linarith
    exact Nat.lt_succ_iff.1 (by exact_mod_cast hlt)
  have hhigh : scaledHalfEven n d place ≤ 2 ^ (k + 1) := by
    refine scaledHalfEven_le ?_
    have hlt' := lt_leadingBit n hd
    rwa [hplace, add_assoc] at hlt'
  rw [Format.nearest_of_place hn hprecision hplace (by omega)] at h
  dsimp only at h
  obtain ⟨hmax, hrounded⟩ := Option.ite_none_right_eq_some.1 h
  split at hrounded
  · -- a carry makes the mantissa a power of two, at the next place
    rename_i hcarry
    obtain ⟨rfl, rfl⟩ := Prod.mk.inj (Option.some.inj hrounded)
    rw [if_pos hcarry] at hmax
    refine ⟨le_rfl, Nat.pow_lt_pow_succ (by decide), by omega, hmax, ?_⟩
    have hcarried :
        ((2 ^ k : Nat) * 2 ^ (place + 1) : ℚ) = scaledHalfEven n d place * 2 ^ place := by
      rw [hcarry, zpow_add_one₀ (by norm_num)]
      push_cast
      ring
    have hdouble : (2 : ℚ) ^ (place + 1) = 2 ^ place * 2 := zpow_add_one₀ (by norm_num) _
    rw [hcarried, hdouble]
    linarith
  · rename_i hplain
    obtain ⟨rfl, rfl⟩ := Prod.mk.inj (Option.some.inj hrounded)
    rw [if_neg hplain] at hmax
    exact ⟨hlow, lt_of_le_of_ne hhigh hplain, by omega, hmax, herror⟩

/-! ## Taking a double apart -/

open Float.Model (UnpackedFloat)
open Float.Model.Format (binary64)
open Float.Model.UnpackedFloat (unpackExponent isNaNBits)

/-- The bits of a finite double are kept as they are. -/
theorem toBits_ofBits {b : UInt64} (h : b.toNat / 2 ^ 52 % 2 ^ 11 ≠ 2047) :
    (Float.ofBits b).toBits = b := by
  have hexponent : @unpackExponent binary64 b.toBitVec ≠ 2047#11 :=
    (unpackExponent_eq_iff _).not.2 h
  have hbits : @isNaNBits binary64 b.toBitVec = false := by
    simp [isNaNBits, hexponent]
  have hpack := @UnpackedFloat.pack_unpack binary64 b.toBitVec (by decide)
  rw [hbits, if_neg (by decide)] at hpack
  exact UInt64.eq_of_toBitVec_eq hpack

/-- A double with all its bits says which number it was made of. -/
theorem parts_ofBits (negative : Bool) (hlow : 2 ^ 52 ≤ m) (hdouble : IsDouble m e) :
    parts (Float.ofBits (bitsOf negative (some (m, e)))) = .finite negative m e := by
  have hbits := toBits_ofBits (bitsOf_isDouble hdouble negative)
  obtain ⟨hhigh, hmin, hmax⟩ := hdouble
  have hsign :
      (if negative then 2 ^ 63 else 0) = 0 ∨ (if negative then 2 ^ 63 else 0) = 2 ^ 63 := by
    cases negative <;> decide
  have hnat : (bitsOf negative (some (m, e))).toNat =
      (if negative then 2 ^ 63 else 0) + (e + 1075).toNat * 2 ^ 52 + (m - 2 ^ 52) := by
    simp only [bitsOf, if_neg hlow.not_gt]
    rw [UInt64.toNat_ofNat', Nat.mod_eq_of_lt]
    omega
  have hfield : (bitsOf negative (some (m, e))).toNat / 2 ^ 52 % 2 ^ 11 = (e + 1075).toNat := by
    rw [hnat]
    omega
  have hfraction : (bitsOf negative (some (m, e))).toNat % 2 ^ 52 = m - 2 ^ 52 := by
    rw [hnat]
    omega
  have hnegative : decide (2 ^ 63 ≤ (bitsOf negative (some (m, e))).toNat) = negative := by
    rw [hnat]
    cases negative <;> simp <;> omega
  unfold parts
  rw [hbits]
  dsimp only
  rw [hfield, hfraction, hnegative, if_neg (by omega), if_neg (by omega), Nat.add_sub_cancel' hlow]
  congr 1
  omega

end GatedPredicate.Number
