import GatedPredicate.Value.Numeric
import Mathlib

/-!
# Doubles that are numbers

Doubles are compared as the format says: the order of two doubles is that of the numbers they stand
for, exchanging them reverses it, and there is none only where one of them is not a number. The
conversions of integers and decimals to doubles may round, but they always give a number, so only a
double that is not a number to begin with can be without an order.

The lemmas about the bits of the format belong to no module of the library's own, so all of it is
imported.

- `compareDoubles_eq`, `compareDoubles_swap`, `compareDoubles_eq_none`: the order
- `isNaN_ofBits`, `isFinite_ofBits`: what the bits of a double say
- `isNaN_add`, `isNaN_mul`, `isNaN_div`: operations with a number as their result
- `nearest_isDouble`, `isNaN_nearestDouble`: rounding a quotient to a double
- `isNaN_doubleOfInt`, `Decimal.isNaN_toDouble`: the conversions
-/

namespace GatedPredicate.Number

open Float.Model (UnpackedFloat)
open Float.Model.Format (binary64)
open Float.Model.UnpackedFloat (unpackExponent unpackMantissa isNaNBits)

/-! ## The order -/

section Order

/-- Magnitudes compare by their exponents first, then by their mantissas. -/
theorem magnitude_swap (e f : Int) (m n : Nat) :
    (Ord.compare f e).then (Ord.compare n m) =
      ((Ord.compare e f).then (Ord.compare m n)).swap := by
  rw [Ordering.swap_then, Int.compare_swap, Nat.compare_swap]

theorem unpacked_compare_swap (x y : UnpackedFloat) :
    y.compare x = (x.compare y).map Ordering.swap := by
  cases x with
  | notANumber => cases y <;> rfl
  | infinity s => cases y <;> cases s <;> first | rfl | (rename_i t; cases t <;> rfl)
  | zero s =>
    cases y with
    | infinity t | finite t _ _ _ => cases t <;> rfl
    | zero t | notANumber => rfl
  | finite s m e hm =>
    cases y with
    | infinity t => cases s <;> cases t <;> rfl
    | zero t | notANumber => cases s <;> rfl
    | finite t n f _ =>
      -- the magnitudes decide only between two numbers of one sign
      cases s <;> cases t
      · simp [UnpackedFloat.compare, magnitude_swap e f m n]
      · rfl
      · rfl
      · simp [UnpackedFloat.compare, magnitude_swap e f m n]

theorem unpacked_compare_eq_none (x y : UnpackedFloat) :
    x.compare y = none ↔ x = .notANumber ∨ y = .notANumber := by
  fun_cases UnpackedFloat.compare x y <;> simp_all

variable {x y : Float}

theorem lt_iff : x < y ↔ x.toModel.unpack.compare y.toModel.unpack = some .lt := by
  change decide (x.toModel.lt y.toModel = true) = true ↔ _
  simp [Float.Model.lt, UnpackedFloat.lt]

theorem beq_iff : (x == y) = true ↔ x.toModel.unpack.compare y.toModel.unpack = some .eq := by
  change UnpackedFloat.beq _ _ = true ↔ _
  simp [UnpackedFloat.beq]

theorem isNaN_iff : x.isNaN = true ↔ x.toModel.unpack = .notANumber := by
  change x.toModel.unpack.isNaN = true ↔ _
  simp

/-- The comparison by three tests is the comparison that the format defines. -/
theorem compareDoubles_eq (x y : Float) :
    compareDoubles x y = x.toModel.unpack.compare y.toModel.unpack := by
  have hswap := unpacked_compare_swap x.toModel.unpack y.toModel.unpack
  unfold compareDoubles
  simp only [gt_iff_lt, lt_iff, beq_iff, hswap]
  rcases x.toModel.unpack.compare y.toModel.unpack with _ | _ | _ | _ <;> rfl

theorem compareDoubles_swap (x y : Float) :
    compareDoubles y x = (compareDoubles x y).map Ordering.swap := by
  rw [compareDoubles_eq, compareDoubles_eq, unpacked_compare_swap]

theorem compareDoubles_eq_none :
    compareDoubles x y = none ↔ x.isNaN = true ∨ y.isNaN = true := by
  rw [compareDoubles_eq, unpacked_compare_eq_none, isNaN_iff, isNaN_iff]

theorem compareDoubles_eq_eq : compareDoubles x y = some .eq ↔ (x == y) = true := by
  rw [compareDoubles_eq, beq_iff]

/-- A double is equal to itself if and only if it is a number. -/
theorem beq_double_self : (x == x) = true ↔ x.isNaN = false := by
  rw [Float.beq_self_iff, Float.isNaN_eq_decide_eq_nan, decide_eq_false_iff_not]

end Order

/-! ## Bits -/

section Bits

variable (b : BitVec binary64.numBits)

theorem unpackExponent_eq_iff :
    unpackExponent b = 2047#11 ↔ b.toNat / 2 ^ 52 % 2 ^ 11 = 2047 := by
  rw [← BitVec.toNat_inj, UnpackedFloat.unpackExponent_def, BitVec.extractLsb'_toNat,
    Nat.shiftRight_eq_div_pow]
  rfl

theorem unpackMantissa_eq_iff : unpackMantissa b = 0#52 ↔ b.toNat % 2 ^ 52 = 0 := by
  rw [← BitVec.toNat_inj, UnpackedFloat.unpackMantissa_def, BitVec.extractLsb'_toNat,
    Nat.shiftRight_zero]
  rfl

theorem unpack_isFinite :
    (UnpackedFloat.unpack binary64 b).isFinite = true ↔ unpackExponent b ≠ 2047#11 := by
  fun_cases UnpackedFloat.unpack with
  | case1 _ _ _ _ h => simpa [UnpackedFloat.isFinite] using h
  | case2 _ _ h => simpa [UnpackedFloat.isFinite] using h
  | case3 _ _ _ _ h => simpa [UnpackedFloat.isFinite] using h
  | case4 _ _ _ _ _ h => simpa [UnpackedFloat.isFinite] using h
  | case5 _ _ _ _ _ h => simpa [UnpackedFloat.isFinite] using h

theorem unpack_eq_notANumber :
    UnpackedFloat.unpack binary64 b = .notANumber ↔ isNaNBits b = true := by
  unfold isNaNBits
  fun_cases UnpackedFloat.unpack with
  | case1 _ _ _ _ h h' => simpa using fun _ => h'
  | case2 _ _ h h' => simpa using ⟨h, h'⟩
  | case3 _ _ _ _ h => simpa using fun h' => absurd h' h
  | case4 _ _ _ _ _ h => simpa using fun h' => absurd h' h
  | case5 _ _ _ _ _ h => simpa using fun h' => absurd h' h

/-- Packing never makes a number something else: what is too large becomes infinite. -/
theorem isNaNBits_pack (x : UnpackedFloat) :
    isNaNBits (UnpackedFloat.pack binary64 x) = true ↔ x = .notANumber := by
  fun_cases UnpackedFloat.pack with
  | case1 => simp [UnpackedFloat.isNaNBits_packedNaN]
  | case2 s => simp [UnpackedFloat.packedInfinity, isNaNBits]
  | case3 s => simp [UnpackedFloat.packedZero, isNaNBits]
  | case4 => simp [UnpackedFloat.packedInfinity, isNaNBits]
  | case5 s m e hm _ field hsmall =>
    have hbits : 2 ^ binary64.exponentBits = 2048 := rfl
    have hfield : BitVec.ofNat 11 field ≠ 2047#11 := by
      rw [ne_eq, ← BitVec.toNat_inj, BitVec.toNat_ofNat, Nat.mod_eq_of_lt (by omega)]
      simp only [BitVec.toNat_ofNat]
      omega
    simp [isNaNBits, hfield]
  | case6 => simp [isNaNBits]

theorem unpack_pack (x : UnpackedFloat) :
    (Float.Model.pack x).unpack = .notANumber ↔ x = .notANumber :=
  (unpack_eq_notANumber _).trans (isNaNBits_pack x)

/-- Bits stand for no number if the field of the exponent is full and the fraction is not empty. -/
theorem isNaN_ofBits (b : UInt64) :
    (Float.ofBits b).isNaN = true ↔ b.toNat / 2 ^ 52 % 2 ^ 11 = 2047 ∧ b.toNat % 2 ^ 52 ≠ 0 := by
  rw [isNaN_iff]
  refine (unpack_pack _).trans ((unpack_eq_notANumber _).trans ?_)
  simp only [isNaNBits, decide_eq_true_eq]
  exact and_congr (unpackExponent_eq_iff _) (unpackMantissa_eq_iff _).not

/-- Bits stand for a finite number if the field of the exponent is not full. -/
theorem isFinite_ofBits {b : UInt64} (h : b.toNat / 2 ^ 52 % 2 ^ 11 ≠ 2047) :
    (Float.ofBits b).isFinite = true := by
  have hexponent : @unpackExponent binary64 b.toBitVec ≠ 2047#11 :=
    (unpackExponent_eq_iff _).not.2 h
  have hbits : @isNaNBits binary64 b.toBitVec = false := by
    simp [isNaNBits, hexponent]
  -- bits of a number are kept as they are
  have hpack := @UnpackedFloat.pack_unpack binary64 b.toBitVec (by decide)
  rw [hbits, if_neg (by decide)] at hpack
  change (UnpackedFloat.unpack binary64 (UnpackedFloat.pack binary64
    (UnpackedFloat.unpack binary64 b.toBitVec))).isFinite = true
  rw [hpack]
  exact (unpack_isFinite _).2 hexponent

end Bits

/-! ## Operations -/

section Operations

/-- Finite doubles other than zero. -/
def isFactor (x : Float) : Bool :=
  match x.toModel.unpack with
  | .finite .. => true
  | _ => false

theorem roundWithAccuracy_ne (sign : UnpackedFloat.Sign) (m : Nat) (e : Int)
    (accuracy : UnpackedFloat.Accuracy) :
    UnpackedFloat.roundWithAccuracy binary64 sign m e accuracy ≠ .notANumber := by
  unfold UnpackedFloat.roundWithAccuracy
  dsimp only
  split <;> simp

theorem normalize_ne (m e : Int) (sign : UnpackedFloat.Sign) :
    UnpackedFloat.normalize binary64 m e sign ≠ .notANumber := by
  unfold UnpackedFloat.normalize UnpackedFloat.round
  split
  · exact roundWithAccuracy_ne _ _ _ _
  · simp
  · exact roundWithAccuracy_ne _ _ _ _

variable {x y : Float}

theorem isNaN_eq_false : x.isNaN = false ↔ x.toModel.unpack ≠ .notANumber := by
  rw [← Bool.not_eq_true, isNaN_iff]

theorem isNaN_of_isFinite (h : x.isFinite = true) : x.isNaN = false := by
  rw [isNaN_eq_false]
  intro hnot
  change x.toModel.unpack.isFinite = true at h
  rw [hnot] at h
  cases h

/-- The sum of a finite number and a number is a number. -/
theorem isNaN_add (hx : x.isFinite = true) (hy : y.isNaN = false) : (x + y).isNaN = false := by
  rw [isNaN_eq_false] at hy ⊢
  change x.toModel.unpack.isFinite = true at hx
  refine (unpack_pack _).not.2 ?_
  cases hx' : x.toModel.unpack <;> cases hy' : y.toModel.unpack <;>
    simp_all [UnpackedFloat.add, UnpackedFloat.isFinite, normalize_ne]
  split <;> simp

/-- A number times a finite number that is not zero is a number. -/
theorem isNaN_mul (hx : x.isNaN = false) (hy : isFactor y = true) : (x * y).isNaN = false := by
  rw [isNaN_eq_false] at hx ⊢
  unfold isFactor at hy
  refine (unpack_pack _).not.2 ?_
  cases hx' : x.toModel.unpack <;> cases hy' : y.toModel.unpack <;>
    simp_all [UnpackedFloat.mul, roundWithAccuracy_ne]

/-- A number by a finite number that is not zero is a number. -/
theorem isNaN_div (hx : x.isNaN = false) (hy : isFactor y = true) : (x / y).isNaN = false := by
  rw [isNaN_eq_false] at hx ⊢
  unfold isFactor at hy
  refine (unpack_pack _).not.2 ?_
  cases hx' : x.toModel.unpack <;> cases hy' : y.toModel.unpack <;>
    simp_all [UnpackedFloat.div, roundWithAccuracy_ne]

theorem isNaN_ite {c : Prop} [Decidable c] (hx : x.isNaN = false) (hy : y.isNaN = false) :
    (if c then x else y).isNaN = false := by
  split
  · exact hx
  · exact hy

theorem isNaN_neg (hx : x.isNaN = false) : (-x).isNaN = false := by
  rw [isNaN_eq_false] at hx ⊢
  refine (unpack_pack _).not.2 ?_
  cases hx' : x.toModel.unpack <;> simp_all [UnpackedFloat.neg]

end Operations

/-! ## Rounding to a double -/

section Nearest

variable {n d : Nat}

theorem two_zpow_toNat {e : Int} (he : 0 ≤ e) : (2 : ℚ) ^ e = 2 ^ e.toNat := by
  rw [← zpow_natCast, Int.toNat_of_nonneg he]

/-- Comparing a quotient with a power of two without fractions. -/
theorem lt_mul_zpow_iff (n d : Nat) (e : Int) :
    (n : ℚ) < d * 2 ^ e ↔ if 0 ≤ e then n < d * 2 ^ e.toNat else n * 2 ^ (-e).toNat < d := by
  by_cases hpos : 0 ≤ e
  · rw [if_pos hpos, two_zpow_toNat hpos]
    exact_mod_cast Iff.rfl
  · have hinverse : (2 : ℚ) ^ e = (2 ^ (-e).toNat)⁻¹ := by
      rw [← two_zpow_toNat (by omega), zpow_neg, inv_inv]
    rw [if_neg hpos, hinverse, ← div_eq_mul_inv, lt_div_iff₀ (by positivity)]
    exact_mod_cast Iff.rfl

/-- The quotient is below the power of two after its leading bit. -/
theorem lt_leadingBit (n : Nat) (hd : 0 < d) : (n : ℚ) < d * 2 ^ (leadingBit n d + 1) := by
  unfold leadingBit
  generalize hguess : (n.log2 : Int) - d.log2 = guess
  simp only [← lt_mul_zpow_iff]
  split
  · -- the guess is one too large, and the test that found this out is the bound
    rename_i hbelow
    rwa [sub_add_cancel]
  · have hn : (n : ℚ) < 2 ^ (n.log2 + 1) := by exact_mod_cast Nat.lt_log2_self
    have hlog : (2 : ℚ) ^ d.log2 ≤ d := by exact_mod_cast Nat.log2_self_le hd.ne'
    have hsum : (2 : ℚ) ^ (n.log2 + 1) = 2 ^ d.log2 * 2 ^ (guess + 1) := by
      rw [← zpow_natCast, ← zpow_natCast, ← zpow_add₀ (by norm_num)]
      congr 1
      push_cast
      omega
    rw [hsum] at hn
    exact hn.trans_le (mul_le_mul_of_nonneg_right hlog (by positivity))

theorem leadingBit_le (n d : Nat) : leadingBit n d ≤ n.log2 := by
  unfold leadingBit
  dsimp only
  split_ifs <;> omega

/-- Rounding at the place `e` leaves as many bits as there are above that place. -/
theorem scaledHalfEven_le {p : Nat} {e : Int} (h : (n : ℚ) < d * 2 ^ (e + p)) :
    scaledHalfEven n d e ≤ 2 ^ p := by
  have hscaled : (n : ℚ) < (d * 2 ^ p : Nat) * 2 ^ e := by
    rw [add_comm, zpow_add₀ (by norm_num), zpow_natCast, ← mul_assoc] at h
    exact_mod_cast h
  rw [lt_mul_zpow_iff] at hscaled
  unfold scaledHalfEven
  split_ifs at hscaled ⊢
  · rw [Nat.mul_right_comm] at hscaled
    have hlt : n / (d * 2 ^ e.toNat) < 2 ^ p := Nat.div_lt_of_lt_mul hscaled
    have hround := halfEven_le n (d * 2 ^ e.toNat)
    omega
  · have hlt : n * 2 ^ (-e).toNat / d < 2 ^ p := Nat.div_lt_of_lt_mul hscaled
    have hround := halfEven_le (n * 2 ^ (-e).toNat) d
    omega

/-- Mantissa and exponent are those of a finite double. -/
structure IsDouble (m : Nat) (e : Int) : Prop where
  mantissa_lt : m < 2 ^ 53
  le_exponent : -1074 ≤ e
  exponent_le : e ≤ 971

/-- The place at which a quotient is rounded to a double. -/
def doublePlace (n d : Nat) : Int :=
  max (-1074) (leadingBit n d - (53 - 1))

theorem scaledHalfEven_place_le (n : Nat) (hd : 0 < d) :
    scaledHalfEven n d (doublePlace n d) ≤ 2 ^ 53 := by
  refine scaledHalfEven_le ((lt_leadingBit n hd).trans_le ?_)
  have hplace : leadingBit n d + 1 ≤ doublePlace n d + (53 : Nat) := by
    unfold doublePlace
    omega
  have hpower : (2 : ℚ) ^ (leadingBit n d + 1) ≤ 2 ^ (doublePlace n d + (53 : Nat)) :=
    zpow_le_zpow_right₀ (by norm_num) hplace
  exact mul_le_mul_of_nonneg_left hpower (by positivity)

/-- The double nearest to a quotient, before it is found to be too large. -/
def roundedDouble (n d : Nat) : Nat × Int :=
  if scaledHalfEven n d (doublePlace n d) = 2 ^ 53 then (2 ^ 52, doublePlace n d + 1)
  else (scaledHalfEven n d (doublePlace n d), doublePlace n d)

theorem nearest_eq (hn : n ≠ 0) (d : Nat) :
    Format.double.nearest n d =
      if (roundedDouble n d).2 ≤ 971 then some (roundedDouble n d) else none := by
  rw [Format.nearest, if_neg hn]
  rfl

theorem nearest_isDouble {m : Nat} {e : Int} (hd : 0 < d)
    (h : Format.double.nearest n d = some (m, e)) : IsDouble m e := by
  by_cases hn : n = 0
  · rw [Format.nearest, if_pos hn] at h
    cases h
    exact ⟨by decide, by decide, by decide⟩
  rw [nearest_eq hn] at h
  split at h
  · rename_i hlarge
    have hplace : -1074 ≤ doublePlace n d := Int.le_max_left _ _
    have hle := scaledHalfEven_place_le n hd
    have hrounded : roundedDouble n d = (m, e) := Option.some.inj h
    rw [hrounded] at hlarge
    dsimp only at hlarge
    unfold roundedDouble at hrounded
    -- a carry to the next power of two is taken up by the exponent
    split at hrounded
    · obtain ⟨rfl, rfl⟩ := Prod.mk.inj hrounded
      exact ⟨by decide, by omega, hlarge⟩
    · obtain ⟨rfl, rfl⟩ := Prod.mk.inj hrounded
      exact ⟨by omega, hplace, hlarge⟩
  · cases h

/-- A quotient with few bits before its point is no larger than the largest double. -/
theorem nearest_isSome (d : Nat) (hsmall : n < 2 ^ 200) :
    (Format.double.nearest n d).isSome = true := by
  by_cases hn : n = 0
  · rw [Format.nearest, if_pos hn]
    rfl
  have hlog : n.log2 < 200 := (Nat.log2_lt hn).2 hsmall
  have hbit := leadingBit_le n d
  have hexponent : (roundedDouble n d).2 ≤ 971 := by
    unfold roundedDouble doublePlace
    split <;> dsimp only <;> omega
  rw [nearest_eq hn, if_pos hexponent]
  rfl

/-- The field of the exponent in the bits of a finite double is not full. -/
theorem bitsOf_isDouble {m : Nat} {e : Int} (h : IsDouble m e) (negative : Bool) :
    (bitsOf negative (some (m, e))).toNat / 2 ^ 52 % 2 ^ 11 ≠ 2047 := by
  obtain ⟨hm, hlow, hhigh⟩ := h
  simp only [bitsOf]
  split
  · rw [UInt64.toNat_ofNat']
    split <;> omega
  · rw [UInt64.toNat_ofNat']
    split <;> omega

/-- The bits of an infinite double have no fraction. -/
theorem bitsOf_none (negative : Bool) : (bitsOf negative none).toNat % 2 ^ 52 = 0 := by
  cases negative <;> rfl

/-- Rounding a quotient gives a number, if only an infinite one. -/
theorem isNaN_nearestDouble (negative : Bool) (n : Nat) (hd : 0 < d) :
    (nearestDouble negative n d).isNaN = false := by
  rw [← Bool.not_eq_true, nearestDouble, isNaN_ofBits]
  rintro ⟨hfull, hfraction⟩
  cases h : Format.double.nearest n d with
  | none => exact hfraction (h ▸ bitsOf_none negative)
  | some found => exact bitsOf_isDouble (nearest_isDouble hd h) negative (h ▸ hfull)

theorem isFinite_nearestDouble (negative : Bool) (hd : 0 < d) (hsmall : n < 2 ^ 200) :
    (nearestDouble negative n d).isFinite = true := by
  obtain ⟨found, h⟩ := Option.isSome_iff_exists.1 (nearest_isSome d hsmall)
  rw [nearestDouble, h]
  exact isFinite_ofBits (bitsOf_isDouble (nearest_isDouble hd h) negative)

theorem isNaN_doubleOfInt (n : Int) : (doubleOfInt n).isNaN = false :=
  isNaN_nearestDouble _ _ Nat.one_pos

/-- Rounding to a whole number keeps a number one. -/
theorem isNaN_wholeWith (pick : Bool → Nat → Nat → Nat) {x : Float} (hx : x.isNaN = false) :
    (wholeWith pick x).isNaN = false := by
  unfold wholeWith
  split
  · split
    · exact hx
    · exact isNaN_nearestDouble _ _ Nat.one_pos
  · exact hx

end Nearest

end GatedPredicate.Number

namespace GatedPredicate.Decimal

open GatedPredicate.Number

/-! ## Decimals as doubles -/

/-- The powers of ten by which the places of a decimal are moved before and after the point. -/
theorem isFactor_tenPower {scale : Nat} (h : scale ≤ 28) :
    isFactor (tenPower scale) = true ∧ isFactor (doubleOfInt (10 ^ scale : Nat)) = true := by
  have hall : ∀ n ∈ List.range 29,
      isFactor (tenPower n) = true ∧ isFactor (doubleOfInt (10 ^ n : Nat)) = true := by
    decide +kernel
  exact hall scale (List.mem_range.2 (Nat.lt_succ_of_le h))

/-- Every decimal becomes a number. Its integer part is finite, so that adding the fraction cannot
meet two infinite doubles, and the place of the point is moved by finite factors other than zero. -/
theorem isNaN_toDouble (d : Decimal) : d.toDouble.isNaN = false := by
  obtain ⟨hscaling, hunit⟩ := isFactor_tenPower d.scale_le
  have hwhole : (doubleOfInt (d.mantissa / 10 ^ d.scale : Nat)).isFinite = true := by
    refine isFinite_nearestDouble _ Nat.one_pos ?_
    have hlt := Nat.div_le_self d.mantissa (10 ^ d.scale)
    exact Nat.lt_of_le_of_lt hlt (Nat.lt_trans d.mantissa_lt (by decide))
  have hfraction := isNaN_div (isNaN_doubleOfInt (d.mantissa % 10 ^ d.scale : Nat)) hunit
  have hmoved := isNaN_mul (isNaN_add hwhole hfraction) hscaling
  have hrounded := isNaN_wholeWith (fun _ n d => halfAway n d) hmoved
  have hmagnitude := isNaN_ite (c := d.mantissa % 10 ^ d.scale = 0)
    (isNaN_of_isFinite hwhole) (isNaN_div hrounded hscaling)
  exact isNaN_ite (isNaN_doubleOfInt _) (isNaN_ite (isNaN_neg hmagnitude) hmagnitude)

end GatedPredicate.Decimal
