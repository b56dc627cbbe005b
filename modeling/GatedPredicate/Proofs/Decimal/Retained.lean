import GatedPredicate.Decimal.Double
import GatedPredicate.Proofs.Decimal.Whole
import Mathlib.Algebra.Order.Field.Power
import Mathlib.Tactic.Linarith
import Mathlib.Tactic.NormNum
import Mathlib.Tactic.Ring

/-!
# The decimal of a double

A double becomes a decimal by trading powers of two for powers of five and ten. Where 96 bits do not
hold a product, the mantissa loses less than its last bits, so that after all steps the decimal is
the double but for a tiny part of it and half of the last place that a decimal can have.

- `Exchange.value`: what a mantissa and its powers stand for
- `Exchange.iterate_bounds`: the loss of a number of steps
- `limitPlaces_near`: the loss of places
- `retain?_near`
-/

namespace GatedPredicate.Decimal

open GatedPredicate.Number

/-! ## Trading powers -/

namespace Exchange

/-- The number that a mantissa and its powers stand for. -/
def value (x : Exchange) : ℚ :=
  x.mantissa * 5 ^ x.five * 10 ^ x.ten

/-- The part of a number that one step may lose. -/
def loss : ℚ := 1 / 2 ^ 93

/-- A step keeps the number, or loses a tiny part of it. -/
def Keeps (step : Exchange → Exchange) : Prop :=
  ∀ x : Exchange, (step x).value ≤ x.value ∧ x.value * (1 - loss) ≤ (step x).value

theorem value_nonneg (x : Exchange) : 0 ≤ x.value := by
  unfold value
  positivity

/-- Dropping the remainder of a division loses little of a large number. -/
theorem div_bounds {m k : Nat} (hk : 0 < k) (hlarge : (k - 1) * 2 ^ 93 ≤ m) :
    (m / k : Nat) * (k : ℚ) ≤ m ∧ (m : ℚ) * (1 - loss) ≤ (m / k : Nat) * (k : ℚ) := by
  have hrest : (m % k) * 2 ^ 93 ≤ m :=
    (Nat.mul_le_mul_right _ (Nat.le_sub_one_of_lt (Nat.mod_lt m hk))).trans hlarge
  have hsplit : ((m / k : Nat) * k : ℚ) + (m % k : Nat) = m := by
    exact_mod_cast Nat.div_add_mod' m k
  have hrest' : ((m % k : Nat) : ℚ) * 2 ^ 93 ≤ m := by exact_mod_cast hrest
  have hzero : (0 : ℚ) ≤ (m % k : Nat) := by positivity
  unfold loss
  constructor <;> linarith

/-- Powers that are traded without a remainder lose nothing. -/
theorem kept_of_eq {x y : Exchange} (h : y.value = x.value) :
    y.value ≤ x.value ∧ x.value * (1 - loss) ≤ y.value := by
  rw [h]
  exact ⟨le_rfl, mul_le_of_le_one_right x.value_nonneg (by norm_num [loss])⟩

/-- A mantissa that has its last bits divided off loses a tiny part. -/
theorem kept_of_div {x y : Exchange} {k : Nat} (hk : 0 < k)
    (hlarge : (k - 1) * 2 ^ 93 ≤ x.mantissa)
    (h : y.value = (x.mantissa / k : Nat) * (k : ℚ) * (5 ^ x.five * 10 ^ x.ten)) :
    y.value ≤ x.value ∧ x.value * (1 - loss) ≤ y.value := by
  obtain ⟨hle, hge⟩ := div_bounds hk hlarge
  have hunit : (0 : ℚ) ≤ 5 ^ x.five * 10 ^ x.ten := by positivity
  have hself : x.value = x.mantissa * (5 ^ x.five * 10 ^ x.ten) := mul_assoc _ _ _
  rw [h, hself, mul_right_comm (x.mantissa : ℚ)]
  exact ⟨mul_le_mul_of_nonneg_right hle hunit, mul_le_mul_of_nonneg_right hge hunit⟩

/-- An even mantissa is halved, another one is multiplied by five while there is room for it. -/
theorem stepDown_keeps : Keeps stepDown := by
  intro x
  have htrade : (5 : ℚ) ^ (x.five - 1) * 10 ^ (x.ten + 1) = 2 * (5 ^ x.five * 10 ^ x.ten) := by
    rw [zpow_sub_one₀ (by norm_num), zpow_add_one₀ (by norm_num)]
    ring
  unfold stepDown
  split
  · rename_i heven
    apply kept_of_eq
    have hm : ((x.mantissa / 2 : Nat) : ℚ) * 2 = x.mantissa := by
      exact_mod_cast (by omega : x.mantissa / 2 * 2 = x.mantissa)
    unfold value
    rw [mul_assoc, htrade, ← mul_assoc, hm, mul_assoc]
  · split
    · apply kept_of_eq
      unfold value
      rw [zpow_sub_one₀ (by norm_num)]
      push_cast
      ring
    · -- no room for another factor, so the last bit of an odd mantissa goes
      apply kept_of_div (k := 2) (by decide) (by omega)
      unfold value
      rw [mul_assoc, htrade]
      push_cast
      ring

/-- A mantissa is doubled while there is room for it, and divided by five otherwise. -/
theorem stepUp_keeps : Keeps stepUp := by
  intro x
  unfold stepUp
  split
  · apply kept_of_eq
    unfold value
    rw [zpow_add_one₀ (by norm_num), zpow_sub_one₀ (by norm_num)]
    push_cast
    ring
  · apply kept_of_div (k := 5) (by decide) (by omega)
    unfold value
    rw [zpow_add_one₀ (by norm_num)]
    push_cast
    ring

variable {step : Exchange → Exchange}

/-- The losses of several steps add up to no more than their number allows. -/
theorem iterate_bounds (hstep : Keeps step) (n : Nat) (x : Exchange) :
    (iterate step n x).value ≤ x.value ∧
      x.value * (1 - loss) ^ n ≤ (iterate step n x).value := by
  induction n generalizing x with
  | zero => simp [iterate]
  | succ n ih =>
    obtain ⟨hle, hge⟩ := ih (step x)
    obtain ⟨hstepLe, hstepGe⟩ := hstep x
    have hpower : (0 : ℚ) ≤ (1 - loss) ^ n := pow_nonneg (by norm_num [loss]) n
    refine ⟨hle.trans hstepLe, ?_⟩
    calc x.value * (1 - loss) ^ (n + 1)
      _ = x.value * (1 - loss) * (1 - loss) ^ n := by ring
      _ ≤ (step x).value * (1 - loss) ^ n := mul_le_mul_of_nonneg_right hstepGe hpower
      _ ≤ (iterate step (n + 1) x).value := hge

theorem iterate_five {change : Int} (hstep : ∀ x, (step x).five = x.five + change) (n : Nat)
    (x : Exchange) : (iterate step n x).five = x.five + n * change := by
  induction n generalizing x with
  | zero => simp [iterate]
  | succ n ih =>
    rw [iterate, ih, hstep]
    push_cast
    ring

end Exchange

/-! ## Limiting the places -/

/-- Rounding the last place off changes a number by half a unit of the place before it. -/
theorem dropPlace_near (m p : Nat) :
    |((((m + 5) / 10 : Nat) : ℚ) / 10 ^ p) - m / 10 ^ (p + 1)| ≤ 1 / 2 / 10 ^ p := by
  have hsplit : 10 * ((m + 5) / 10) + (m + 5) % 10 = m + 5 := Nat.div_add_mod _ _
  have hrest : (m + 5) % 10 ≤ 9 := by omega
  have hsplit' : (10 * ((m + 5) / 10 : Nat) : ℚ) + ((m + 5) % 10 : Nat) = m + 5 := by
    exact_mod_cast hsplit
  have hrest' : (((m + 5) % 10 : Nat) : ℚ) ≤ 9 := by exact_mod_cast hrest
  have hzero : (0 : ℚ) ≤ ((m + 5) % 10 : Nat) := by positivity
  have hscale : (0 : ℚ) < 10 ^ p := by positivity
  rw [pow_succ, mul_comm ((10 : ℚ) ^ p) 10, ← div_div, ← sub_div, abs_div, abs_of_pos hscale,
    div_le_div_iff_of_pos_right hscale, abs_le]
  constructor <;> linarith

/-- Dropping places changes a number by less than the last place that can be left.

Each place that is dropped adds half of the place before it, so that all of them leave one unit of
the first of them to the last place that can be left. -/
theorem limitPlaces_near (fuel m places : Nat) :
    |((limitPlaces fuel m places).1 : ℚ) / 10 ^ (limitPlaces fuel m places).2 - m / 10 ^ places| ≤
      1 / 10 ^ 28 - 1 / 10 ^ max places 28 := by
  induction fuel generalizing m places with
  | zero =>
    rw [limitPlaces, sub_self, abs_zero, sub_nonneg]
    exact one_div_le_one_div_of_le (by positivity)
      (pow_le_pow_right₀ (by norm_num) (le_max_right _ _))
  | succ fuel ih =>
    rw [limitPlaces]
    split
    · rename_i hfits
      rw [sub_self, abs_zero, max_eq_right hfits, sub_self]
    · rename_i hexcess
      obtain ⟨p, rfl⟩ : ∃ p, places = p + 1 := ⟨places - 1, by omega⟩
      have hp : (1 : ℚ) / 10 ^ p ≤ 1 / 10 ^ 28 :=
        one_div_le_one_div_of_le (by positivity) (pow_le_pow_right₀ (by norm_num) (by omega))
      have hplace : (1 : ℚ) / 10 ^ (p + 1) = 1 / 10 ^ p / 10 := by
        rw [pow_succ, ← div_div]
      rw [max_eq_left (by omega), hplace]
      split
      · -- no digit is left, and what is dropped is below the last place
        rename_i hzero
        have hm : (m : ℚ) ≤ 9 := by exact_mod_cast (by omega : m ≤ 9)
        have hm' : (m : ℚ) / 10 ^ (p + 1) = m * (1 / 10 ^ p / 10) := by
          rw [← hplace, mul_one_div]
        have hunit : (0 : ℚ) ≤ 1 / 10 ^ p := by positivity
        rw [Nat.cast_zero, zero_div, zero_sub, abs_neg, hm', abs_of_nonneg (by positivity)]
        nlinarith
      · have hrest := ih ((m + 5) / 10) p
        have hdrop := dropPlace_near m p
        rw [max_eq_left (by omega : 28 ≤ p)] at hrest
        rw [Nat.add_sub_cancel]
        refine (abs_sub_le _ _ _).trans ((add_le_add hrest hdrop).trans ?_)
        have hunit : (0 : ℚ) ≤ 1 / 10 ^ p := by positivity
        have hhalf : (1 : ℚ) / 2 / 10 ^ p = 1 / 10 ^ p / 2 := div_right_comm _ _ _
        rw [hhalf]
        linarith

/-! ## The decimal of a double -/

namespace Exchange

/-- The number that a double starts from. -/
theorem value_start (m : Nat) (e : Int) : value ⟨m, -e, e⟩ = m * 2 ^ e := by
  have hten : (10 : ℚ) ^ e = 5 ^ e * 2 ^ e := by
    rw [← mul_zpow]
    norm_num
  rw [value, hten, zpow_neg, mul_assoc, inv_mul_cancel_left₀ (by positivity)]

/-- The exchange of all powers of two of a double. -/
def settled (m : Nat) (e : Int) : Exchange :=
  if e ≤ 0 then iterate stepDown e.natAbs ⟨m, -e, e⟩ else iterate stepUp e.natAbs ⟨m, -e, e⟩

theorem settled_five (m : Nat) (e : Int) : (settled m e).five = 0 := by
  have hdown (x : Exchange) : (stepDown x).five = x.five + -1 := by
    unfold stepDown
    split_ifs <;> rfl
  have hup (x : Exchange) : (stepUp x).five = x.five + 1 := by
    unfold stepUp
    split_ifs <;> rfl
  unfold settled
  split
  · rw [iterate_five hdown]
    dsimp only
    omega
  · rw [iterate_five hup]
    dsimp only
    omega

/-- All that is lost is a tiny part for each power of two. -/
theorem settled_near (m : Nat) (e : Int) :
    |(settled m e).value - m * 2 ^ e| ≤ m * 2 ^ e * (e.natAbs * loss) := by
  have hbounds : (settled m e).value ≤ m * 2 ^ e ∧
      m * 2 ^ e * (1 - loss) ^ e.natAbs ≤ (settled m e).value := by
    rw [← value_start]
    unfold settled
    split
    · exact iterate_bounds stepDown_keeps _ _
    · exact iterate_bounds stepUp_keeps _ _
  have hpower : 1 + e.natAbs * -loss ≤ (1 + -loss) ^ e.natAbs :=
    one_add_mul_le_pow (by norm_num [loss]) _
  have hvalue : (0 : ℚ) ≤ m * 2 ^ e := by positivity
  have hlost := mul_le_mul_of_nonneg_left hpower hvalue
  rw [← sub_eq_add_neg] at hlost
  rw [abs_sub_comm, abs_of_nonneg (sub_nonneg.2 hbounds.1)]
  linarith [hbounds.2]

end Exchange

/-- Mantissa and scale of a double are near to it. -/
theorem exchange?_near {m n scale : Nat} {e : Int} (h : exchange? m e = some (n, scale)) :
    |(n / 10 ^ scale : ℚ) - m * 2 ^ e| ≤
      1 / 10 ^ 28 + m * 2 ^ e * (e.natAbs * Exchange.loss) := by
  have hsettled := Exchange.settled_near m e
  have hvalue : (Exchange.settled m e).value =
      (Exchange.settled m e).mantissa * 10 ^ (Exchange.settled m e).ten := by
    rw [Exchange.value, Exchange.settled_five, zpow_zero, mul_one]
  -- the exchange as two cases: a whole number, or places that are limited
  change (if 0 < (Exchange.settled m e).ten then
      if (Exchange.settled m e).mantissa * 10 ^ (Exchange.settled m e).ten.toNat < 2 ^ 96 then
        some ((Exchange.settled m e).mantissa * 10 ^ (Exchange.settled m e).ten.toNat, 0)
      else none
    else some (limitPlaces (Exchange.settled m e).ten.natAbs (Exchange.settled m e).mantissa
      (Exchange.settled m e).ten.natAbs)) = some (n, scale) at h
  generalize Exchange.settled m e = x at hsettled hvalue h
  have hplaces : (0 : ℚ) ≤ 1 / 10 ^ 28 := by positivity
  split at h
  · rename_i hten
    obtain ⟨-, hpair⟩ := Option.ite_none_right_eq_some.1 h
    obtain ⟨rfl, rfl⟩ := Prod.mk.inj (Option.some.inj hpair)
    have hwhole : ((x.mantissa * 10 ^ x.ten.toNat : Nat) / 10 ^ 0 : ℚ) = x.value := by
      rw [hvalue, pow_zero, div_one]
      push_cast
      rw [← zpow_natCast, Int.toNat_of_nonneg hten.le]
    rw [hwhole]
    linarith
  · rename_i hten
    have hnear := limitPlaces_near x.ten.natAbs x.mantissa x.ten.natAbs
    have hpair := Option.some.inj h
    have hscaled : (x.mantissa / 10 ^ x.ten.natAbs : ℚ) = x.value := by
      have hneg : x.ten = -(x.ten.natAbs : Int) := by omega
      rw [hvalue, div_eq_mul_inv]
      conv_rhs => rw [hneg, zpow_neg, zpow_natCast]
    rw [hpair, hscaled] at hnear
    have hleft : (0 : ℚ) ≤ 1 / 10 ^ max x.ten.natAbs 28 := by positivity
    calc |(n / 10 ^ scale : ℚ) - m * 2 ^ e|
      _ ≤ |(n / 10 ^ scale : ℚ) - x.value| + |x.value - m * 2 ^ e| := abs_sub_le _ _ _
      _ ≤ 1 / 10 ^ 28 + m * 2 ^ e * (e.natAbs * Exchange.loss) := by linarith

/-- The value of a decimal without its sign. -/
theorem abs_value (d : Decimal) : |d.value| = d.mantissa / 10 ^ d.scale := by
  have hsigned : |(d.signed : ℚ)| = d.mantissa := by
    rw [← natAbs_signed, Nat.cast_natAbs, Int.cast_abs]
  rw [value, abs_div, hsigned, abs_of_pos (by positivity)]

/-- The decimal of a double is near to it. -/
theorem retain?_near {x : Float} {r : Decimal} {negative : Bool} {m : Nat} {e : Int}
    (hparts : parts x = .finite negative m e) (h : retain? x = some r) :
    |(|r.value| - m * 2 ^ e)| ≤ 1 / 10 ^ 28 + m * 2 ^ e * (e.natAbs * Exchange.loss) := by
  rw [retain?, convert?, hparts] at h
  dsimp only at h
  split at h
  · rename_i hzero
    obtain rfl := Option.some.inj h
    rw [abs_value, hzero]
    norm_num [zero]
  · obtain ⟨⟨n, scale⟩, hfound, hmade⟩ := Option.bind_eq_some_iff.1 h
    obtain ⟨d, hd, rfl⟩ := Option.map_eq_some_iff.1 hmade
    have hnear := exchange?_near hfound
    have hvalue : |({ d with negative := negative } : Decimal).value| = n / 10 ^ scale := by
      rw [abs_value]
      unfold make? at hd
      split at hd
      · obtain rfl := Option.some.inj hd
        rfl
      · cases hd
    rwa [hvalue]

end GatedPredicate.Decimal
