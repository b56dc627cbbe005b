import GatedPredicate.Decimal.Arith
import Mathlib.Algebra.Order.Field.Rat
import Mathlib.Tactic.Positivity

/-!
# Decimals without places

A decimal of scale 0 stands for an integer whose magnitude has 96 bits. Sums, differences and
products of such decimals are exact, and there is none only where the exact result has a larger
magnitude. Quotients and remainders by anything but zero are always there, whatever rounding they
take: long division stops while there is still a place that can be dropped.

- `Decimal.value`: the number that a decimal stands for
- `Decimal.IsWhole`, `Decimal.Narrows`
- `Decimal.add?_whole`, `Decimal.sub?_whole`, `Decimal.mul?_whole`
- `Decimal.div?_isSome`, `Decimal.rem?_isSome`
-/

namespace GatedPredicate

open GatedPredicate.Number

namespace Decimal

/-- The rational number that a decimal stands for. -/
def value (d : Decimal) : ℚ :=
  d.signed / 10 ^ d.scale

variable {a b : Decimal} {x y : Int}

/-- The decimal is the integer `n`, written without places. -/
def IsWhole (d : Decimal) (n : Int) : Prop :=
  d.scale = 0 ∧ d.signed = n

theorem IsWhole.value (h : a.IsWhole x) : a.value = x := by
  obtain ⟨hscale, hsigned⟩ := h
  simp [Decimal.value, hscale, hsigned]

theorem natAbs_signed (d : Decimal) : d.signed.natAbs = d.mantissa := by
  unfold signed
  split <;> simp

theorem IsWhole.natAbs (h : a.IsWhole x) : x.natAbs = a.mantissa := by
  rw [← h.2, natAbs_signed]

theorem IsWhole.isZero_iff (h : a.IsWhole x) : a.isZero = true ↔ x = 0 := by
  rw [isZero, beq_iff_eq, ← h.natAbs, Int.natAbs_eq_zero]

theorem ofInt64_whole (n : Int64) : (ofInt64 n).IsWhole n.toInt := by
  refine ⟨rfl, ?_⟩
  simp only [ofInt64, ofMagnitude, signed, decide_eq_true_eq]
  split
  · omega
  · omega

theorem ofUInt64_whole (n : UInt64) : (ofUInt64 n).IsWhole n.toNat :=
  ⟨rfl, rfl⟩

/-- The optional decimal is the integer `n`, and it is there if 96 bits hold `n`. -/
def Narrows (o : Option Decimal) (n : Int) : Prop :=
  (n.natAbs < 2 ^ 96 → ∃ d, o = some d ∧ d.IsWhole n) ∧ (¬ n.natAbs < 2 ^ 96 → o = none)

/-- A decimal that is there narrows what it stands for. -/
theorem IsWhole.narrows (h : a.IsWhole x) : Narrows (some a) x := by
  refine ⟨fun _ => ⟨a, rfl, h⟩, fun hlarge => absurd ?_ hlarge⟩
  rw [h.natAbs]
  exact a.mantissa_lt

theorem Narrows.isWhole {o : Option Decimal} (h : Narrows o x) (ha : o = some a) :
    a.IsWhole x := by
  by_cases hfits : x.natAbs < 2 ^ 96
  · obtain ⟨d, hd, hwhole⟩ := h.1 hfits
    rw [ha] at hd
    obtain rfl := Option.some.inj hd
    exact hwhole
  · rw [h.2 hfits] at ha
    cases ha

/-- Without places there is nothing to round: a magnitude fits or it does not. -/
theorem fit?_whole (negative : Bool) (m : Nat) :
    fit? negative m 0 = if m < 2 ^ 96 then make? negative m 0 else none := by
  by_cases h : m < 2 ^ 96
  · simp [fit?, excess?, List.range_succ, h]
  · simp [fit?, excess?, List.range_succ, h]

theorem make?_whole {negative : Bool} {m : Nat} (h : m < 2 ^ 96) :
    ∃ d, make? negative m 0 = some d ∧ d.IsWhole (if negative then -(m : Int) else m) := by
  refine ⟨_, dif_pos ⟨h, by decide⟩, rfl, ?_⟩
  -- a zero loses its sign, which makes no difference to its value
  cases negative <;> by_cases hm : m = 0 <;> simp [signed, hm]

theorem fit?_narrows (negative : Bool) (m : Nat) :
    Narrows (fit? negative m 0) (if negative then -(m : Int) else m) := by
  have habs : (if negative then -(m : Int) else m).natAbs = m := by
    split <;> simp
  rw [Narrows, habs, fit?_whole]
  constructor
  · intro h
    rw [if_pos h]
    exact make?_whole h
  · exact fun h => if_neg h

theorem fitInt?_narrows (n : Int) : Narrows (fitInt? n 0) n := by
  have hsign : (if decide (n < 0) = true then -(n.natAbs : Int) else n.natAbs) = n := by
    simp only [decide_eq_true_eq]
    split
    · omega
    · omega
  have hfit := fit?_narrows (decide (n < 0)) n.natAbs
  rwa [hsign] at hfit

theorem IsWhole.signedAt (h : a.IsWhole x) : a.signedAt 0 = x := by
  obtain ⟨hscale, hsigned⟩ := h
  simp [Decimal.signedAt, hscale, hsigned]

theorem add?_whole (ha : a.IsWhole x) (hb : b.IsWhole y) : Narrows (add? a b) (x + y) := by
  unfold add?
  split
  · -- adding to zero gives the other operand back
    rename_i hzero
    rw [ha.isZero_iff.1 hzero, zero_add]
    exact hb.narrows
  split
  · rename_i hzero
    rw [hb.isZero_iff.1 hzero, add_zero]
    exact ha.narrows
  · simp only [ha.1, hb.1, max_self, ha.signedAt, hb.signedAt]
    exact fitInt?_narrows (x + y)

theorem IsWhole.negate (h : a.IsWhole x) : a.negate.IsWhole (-x) := by
  refine ⟨h.1, ?_⟩
  rw [← h.2]
  simp only [Decimal.negate, signed]
  by_cases hsign : a.negative = true <;> simp [hsign]

theorem sub?_whole (ha : a.IsWhole x) (hb : b.IsWhole y) : Narrows (sub? a b) (x - y) := by
  unfold sub?
  split
  · rename_i hzero
    rw [ha.isZero_iff.1 hzero, zero_sub]
    split
    · -- zero less zero is the zero that is taken away
      rename_i hzero'
      rw [hb.isZero_iff.1 hzero', neg_zero]
      rw [hb.isZero_iff.1 hzero'] at hb
      exact hb.narrows
    · exact hb.negate.narrows
  split
  · rename_i hzero
    rw [hb.isZero_iff.1 hzero, sub_zero]
    exact ha.narrows
  · simp only [ha.1, hb.1, max_self, ha.signedAt, hb.signedAt]
    exact fitInt?_narrows (x - y)

theorem mul?_whole (ha : a.IsWhole x) (hb : b.IsWhole y) : Narrows (mul? a b) (x * y) := by
  have hzero : zero.IsWhole 0 := ⟨rfl, rfl⟩
  unfold mul?
  simp only [ha.1, hb.1]
  split
  · rename_i hfactor
    rw [Bool.or_eq_true, ha.isZero_iff, hb.isZero_iff] at hfactor
    rw [mul_eq_zero.2 hfactor]
    exact hzero.narrows
  split
  · -- too many places for two short operands: there are none here
    rename_i hplaces
    omega
  · have hproduct : (if (a.negative != b.negative) = true then
        -((a.mantissa * b.mantissa : Nat) : Int) else (a.mantissa * b.mantissa : Nat)) = x * y := by
      rw [← ha.2, ← hb.2]
      simp only [signed]
      cases a.negative <;> cases b.negative <;> simp
    have hfit := fit?_narrows (a.negative != b.negative) (a.mantissa * b.mantissa)
    rwa [hproduct] at hfit

/-! ## Quotients and remainders -/

theorem make?_isSome {negative : Bool} {m scale : Nat} (hm : m < 2 ^ 96) (hscale : scale ≤ 28) :
    (make? negative m scale).isSome = true := by
  rw [make?, dif_pos ⟨hm, hscale⟩]
  rfl

theorem dropPlaces_le (places m scale : Nat) :
    (dropPlaces places m scale).1 ≤ m ∧ (dropPlaces places m scale).2 ≤ scale := by
  unfold dropPlaces
  split
  · exact ⟨Nat.div_le_self _ _, Nat.sub_le _ _⟩
  · exact ⟨Nat.le_refl _, Nat.le_refl _⟩

/-- Dropping zeros makes neither the mantissa nor the scale larger. -/
theorem dropQuotientZeros_le (fuel m scale : Nat) :
    (dropQuotientZeros fuel m scale).1 ≤ m ∧ (dropQuotientZeros fuel m scale).2 ≤ scale := by
  induction fuel generalizing m scale with
  | zero => exact ⟨Nat.le_refl _, Nat.le_refl _⟩
  | succ fuel ih =>
    rw [dropQuotientZeros]
    split
    · obtain ⟨hm, hscale⟩ := ih (m / 10 ^ 8) (scale - 8)
      exact ⟨Nat.le_trans hm (Nat.div_le_self _ _), Nat.le_trans hscale (Nat.sub_le _ _)⟩
    · have h4 := dropPlaces_le 4 m scale
      have h2 := dropPlaces_le 2 (dropPlaces 4 m scale).1 (dropPlaces 4 m scale).2
      have h1 := dropPlaces_le 1 (dropPlaces 2 (dropPlaces 4 m scale).1 (dropPlaces 4 m scale).2).1
        (dropPlaces 2 (dropPlaces 4 m scale).1 (dropPlaces 4 m scale).2).2
      exact ⟨Nat.le_trans h1.1 (Nat.le_trans h2.1 h4.1), Nat.le_trans h1.2 (Nat.le_trans h2.2 h4.2)⟩

/-- What long division by `d` keeps: the remainder is below the divisor, the scale is one that a
decimal can have, and the quotient can be rounded up as it is or after its last place is dropped. -/
structure Rounds (d q : Nat) (scale : Int) (r : Nat) : Prop where
  remainder_lt : r < d
  scale_nonneg : 0 ≤ scale
  scale_le : scale ≤ 28
  quotient_lt : q + 1 < 2 ^ 96 ∨ (0 < scale ∧ q < 2 ^ 97)

/-- One step of long division, which takes `p` more digits. -/
theorem Rounds.step {d q r p : Nat} {scale : Int} (h : Rounds d q scale r) (hp : 0 < p)
    (hplaces : p ≤ min 9 (28 - scale).toNat) (hfit : q * 10 ^ p < 2 ^ 96) :
    Rounds d (q * 10 ^ p + r * 10 ^ p / d) (scale + p) (r * 10 ^ p % d) := by
  have hd : 0 < d := Nat.lt_of_le_of_lt (Nat.zero_le r) h.remainder_lt
  have hnonneg := h.scale_nonneg
  have hle := h.scale_le
  -- the new digits are less than `10 ^ p`, since the remainder is less than the divisor
  have hpower : 0 < 10 ^ p := by positivity
  have hdigits : r * 10 ^ p / d < 10 ^ p :=
    Nat.div_lt_of_lt_mul (Nat.mul_lt_mul_of_pos_right h.remainder_lt hpower)
  have hnine : 10 ^ p ≤ 10 ^ 9 := Nat.pow_le_pow_right (by decide) (by omega)
  constructor
  case remainder_lt => exact Nat.mod_lt _ hd
  case scale_nonneg => omega
  case scale_le => omega
  case quotient_lt => exact .inr ⟨by omega, by omega⟩

theorem Rounds.longDivision {d : Nat} (fuel : Nat) {q r : Nat} {scale : Int}
    (h : Rounds d q scale r) :
    Rounds d (longDivision d fuel q scale r).1 (longDivision d fuel q scale r).2.1
      (longDivision d fuel q scale r).2.2 := by
  induction fuel generalizing q scale r with
  | zero => exact h
  | succ fuel ih =>
    rw [Decimal.longDivision]
    split
    · exact h
    rename_i hremains
    -- a scale that is not negative leaves the case in which digits remain
    have hr : r ≠ 0 := fun hr => hremains ⟨hr, h.scale_nonneg⟩
    simp only [if_neg hr]
    split
    · exact h
    · exact h
    · rename_i p hp hfound
      have hmem := List.mem_of_find?_eq_some hfound
      rw [List.mem_reverse, List.mem_range] at hmem
      have hfit : q * 10 ^ p < 2 ^ 96 := by simpa using List.find?_some hfound
      have hpos : 0 < p := Nat.pos_of_ne_zero hp
      have hstep := h.step hpos (Nat.le_of_lt_succ hmem) hfit
      split
      · exact ih hstep
      · exact hstep

theorem Rounds.div_eq {d q r : Nat} {scale : Int} (h : Rounds d q scale r) :
    (q * d + r) / d = q := by
  have hd : 0 < d := Nat.lt_of_le_of_lt (Nat.zero_le r) h.remainder_lt
  rw [Nat.mul_comm, Nat.mul_add_div hd, Nat.div_eq_of_lt h.remainder_lt, Nat.add_zero]

/-- Rounding at the last place adds one at most. -/
theorem Rounds.rounded_le {d q r : Nat} {scale : Int} (h : Rounds d q scale r) :
    (if r = 0 then q else halfEven (q * d + r) d) ≤ q + 1 := by
  split
  · exact Nat.le_succ q
  · have hnear := halfEven_le (q * d + r) d
    rwa [h.div_eq] at hnear

/-- A quotient that long division leaves can be rounded. -/
theorem Rounds.roundQuotient? {d q r : Nat} {scale : Int} (h : Rounds d q scale r)
    (negative : Bool) : (roundQuotient? negative d q scale r).isSome = true := by
  have hnonneg := h.scale_nonneg
  have hle := h.scale_le
  -- zeros are dropped from what is in range, so it stays in range
  have hfinish (m places : Nat) (hm : m < 2 ^ 96) (hplaces : places ≤ 28) :
      (make? negative (dropQuotientZeros 4 m places).1 (dropQuotientZeros 4 m places).2).isSome =
        true := by
    obtain ⟨hless, hfewer⟩ := dropQuotientZeros_le 4 m places
    exact make?_isSome (Nat.lt_of_le_of_lt hless hm) (Nat.le_trans hfewer hplaces)
  have hrounded := h.rounded_le
  unfold Decimal.roundQuotient?
  rw [if_neg (by omega)]
  dsimp only
  generalize (if r = 0 then q else halfEven (q * d + r) d) = rounded at *
  split
  · rename_i hfits
    have hplaces : scale.toNat ≤ 28 := by omega
    exact hfinish rounded _ hfits hplaces
  · -- one place fewer: there is one, because the quotient is too large to have none
    rename_i hlarge
    have hplace : 0 < scale ∧ q < 2 ^ 97 := by
      rcases h.quotient_lt with hsmall | hplace
      · omega
      · exact hplace
    rw [if_neg (by omega)]
    have hnear := halfEven_le (q * d + r) (d * 10)
    rw [← Nat.div_div_eq_div_mul, h.div_eq] at hnear
    rw [Nat.mul_comm 10 d]
    have hfits : halfEven (q * d + r) (d * 10) < 2 ^ 96 := by omega
    have hplaces : scale.toNat - 1 ≤ 28 := by omega
    exact hfinish _ _ hfits hplaces

/-- A division that leaves a remainder may go on from its integer quotient: the divisor is two at
least, so there is room for rounding up. -/
theorem Rounds.start {n d : Nat} (hd : 0 < d) (hn : n < 2 ^ 96) (hr : n % d ≠ 0) :
    Rounds d (n / d) 0 (n % d) := by
  have htwo : 2 ≤ d := by
    by_contra hone
    have hone : d = 1 := by omega
    exact hr (by rw [hone, Nat.mod_one])
  have hhalf : n / d ≤ n / 2 := Nat.div_le_div_left htwo (by decide)
  exact ⟨Nat.mod_lt _ hd, by omega, by omega, .inl (by omega)⟩

theorem div?_isSome (ha : a.scale = 0) (hb : b.scale = 0) (hne : b.isZero = false) :
    (div? a b).isSome = true := by
  have hpos : 0 < b.mantissa := Nat.pos_of_ne_zero fun hzero => by simp [isZero, hzero] at hne
  have hlt := a.mantissa_lt
  unfold div?
  rw [if_neg (by simp [hne])]
  split
  · rfl
  dsimp only
  rw [ha, hb]
  split
  · -- the mantissas divide
    have hq : a.mantissa / b.mantissa < 2 ^ 96 := Nat.lt_of_le_of_lt (Nat.div_le_self _ _) hlt
    exact make?_isSome hq (by decide)
  · rename_i hr
    have hstart := Rounds.start hpos hlt hr
    exact (hstart.longDivision 60).roundQuotient? _

theorem rem?_isSome (ha : a.scale = 0) (hb : b.scale = 0) (hne : b.isZero = false) :
    (rem? a b).isSome = true := by
  have hpos : 0 < b.mantissa := Nat.pos_of_ne_zero fun hzero => by simp [isZero, hzero] at hne
  unfold rem?
  rw [if_neg (by simp [hne])]
  split
  · rfl
  split
  · rfl
  split
  · rfl
  · have hsigned : (b.signedAt 0).natAbs = b.mantissa := by
      have hwhole : b.IsWhole b.signed := ⟨hb, rfl⟩
      rw [hwhole.signedAt, natAbs_signed]
    simp only [ha, hb, max_self, hsigned]
    have hsmall : (a.signedAt 0).natAbs % b.mantissa < 2 ^ 96 :=
      Nat.lt_trans (Nat.mod_lt _ hpos) b.mantissa_lt
    rw [fit?_whole, if_pos hsmall]
    exact make?_isSome hsmall (by decide)

end Decimal

end GatedPredicate
