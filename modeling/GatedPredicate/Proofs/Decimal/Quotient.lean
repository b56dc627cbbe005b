import GatedPredicate.Proofs.Decimal.Whole
import Mathlib.Tactic.Ring

/-!
# Quotients of decimals without places

The quotient of two whole decimals is not rounded to an integer: long division goes on behind the
point. The digits before the point are still those of the integer quotient, because division stops
late enough for rounding not to reach them, and there are digits behind it unless the division
leaves no remainder. The remainder itself is that of integers.

- `QuotientDigits`, `quotientDigits_of_near`: a mantissa that is nearer to the quotient than one
  unit has the right digits before its point
- `Expands`, `Expands.longDivision`: what long division keeps, and where it ends
- `quotientDigits_halfEven`, `Expands.roundQuotient?`: rounding the quotient
- `isQuotient_div?`, `div?_whole`, `rem?_whole`: quotients and remainders of integers
-/

namespace GatedPredicate

open GatedPredicate.Number

namespace Decimal

/-! ## Digits before and behind the point -/

/-- A mantissa at a scale has the digits of `n / d` before its point, and others than zeros behind
it if and only if `d` does not divide `n`. -/
structure QuotientDigits (n d m scale : Nat) : Prop where
  integerPart : m / 10 ^ scale = n / d
  exact_iff : m % 10 ^ scale = 0 ↔ d ∣ n

variable {n d m scale : Nat}

/-- A mantissa that is nearer to the quotient than one unit has its digits, if the quotient is not
an integer: at an integer the neighbour below would be as good. -/
theorem quotientDigits_of_near (hd : 0 < d) (hrest : ¬ d ∣ n)
    (hlow : n * 10 ^ scale < m * d + 10 ^ scale) (hhigh : m * d < n * 10 ^ scale + 10 ^ scale) :
    QuotientDigits n d m scale := by
  have hunit : 0 < 10 ^ scale := by positivity
  have hsplit : n * 10 ^ scale = n / d * 10 ^ scale * d + n % d * 10 ^ scale := by
    conv_lhs => rw [← Nat.div_add_mod n d]
    ring
  -- the remainder keeps the quotient one unit away from the integers on both sides
  have hpositive : 10 ^ scale ≤ n % d * 10 ^ scale :=
    Nat.le_mul_of_pos_left _ (Nat.pos_of_ne_zero fun h => hrest (Nat.dvd_of_mod_eq_zero h))
  have hless : n % d * 10 ^ scale + 10 ^ scale ≤ 10 ^ scale * d := by
    have hmul := Nat.mul_le_mul_right (10 ^ scale) (Nat.succ_le_of_lt (Nat.mod_lt n hd))
    rwa [Nat.succ_mul, Nat.mul_comm d] at hmul
  have habove : n / d * 10 ^ scale < m :=
    Nat.lt_of_mul_lt_mul_right (a := d) (by omega)
  have hbelow : m < n / d * 10 ^ scale + 10 ^ scale := by
    refine Nat.lt_of_mul_lt_mul_right (a := d) ?_
    rw [Nat.add_mul]
    omega
  have hquotient : m / 10 ^ scale = n / d := by
    rw [Nat.div_eq_iff hunit]
    exact ⟨habove.le, by omega⟩
  refine ⟨hquotient, iff_of_false (fun hzero => ?_) hrest⟩
  have hwhole := Nat.div_add_mod' m (10 ^ scale)
  rw [hquotient, hzero] at hwhole
  omega

/-- An exact quotient has its own digits. -/
theorem quotientDigits_of_exact (hd : 0 < d) (h : m * d = n * 10 ^ scale) :
    QuotientDigits n d m scale := by
  have hunit : 0 < 10 ^ scale := by positivity
  constructor
  case integerPart =>
    rw [← Nat.mul_div_mul_right m (10 ^ scale) hd, h, Nat.mul_comm (10 ^ scale),
      Nat.mul_div_mul_right _ _ hunit]
  case exact_iff =>
    rw [← Nat.dvd_iff_mod_eq_zero]
    constructor
    · rintro ⟨k, rfl⟩
      refine ⟨k, Nat.eq_of_mul_eq_mul_right hunit ?_⟩
      rw [← h]
      ring
    · rintro ⟨k, rfl⟩
      refine ⟨k, Nat.eq_of_mul_eq_mul_right hd ?_⟩
      rw [h]
      ring

/-- Zeros at the end may go. -/
theorem QuotientDigits.drop (h : QuotientDigits n d m scale) {places : Nat}
    (hplaces : places ≤ scale) (hzeros : m % 10 ^ places = 0) :
    QuotientDigits n d (m / 10 ^ places) (scale - places) := by
  have hpower : 10 ^ scale = 10 ^ (scale - places) * 10 ^ places := by
    rw [← pow_add, Nat.sub_add_cancel hplaces]
  obtain ⟨k, rfl⟩ := Nat.dvd_of_mod_eq_zero hzeros
  obtain ⟨hinteger, hexact⟩ := h
  have hunit : 0 < 10 ^ places := by positivity
  rw [hpower, Nat.mul_comm (10 ^ places) k] at hinteger hexact
  rw [Nat.mul_div_mul_right _ _ hunit] at hinteger
  rw [Nat.mul_mod_mul_right, Nat.mul_eq_zero, or_iff_left hunit.ne'] at hexact
  rw [Nat.mul_div_cancel_left _ hunit]
  exact ⟨hinteger, hexact⟩

theorem QuotientDigits.dropPlaces (h : QuotientDigits n d m scale) (places : Nat) :
    QuotientDigits n d (dropPlaces places m scale).1 (dropPlaces places m scale).2 := by
  unfold Decimal.dropPlaces
  split
  · rename_i hdrop
    exact h.drop hdrop.2.1 hdrop.2.2
  · exact h

theorem QuotientDigits.dropZeros (h : QuotientDigits n d m scale) (fuel : Nat) :
    QuotientDigits n d (dropQuotientZeros fuel m scale).1 (dropQuotientZeros fuel m scale).2 := by
  induction fuel generalizing m scale with
  | zero => exact h
  | succ fuel ih =>
    rw [dropQuotientZeros]
    split
    · rename_i hdrop
      exact ih (h.drop hdrop.2.1 hdrop.2.2)
    · exact ((h.dropPlaces 4).dropPlaces 2).dropPlaces 1

/-! ## Long division -/

/-- What long division of `n` by `d` keeps: the quotient and the remainder so far are those of `n`
moved by as many places as there are digits. -/
structure Expands (n d q : Nat) (scale : Int) (r : Nat) : Prop extends Rounds d q scale r where
  split : q * d + r = n * 10 ^ scale.toNat

/-- Long division stops where nothing remains, where there are 28 places, or where another digit
would pass 96 bits. -/
def Ended (q : Nat) (scale : Int) (r : Nat) : Prop :=
  r = 0 ∨ scale = 28 ∨ 2 ^ 96 ≤ 10 * q

variable {q r : Nat} {places : Int}

theorem Expands.step {p : Nat} (h : Expands n d q places r) (hp : 0 < p)
    (hplaces : p ≤ min 9 (28 - places).toNat) (hfit : q * 10 ^ p < 2 ^ 96) :
    Expands n d (q * 10 ^ p + r * 10 ^ p / d) (places + p) (r * 10 ^ p % d) := by
  refine ⟨h.toRounds.step hp hplaces hfit, ?_⟩
  have hnonneg := h.scale_nonneg
  have hpower : (places + p).toNat = places.toNat + p := by omega
  have hdigits : d * (r * 10 ^ p / d) + r * 10 ^ p % d = r * 10 ^ p := Nat.div_add_mod _ _
  calc
    (q * 10 ^ p + r * 10 ^ p / d) * d + r * 10 ^ p % d
      = q * d * 10 ^ p + (d * (r * 10 ^ p / d) + r * 10 ^ p % d) := by ring
    _ = (q * d + r) * 10 ^ p := by rw [hdigits]; ring
    _ = n * 10 ^ (places + p).toNat := by rw [h.split, hpower, pow_add, Nat.mul_assoc]

/-- If of all counts up to `wanted` only zero has been found, then one has not. -/
theorem find?_eq_some_zero {fits : Nat → Bool} {wanted : Nat}
    (h : (List.range (wanted + 1)).reverse.find? fits = some 0) :
    wanted = 0 ∨ fits 1 = false := by
  induction wanted with
  | zero => exact .inl rfl
  | succ wanted ih =>
    rw [List.range_succ, List.reverse_append, List.reverse_singleton, List.singleton_append,
      List.find?_cons] at h
    split at h
    · cases h
    · rename_i hlarge
      rcases ih h with rfl | hone
      · exact .inr hlarge
      · exact .inr hone

/-- With enough fuel for all places long division goes on until it ends. -/
theorem Expands.longDivision (fuel : Nat) (h : Expands n d q places r)
    (hfuel : (28 - places).toNat < fuel) :
    Expands n d (longDivision d fuel q places r).1 (longDivision d fuel q places r).2.1
        (longDivision d fuel q places r).2.2 ∧
      Ended (longDivision d fuel q places r).1 (longDivision d fuel q places r).2.1
        (longDivision d fuel q places r).2.2 := by
  induction fuel generalizing q places r with
  | zero => omega
  | succ fuel ih =>
    have hnonneg := h.scale_nonneg
    have hle := h.scale_le
    rw [Decimal.longDivision]
    split
    · rename_i hdone
      exact ⟨h, .inl hdone.1⟩
    rename_i hremains
    have hr : r ≠ 0 := fun hr => hremains ⟨hr, hnonneg⟩
    simp only [if_neg hr]
    split
    · -- not even the quotient so far fits
      rename_i hnone
      have hlarge : ¬ q * 10 ^ 0 < 2 ^ 96 := by
        simpa using List.find?_eq_none.1 hnone 0 (by simp)
      exact ⟨h, .inr (.inr (by omega))⟩
    · -- no more digit is wanted, or none fits
      rename_i hzero
      refine ⟨h, .inr ?_⟩
      rcases find?_eq_some_zero hzero with hwanted | hlarge
      · exact .inl (show places = 28 by omega)
      · have hlarge : ¬ q * 10 ^ 1 < 2 ^ 96 := by simpa using hlarge
        exact .inr (by omega)
    · rename_i p hp hfound
      have hmem := List.mem_of_find?_eq_some hfound
      rw [List.mem_reverse, List.mem_range] at hmem
      have hfit : q * 10 ^ p < 2 ^ 96 := by simpa using List.find?_some hfound
      have hpos : 0 < p := Nat.pos_of_ne_zero hp
      have hstep := h.step hpos (Nat.le_of_lt_succ hmem) hfit
      split
      · exact ih hstep (by omega)
      · exact ⟨hstep, .inr (.inr (by omega))⟩

/-! ## Rounding the quotient -/

/-- Where no further digit can be had there are so many places that half of the divisor is less
than a tenth of a unit. -/
theorem Expands.five_mul_lt (h : Expands n d q places r) (hn : n < 2 ^ 64) (hd : d < 2 ^ 64)
    (hfull : places = 28 ∨ 2 ^ 96 ≤ 10 * q) : 5 * d < 10 ^ places.toNat := by
  rcases hfull with rfl | hlarge
  · have hplaces : (28 : Int).toNat = 28 := rfl
    rw [hplaces]
    omega
  · -- the quotient has almost 96 bits and the dividend 64
    have hquotient : q * d ≤ n * 10 ^ places.toNat := by
      rw [← h.split]
      exact Nat.le_add_right _ _
    have hscaled : n * 10 ^ places.toNat ≤ 2 ^ 64 * 10 ^ places.toNat :=
      Nat.mul_le_mul_right _ hn.le
    have hbits : 2 ^ 96 * d ≤ 10 * (q * d) := by
      rw [← Nat.mul_assoc]
      exact Nat.mul_le_mul_right d hlarge
    have hunit : 0 < 10 ^ places.toNat := by positivity
    omega

/-- Rounding at the last place has the digits of the quotient. -/
theorem quotientDigits_halfEven (hd : 0 < d) (hrest : ¬ d ∣ n) (hunit : 5 * d < 10 ^ scale) :
    QuotientDigits n d (halfEven (n * 10 ^ scale) d) scale := by
  obtain ⟨hlow, hhigh⟩ := halfEven_near (n * 10 ^ scale) d hd
  rw [Nat.mul_assoc, Nat.mul_comm d] at hlow hhigh
  exact quotientDigits_of_near hd hrest (by omega) (by omega)

/-- So has rounding at the place before. -/
theorem quotientDigits_halfEven_shorter (hd : 0 < d) (hrest : ¬ d ∣ n)
    (hunit : 5 * d < 10 ^ (scale + 1)) :
    QuotientDigits n d (halfEven (n * 10 ^ (scale + 1)) (10 * d)) scale := by
  obtain ⟨hlow, hhigh⟩ := halfEven_near (n * 10 ^ (scale + 1)) (10 * d) (by omega)
  generalize halfEven (n * 10 ^ (scale + 1)) (10 * d) = m at *
  have hproduct : 2 * (10 * d) * m = 20 * (m * d) := by ring
  have hpower : n * 10 ^ (scale + 1) = 10 * (n * 10 ^ scale) := by ring
  rw [hproduct, hpower] at hlow hhigh
  rw [pow_succ] at hunit
  exact quotientDigits_of_near hd hrest (by omega) (by omega)

/-- A decimal with the digits of `n / d` and, unless it is zero, the given sign. -/
structure IsQuotient (c : Decimal) (negative : Bool) (n d : Nat) : Prop where
  digits : QuotientDigits n d c.mantissa c.scale
  sign : c.mantissa ≠ 0 → c.negative = negative

variable {c : Decimal} {negative : Bool}

theorem isQuotient_make? (h : QuotientDigits n d m scale) (hc : make? negative m scale = some c) :
    c.IsQuotient negative n d := by
  unfold make? at hc
  split at hc
  · obtain rfl := Option.some.inj hc
    exact ⟨h, fun hm => by simpa using fun _ => hm⟩
  · cases hc

theorem Expands.roundQuotient? (h : Expands n d q places r) (hn : n < 2 ^ 64) (hd : d < 2 ^ 64)
    (hended : Ended q places r) (hrest : ¬ d ∣ n)
    (hc : roundQuotient? negative d q places r = some c) : c.IsQuotient negative n d := by
  have hpos : 0 < d := Nat.lt_of_le_of_lt (Nat.zero_le r) h.remainder_lt
  have hnonneg := h.scale_nonneg
  have hfinish {m scale : Nat} (hdigits : QuotientDigits n d m scale)
      (hmade : make? negative (dropQuotientZeros 4 m scale).1 (dropQuotientZeros 4 m scale).2 =
        some c) : c.IsQuotient negative n d :=
    isQuotient_make? (hdigits.dropZeros 4) hmade
  have hrounded :
      QuotientDigits n d (if r = 0 then q else halfEven (q * d + r) d) places.toNat := by
    split
    · rename_i hzero
      have hexact := h.split
      rw [hzero, Nat.add_zero] at hexact
      exact quotientDigits_of_exact hpos hexact
    · rename_i hremains
      rw [h.split]
      exact quotientDigits_halfEven hpos hrest
        (h.five_mul_lt hn hd (hended.resolve_left hremains))
  have hnear := h.rounded_le
  unfold Decimal.roundQuotient? at hc
  rw [if_neg (by omega)] at hc
  dsimp only at hc
  generalize (if r = 0 then q else halfEven (q * d + r) d) = rounded at *
  split at hc
  · exact hfinish hrounded hc
  · -- one place fewer: the quotient has no room for another digit
    rename_i hlarge
    split at hc
    · cases hc
    rename_i hplace
    have hsucc : places.toNat = (places.toNat - 1) + 1 := by omega
    have hunit := h.five_mul_lt hn hd (.inr (by omega))
    rw [hsucc] at hunit
    refine hfinish ?_ hc
    rw [h.split, hsucc]
    exact quotientDigits_halfEven_shorter hpos hrest hunit

/-! ## Integer parts -/

theorem toInt_eq (c : Decimal) :
    c.toInt = if c.negative then -((c.mantissa / 10 ^ c.scale : Nat) : Int)
      else (c.mantissa / 10 ^ c.scale : Nat) :=
  rfl

/-- A decimal is its integer part if there are only zeros behind its point. -/
theorem value_eq_toInt_iff (c : Decimal) : c.value = c.toInt ↔ c.mantissa % 10 ^ c.scale = 0 := by
  have hunit : (10 : ℚ) ^ c.scale ≠ 0 := by positivity
  have hcast : (c.signed : ℚ) = c.toInt * 10 ^ c.scale ↔
      c.signed = c.toInt * ((10 ^ c.scale : Nat) : Int) := by
    rw [← Int.cast_inj (α := ℚ)]
    push_cast
    rfl
  have hsplit := Nat.div_add_mod' c.mantissa (10 ^ c.scale)
  rw [value, div_eq_iff hunit, hcast, toInt_eq, signed]
  split
  · rw [neg_mul, neg_inj, ← Nat.cast_mul, Nat.cast_inj]
    omega
  · rw [← Nat.cast_mul, Nat.cast_inj]
    omega

/-! ## Quotients and remainders of integers -/

variable {a b : Decimal} {x y : Int}

/-- The quotient of two integers, from their signs and magnitudes. -/
theorem IsWhole.tdiv (ha : a.IsWhole x) (hb : b.IsWhole y) :
    x.tdiv y = if (a.negative != b.negative) = true then -((a.mantissa / b.mantissa : Nat) : Int)
      else (a.mantissa / b.mantissa : Nat) := by
  rw [← ha.2, ← hb.2]
  simp only [signed]
  cases a.negative <;> cases b.negative <;> simp

/-- The remainder has the sign of the dividend. -/
theorem IsWhole.tmod (ha : a.IsWhole x) (hb : b.IsWhole y) :
    x.tmod y = if a.negative = true then -((a.mantissa % b.mantissa : Nat) : Int)
      else (a.mantissa % b.mantissa : Nat) := by
  rw [← ha.2, ← hb.2]
  simp only [signed]
  cases a.negative <;> cases b.negative <;>
    simp only [reduceIte, Bool.false_eq_true, Int.neg_tmod, Int.tmod_neg, Int.ofNat_tmod]

theorem IsWhole.dvd_iff (ha : a.IsWhole x) (hb : b.IsWhole y) :
    b.mantissa ∣ a.mantissa ↔ y ∣ x := by
  rw [← ha.natAbs, ← hb.natAbs, Int.natAbs_dvd_natAbs]

theorem IsQuotient.toInt (h : c.IsQuotient (a.negative != b.negative) a.mantissa b.mantissa)
    (ha : a.IsWhole x) (hb : b.IsWhole y) : c.toInt = x.tdiv y := by
  rw [toInt_eq, ha.tdiv hb, h.digits.integerPart]
  by_cases hzero : c.mantissa = 0
  · -- zero may have lost its sign
    have hinteger := h.digits.integerPart
    rw [hzero, Nat.zero_div] at hinteger
    simp [← hinteger]
  · rw [h.sign hzero]

theorem Expands.start (hd : 0 < d) (hn : n < 2 ^ 96) (hr : n % d ≠ 0) :
    Expands n d (n / d) 0 (n % d) := by
  refine ⟨Rounds.start hd hn hr, ?_⟩
  have hplaces : (0 : Int).toNat = 0 := rfl
  rw [hplaces, Nat.pow_zero, Nat.mul_one, Nat.div_add_mod']

/-- A quotient of whole decimals, without rounding or with it. -/
theorem isQuotient_div? (ha : a.scale = 0) (hb : b.scale = 0) (hx : a.mantissa < 2 ^ 64)
    (hy : b.mantissa < 2 ^ 64) (hc : div? a b = some c) :
    c.IsQuotient (a.negative != b.negative) a.mantissa b.mantissa := by
  unfold div? at hc
  split at hc
  · cases hc
  rename_i hne
  have hpos : 0 < b.mantissa := Nat.pos_of_ne_zero fun hzero => hne (by simp [isZero, hzero])
  split at hc
  · rename_i hzero
    obtain rfl := Option.some.inj hc
    have hmantissa : a.mantissa = 0 := by simpa [isZero] using hzero
    refine ⟨quotientDigits_of_exact hpos ?_, fun h => absurd rfl h⟩
    rw [hmantissa, Nat.zero_mul]
    exact Nat.zero_mul _
  dsimp only at hc
  rw [ha, hb] at hc
  split at hc
  · rename_i hr
    refine isQuotient_make? (quotientDigits_of_exact hpos ?_) hc
    rw [Nat.div_mul_cancel (Nat.dvd_of_mod_eq_zero hr)]
    exact (Nat.mul_one _).symm
  · rename_i hr
    have hstart := Expands.start hpos (Nat.lt_trans hx (by decide)) hr
    obtain ⟨hexpands, hended⟩ := hstart.longDivision 60 (by decide)
    exact hexpands.roundQuotient? hx hy hended (fun h => hr (Nat.mod_eq_zero_of_dvd h)) hc

/-- The quotient of two integers of 64 bits: its integer part is the truncated quotient, and there
is more to it unless the division leaves no remainder. -/
theorem div?_whole (ha : a.IsWhole x) (hb : b.IsWhole y) (hx : x.natAbs < 2 ^ 64)
    (hy : y.natAbs < 2 ^ 64) (hc : div? a b = some c) :
    c.toInt = x.tdiv y ∧ (c.value = x.tdiv y ↔ y ∣ x) := by
  rw [ha.natAbs] at hx
  rw [hb.natAbs] at hy
  have hquotient := isQuotient_div? ha.1 hb.1 hx hy hc
  have hinteger := hquotient.toInt ha hb
  refine ⟨hinteger, ?_⟩
  rw [← hinteger, value_eq_toInt_iff, hquotient.digits.exact_iff, ha.dvd_iff hb]

/-- The remainder of whole decimals is that of integers. -/
theorem rem?_whole (ha : a.IsWhole x) (hb : b.IsWhole y) (hc : rem? a b = some c) :
    c.IsWhole (x.tmod y) := by
  have hscaled {d : Decimal} (hd : d.scale = 0) : d.abs.scaled = (d.mantissa * 10 ^ 28 : Nat) := by
    simp [scaled, Decimal.abs, signed, hd]
  have hzero : zero.IsWhole 0 := ⟨rfl, rfl⟩
  unfold rem? at hc
  split at hc
  · cases hc
  split at hc
  · rename_i hnull
    obtain rfl := Option.some.inj hc
    rw [ha.isZero_iff] at hnull
    rw [hnull, Int.zero_tmod]
    exact hzero
  split at hc
  · rename_i hsame
    obtain rfl := Option.some.inj hc
    rw [sameValue, beq_iff_eq, hscaled ha.1, hscaled hb.1, Nat.cast_inj] at hsame
    have hequal : a.mantissa = b.mantissa := by omega
    rw [ha.tmod hb, hequal, Nat.mod_self]
    simpa using hzero
  split at hc
  · rename_i hless
    obtain rfl := Option.some.inj hc
    rw [Decimal.compare, hscaled ha.1, hscaled hb.1, Int.compare_eq_lt] at hless
    have hlt : a.mantissa < b.mantissa := by omega
    refine ⟨ha.1, ?_⟩
    rw [ha.tmod hb, Nat.mod_eq_of_lt hlt, signed]
  · have hmantissa {d : Decimal} {z : Int} (hd : d.IsWhole z) :
        (d.signedAt 0).natAbs = d.mantissa := by
      rw [hd.signedAt, hd.natAbs]
    simp only [ha.1, hb.1, max_self, hmantissa ha, hmantissa hb] at hc
    rw [ha.tmod hb]
    exact (fit?_narrows _ _).isWhole hc

end Decimal

end GatedPredicate
