import GatedPredicate.Proofs.Decimal.Retained
import GatedPredicate.Proofs.Decimal.Written
import GatedPredicate.Proofs.Number.Nearest
import GatedPredicate.Proofs.Number.Scientific
import GatedPredicate.Proofs.Value.Cascade
import GatedPredicate.Proofs.Value.Order

/-!
# Singles and doubles from coercion

A text that is a double is tried as a single first. The single is taken if it is the number that the
text denotes, and decimals are what the two are compared as. Where a decimal can tell them apart,
the single is also the nearest double. A text that no decimal is made of is not compared at all, so
that `1e30` becomes the single nearest to it.

- `WithinDecimals`: texts that decimals tell apart
- `toDouble_eq_toSingle`: a single that is kept is the nearest double
- `coerced_double_nearest`, `coerced_double_nearest_long`, `coerced_double_not_nearest`
-/

namespace GatedPredicate

open GatedPredicate.Number GatedPredicate.Text

variable {cs : List Char} {x : Float} {n : Scientific}

/-- A decimal is made of the text, and neither the number nor what stands in front of its exponent
is too small. From about `10 ^ -12` on, a double has places behind the last one of a decimal. -/
structure WithinDecimals (cs : List Char) : Prop where
  accepted : (Decimal.read? cs).isSome = true
  sizable : Decimal.Sizable cs
  sizable_front : Decimal.Sizable (cs.takeWhile fun c => !Decimal.isExponentMark c)

/-! ## What is compared -/

theorem Decimal.sameValue_iff (a b : Decimal) : a.sameValue b = true ↔ a.value = b.value := by
  have hpower : (10 : ℚ) ^ 28 ≠ 0 := by positivity
  rw [sameValue, beq_iff_eq, ← mul_left_inj' hpower, ← scaled_eq, ← scaled_eq, Int.cast_inj]

/-- A double that a stage accepts makes the same decimal as the text. -/
theorem exactDouble?_eq_some {read? : List Char → Option Float}
    (h : exactDouble? read? cs = some x) :
    read? cs = some x ∧ ∀ d, Decimal.read? cs = some d →
      ∃ r, Decimal.retain? x = some r ∧ r.value = d.value := by
  obtain ⟨-, h⟩ := Option.ite_none_right_eq_some.1 h
  obtain ⟨y, hy, h⟩ := Option.bind_eq_some_iff.1 h
  obtain ⟨-, h⟩ := Option.ite_none_left_eq_some.1 h
  obtain ⟨hexact, h⟩ := Option.ite_none_right_eq_some.1 h
  obtain rfl := Option.some.inj h
  refine ⟨hy, fun d hd => ?_⟩
  unfold isExactFor at hexact
  rw [hd] at hexact
  obtain ⟨r, hr, hsame⟩ := (Option.any_eq_true _ _).1 hexact
  exact ⟨r, hr, (Decimal.sameValue_iff r d).1 hsame⟩

/-! ## Singles that are kept -/

/-- Zero is the same single and double. -/
theorem toDouble_eq_toSingle_of_zero (h : n.digits = 0) : n.toDouble = n.toSingle := by
  rw [Scientific.toDouble, Scientific.toSingle, Scientific.nearest, Scientific.nearest, if_pos h,
    if_pos h]
  cases n.negative <;> rfl

/-- A decimal `a` that is near to a single `w` and to a number `v` leaves less than a quarter of the
last place between the two, for it has more places than a double of that size. -/
theorem abs_sub_lt_of_common_decimal {a v w u : ℚ} (hsize : 1 / 10 ^ 11 ≤ v)
    (hunit : w < 2 ^ 53 * u) (hnear : |w - v| ≤ w / 2 ^ 24)
    (hkept : |a - w| ≤ 1 / 10 ^ 28 + w / 2 ^ 82)
    (hwritten : |a - v| ≤ v * (6 / 10 ^ 18) ∨ a * 4 ≤ v) : |v - w| < u / 4 := by
  obtain ⟨hbelow, habove⟩ := abs_le.1 hnear
  obtain ⟨hkeptLow, hkeptHigh⟩ := abs_le.1 hkept
  rcases hwritten with hclose | hlost
  · obtain ⟨hcloseLow, hcloseHigh⟩ := abs_le.1 hclose
    rw [abs_lt]
    constructor <;> linarith
  · -- a decimal that lost places is too far below the number to be near to its single
    linarith

/-- If a single makes the decimal of a text, no other double is nearer to the number. -/
theorem toDouble_eq_toSingle (hn : readScientific? cs = some n) (hwithin : WithinDecimals cs)
    (hfinite : n.toSingle.isFinite = true)
    (hexact : ∀ d, Decimal.read? cs = some d →
      ∃ r, Decimal.retain? n.toSingle = some r ∧ r.value = d.value) :
    n.toDouble = n.toSingle := by
  by_cases hdigits : n.digits = 0
  · exact toDouble_eq_toSingle_of_zero hdigits
  have hsize := hwithin.sizable n hn hdigits
  obtain ⟨m, e, hlow, hdouble, hmin, hlarge, hsingle, hnear⟩ :=
    Scientific.toSingle_bounds hfinite hsize
  obtain ⟨d, hd⟩ := Option.isSome_iff_exists.1 hwithin.accepted
  obtain ⟨r, hr, hsame⟩ := hexact d hd
  have hkept := Decimal.retain?_near (hsingle ▸ parts_ofBits n.negative hlow hdouble) hr
  have hwritten := Decimal.read?_near hn hd hdigits hwithin.sizable_front
  rw [hsame] at hkept
  rw [hsingle]
  refine Scientific.toDouble_of_near hlow hdouble hmin hlarge hsize ?_
  have hunit : (m * 2 ^ e : ℚ) < 2 ^ 53 * 2 ^ e := by
    have hm : (m : ℚ) < 2 ^ 53 := by exact_mod_cast hdouble.mantissa_lt
    exact mul_lt_mul_of_pos_right hm (by positivity)
  -- every power of two loses a little where it becomes powers of ten
  have hloss : (m * 2 ^ e * (e.natAbs * Decimal.Exchange.loss) : ℚ) ≤ m * 2 ^ e / 2 ^ 82 := by
    have hsteps : (e.natAbs : ℚ) ≤ 2 ^ 11 := by
      have hmax := hdouble.exponent_le
      exact_mod_cast (by omega : e.natAbs ≤ 2 ^ 11)
    rw [div_eq_mul_inv, Decimal.Exchange.loss]
    refine mul_le_mul_of_nonneg_left ?_ (by positivity)
    linarith
  exact abs_sub_lt_of_common_decimal hsize hunit hnear (hkept.trans (by linarith)) hwritten

/-- The single that a stage accepts is the double that the text denotes. -/
theorem readDouble?_of_exactSingle (h : exactDouble? readSingle? cs = some x)
    (hfinite : x.isFinite = true) (hwithin : WithinDecimals cs) : readDouble? cs = some x := by
  obtain ⟨hread, hexact⟩ := exactDouble?_eq_some h
  unfold readSingle? at hread
  unfold readDouble?
  cases hspecial : readSpecial? cs with
  | some y => rwa [hspecial] at hread
  | none =>
    rw [hspecial] at hread
    obtain ⟨n, hn, rfl⟩ := Option.map_eq_some_iff.1 hread
    rw [Option.orElse_none, hn, Option.map_some, toDouble_eq_toSingle hn hwithin hfinite hexact]

/-! ## The cascade -/

/-- A finite double from coercion is the double or the single nearest to what the text denotes. It
is the double if a decimal is made of the text that can tell the two apart. -/
theorem coerced_double_nearest (options : CoercionOptions) (s : String) {x : Float}
    (h : coerceText options s = .float x) (hfinite : x.isFinite = true) :
    (readDouble? (trimChars s.toList) = some x ∨ readSingle? (trimChars s.toList) = some x) ∧
      (WithinDecimals (trimChars s.toList) → readDouble? (trimChars s.toList) = some x) := by
  cases denotes_of_coerceText h with
  | single hx =>
    exact ⟨.inr (exactDouble?_eq_some hx).1, readDouble?_of_exactSingle hx hfinite⟩
  | double hx =>
    have hread := (exactDouble?_eq_some hx).1
    exact ⟨.inl hread, fun _ => hread⟩

/-- Digits behind the last place of a decimal make a number neither small nor unreadable. -/
theorem withinDecimals_long : WithinDecimals "0.1000000014901161193847656250000001".toList := by
  have hsizable : Decimal.Sizable "0.1000000014901161193847656250000001".toList := by
    intro y hy _
    have hread : readScientific? "0.1000000014901161193847656250000001".toList =
        some ⟨false, 1000000014901161193847656250000001, -34⟩ := by decide +kernel
    obtain rfl := Option.some.inj (hread.symm.trans hy)
    norm_num [Scientific.magnitude]
  exact ⟨by decide +kernel, hsizable, hsizable⟩

set_option maxRecDepth 10000 in
/-- A single that is written with more places than decimals have. -/
theorem coerced_double_nearest_long :
    let x := Float.ofBits 0x3fb99999a0000000
    coerceText .standard "0.1000000014901161193847656250000001" = .float x ∧
      x.isFinite = true ∧ WithinDecimals (trimChars "0.1000000014901161193847656250000001".toList) ∧
      readDouble? (trimChars "0.1000000014901161193847656250000001".toList) = some x := by
  have hcoerced : coerceText .standard "0.1000000014901161193847656250000001" =
      .float (Float.ofBits 0x3fb99999a0000000) := by rfl
  have hfinite : (Float.ofBits 0x3fb99999a0000000).isFinite = true := by decide +kernel
  have hnearest := coerced_double_nearest .standard _ hcoerced hfinite
  exact ⟨hcoerced, hfinite, withinDecimals_long, hnearest.2 withinDecimals_long⟩

/-- No decimal is made of so large an exponent, and the single is kept without a comparison. -/
theorem coerced_double_not_nearest :
    let x := Float.ofBits 0x46293e5940000000
    let y := Float.ofBits 0x46293e5939a08cea
    coerceText .standard "1e30" = .float x ∧ x.isFinite = true ∧
      readDouble? (trimChars "1e30".toList) = some y ∧ (x == y) = false := by
  exact ⟨rfl, by decide +kernel, rfl, by decide +kernel⟩

end GatedPredicate
