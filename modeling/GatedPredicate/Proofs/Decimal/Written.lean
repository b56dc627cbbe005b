import GatedPredicate.Proofs.Decimal.Reader
import GatedPredicate.Proofs.Decimal.Retained
import GatedPredicate.Proofs.Number.Scientific
import Mathlib.Tactic.FieldSimp

/-!
# How near a decimal is to what is written

A decimal that is read from digits with a point is the number written, rounded to 28 places or to 96
bits. An exponent moves the point of that decimal. Where this makes the decimal too long, places are
dropped that the exponent has already counted, and what is read is far below the number written.

- `NearTo`: the error of digits
- `readDigits?_near`: digits with a point
- `applyExponent?_cases`: the point is moved, or places are lost
- `read?_near`
-/

namespace GatedPredicate.Decimal

open GatedPredicate.Number GatedPredicate.Text

variable {negative digit : Bool} {m s : Nat} {c : Char} {ds rest : List Char} {d : Decimal}

/-- The decimal is the number, but for half of the last place that there is and a tiny part. -/
def NearTo (d : Decimal) (t : ℚ) : Prop :=
  |(|d.value| - t)| ≤ 1 / 2 / 10 ^ 28 + t / 2 ^ 90

theorem nearTo_self (h : |d.value| = m / 10 ^ s) : NearTo d (m / 10 ^ s) := by
  rw [NearTo, h, sub_self, abs_zero]
  positivity

/-! ## Digits -/

/-- The number `m` with more digits behind it. -/
def goesOn (m : Nat) (ds : List Char) : Nat :=
  ds.foldl (fun total c => total * 10 + digitValue c) m

theorem digitValue_le (hc : c.isDigit = true) : digitValue c ≤ 9 := by
  obtain ⟨hlow, hhigh⟩ := Char.isDigit_iff_toNat.1 hc
  have hrange : '0' ≤ c ∧ c ≤ '9' := ⟨Char.le_def.2 hlow, Char.le_def.2 hhigh⟩
  simp only [digitValue, hexDigit?, hrange]
  simp at hhigh ⊢
  omega

/-- The digits behind `m` are a number below the power of ten that moves it. -/
theorem goesOn_bounds (hds : ∀ d ∈ ds, d.isDigit = true) (m : Nat) :
    m * 10 ^ ds.length ≤ goesOn m ds ∧ goesOn m ds < (m + 1) * 10 ^ ds.length := by
  induction ds generalizing m with
  | nil => simp [goesOn]
  | cons c ds ih =>
    obtain ⟨hc, hds⟩ := List.forall_mem_cons.1 hds
    have hdigit := digitValue_le hc
    obtain ⟨hlow, hhigh⟩ := ih hds (m * 10 + digitValue c)
    have hgoes : goesOn m (c :: ds) = goesOn (m * 10 + digitValue c) ds := rfl
    have hpos : 0 < 10 ^ ds.length := Nat.pow_pos (by decide)
    rw [hgoes, List.length_cons, pow_succ]
    constructor
    · nlinarith
    · nlinarith

/-- A decimal that is made of a mantissa and a scale. -/
theorem abs_value_make? (h : make? negative m s = some d) : |d.value| = m / 10 ^ s := by
  unfold make? at h
  split at h
  · obtain rfl := Option.some.inj h
    rw [abs_value]
  · cases h

/-- Rounding by the next digit is as near as the last place, which is tiny for a long mantissa. -/
theorem roundBy?_near {t : ℚ} (hc : c.isDigit = true) (hlast : 2 ^ 92 ≤ m ∨ s = 28)
    (hlow : (digitValue c : ℚ) / 10 ≤ t) (hhigh : t ≤ (digitValue c + 1) / 10)
    (h : roundBy? negative m s c = some d) : NearTo d ((m + t) / 10 ^ s) := by
  obtain ⟨u, hu, hunit⟩ : ∃ u : ℚ, 0 < u ∧ 1 / 10 ^ s = u := ⟨_, by positivity, rfl⟩
  have hscaled (k : ℚ) : k / 10 ^ s = k * u := by rw [← hunit, mul_one_div]
  have hdigit : (0 : ℚ) ≤ digitValue c := by positivity
  have hnine : (digitValue c : ℚ) ≤ 9 := by exact_mod_cast digitValue_le hc
  have hm : (0 : ℚ) ≤ m := by positivity
  have hplaces : (0 : ℚ) ≤ 1 / 2 / 10 ^ 28 := by positivity
  rw [hscaled]
  -- half a unit of the last place is within both bounds
  have hhalf : 1 / 2 * u ≤ 1 / 2 / 10 ^ 28 + (m + t) * u / 2 ^ 90 := by
    rcases hlast with hlong | rfl
    · have hlong' : (2 ^ 92 : ℚ) ≤ m := by exact_mod_cast hlong
      have hpart : 1 / 2 * u ≤ (m + t) / 2 ^ 90 * u :=
        mul_le_mul_of_nonneg_right (by linarith) hu.le
      linarith
    · have hpart : 0 ≤ (m + t) * u := mul_nonneg (by linarith) hu.le
      linarith
  have hkept {k : Nat} (hk : |(k : ℚ) - (m + t)| ≤ 1 / 2) (hd : |d.value| = k / 10 ^ s) :
      NearTo d ((m + t) * u) := by
    rw [NearTo, hd, hscaled, ← sub_mul, abs_mul, abs_of_pos hu]
    exact (mul_le_mul_of_nonneg_right hk hu.le).trans hhalf
  unfold roundBy? at h
  rw [if_pos hc, Option.bind_some] at h
  split at h
  · rename_i hup
    have hfive : (5 : ℚ) ≤ digitValue c := by exact_mod_cast of_decide_eq_true hup
    split at h
    · refine hkept (k := m + 1) ?_ (abs_value_make? h)
      rw [abs_le]
      push_cast
      constructor <;> linarith
    · rename_i hfull
      obtain ⟨hplace, hmade⟩ := Option.ite_none_left_eq_some.1 h
      obtain ⟨p, rfl⟩ : ∃ p, s = p + 1 := ⟨s - 1, by omega⟩
      rw [Nat.add_sub_cancel] at hmade
      have hfull' : (2 ^ 96 : ℚ) ≤ m + 1 := by exact_mod_cast not_lt.1 hfull
      have hplace : (1 : ℚ) / 10 ^ p = 10 * u := by
        rw [← hunit, pow_succ]
        field_simp
      have hdrop := dropPlace_near m p
      rw [hscaled, div_div, mul_comm (2 : ℚ), ← div_div, hplace] at hdrop
      have hlarge : 6 * u ≤ (m + t) / 2 ^ 90 * u := mul_le_mul_of_nonneg_right (by linarith) hu.le
      have hrest : |m * u - (m + t) * u| ≤ u := by
        rw [← sub_mul, abs_mul, abs_of_pos hu, sub_add_cancel_left, abs_neg,
          abs_of_nonneg (by linarith)]
        exact mul_le_of_le_one_left hu.le (by linarith)
      rw [NearTo, abs_value_make? hmade]
      refine (abs_sub_le _ _ _).trans ((add_le_add hdrop hrest).trans ?_)
      linarith
  · rename_i hdown
    have hfour : (digitValue c : ℚ) ≤ 4 := by
      have hlt : ¬ 5 ≤ digitValue c := of_decide_eq_false (Bool.not_eq_true _ ▸ hdown)
      exact_mod_cast (by omega : digitValue c ≤ 4)
    refine hkept (k := m) ?_ (abs_value_make? h)
    rw [abs_le]
    constructor <;> linarith

/-- Digits behind the point. -/
theorem readDigits?_fraction (hds : ∀ d ∈ ds, d.isDigit = true) (hs : s < 28 ∨ ds = [])
    (h : readDigits? negative true digit m s ds = some d) :
    NearTo d (goesOn m ds / 10 ^ (s + ds.length)) := by
  -- the part of a unit that digits stand for
  have hpart {c : Char} {rest : List Char} (hds : ∀ d ∈ c :: rest, d.isDigit = true) (m s : Nat) :
      ∃ t : ℚ, (digitValue c : ℚ) / 10 ≤ t ∧ t ≤ (digitValue c + 1) / 10 ∧
        (goesOn m (c :: rest) / 10 ^ (s + (rest.length + 1)) : ℚ) = (m + t) / 10 ^ s := by
    obtain ⟨hlow, hhigh⟩ := goesOn_bounds (List.forall_mem_cons.1 hds).2 (m * 10 + digitValue c)
    have hlow' : ((m * 10 + digitValue c) * 10 ^ rest.length : ℚ) ≤ goesOn m (c :: rest) := by
      exact_mod_cast hlow
    have hhigh' : (goesOn m (c :: rest) : ℚ) ≤ (m * 10 + digitValue c + 1) * 10 ^ rest.length := by
      exact_mod_cast hhigh.le
    have hpos : (0 : ℚ) < 10 ^ rest.length := by positivity
    refine ⟨goesOn m (c :: rest) / 10 ^ (rest.length + 1) - m, ?_, ?_, ?_⟩
    · rw [le_sub_iff_add_le, le_div_iff₀ (by positivity), pow_succ]
      linarith
    · rw [sub_le_iff_le_add, div_le_iff₀ (by positivity), pow_succ]
      linarith
    · rw [add_sub_cancel, div_div, ← pow_add, add_comm s]
  induction ds generalizing m s digit with
  | nil =>
    rw [readDigits?] at h
    exact nearTo_self (abs_value_make? (Option.ite_none_right_eq_some.1 h).2)
  | cons c rest ih =>
    obtain ⟨hc, hrest⟩ := List.forall_mem_cons.1 hds
    have hs := hs.resolve_right (List.cons_ne_nil _ _)
    rw [readDigits?, if_pos hc] at h
    dsimp only at h
    split at h
    · rename_i hlarge
      have hnine := digitValue_le hc
      obtain ⟨t, hlow, hhigh, ht⟩ := hpart hds m s
      rw [List.length_cons, ht]
      exact roundBy?_near hc (.inl (by omega)) hlow hhigh h
    · have hgoes : goesOn m (c :: rest) = goesOn (m * 10 + digitValue c) rest := rfl
      have hlength : s + (c :: rest).length = s + 1 + rest.length := by
        rw [List.length_cons]
        omega
      rw [hgoes, hlength]
      simp only [if_true, Bool.true_and] at h
      split at h
      · -- the last place is reached, and the next digit decides its rounding
        rename_i next more hlast
        obtain rfl : s = 27 := by
          have hle := of_decide_eq_true hlast
          omega
        obtain ⟨t, hlow, hhigh, ht⟩ := hpart hrest (m * 10 + digitValue c) 28
        rw [List.length_cons, ht]
        exact roundBy?_near (List.forall_mem_cons.1 hrest).1 (.inr rfl) hlow hhigh h
      · rename_i rest flag tail hmore
        refine ih hrest ?_ h
        cases rest with
        | nil => exact .inr rfl
        | cons next more =>
          refine .inl (not_le.1 fun hle => ?_)
          exact hmore next more (decide_eq_true hle) rfl

/-- Digits before the point are kept as they are. -/
theorem readDigits?_whole (hds : ∀ d ∈ ds, d.isDigit = true)
    (h : readDigits? negative false digit m 0 (ds ++ rest) = some d) :
    ∃ digit', readDigits? negative false digit' (goesOn m ds) 0 rest = some d := by
  induction ds generalizing m digit with
  | nil => exact ⟨digit, h⟩
  | cons c ds ih =>
    obtain ⟨hc, hds⟩ := List.forall_mem_cons.1 hds
    rw [List.cons_append, readDigits?_digit hc] at h
    exact ih hds (Option.ite_none_left_eq_some.1 h).2

/-- A text of digits with at most one point. -/
inductive Pointed : List Char → List Char → List Char → Prop
  | whole {whole : List Char} : Pointed whole [] whole
  | fraction {whole fraction : List Char} : Pointed whole fraction (whole ++ '.' :: fraction)

/-- Digits with a point are read up to what decimals can hold. -/
theorem readDigits?_near {whole fraction cs : List Char} (hpoint : Pointed whole fraction cs)
    (hwhole : ∀ d ∈ whole, d.isDigit = true) (hfraction : ∀ d ∈ fraction, d.isDigit = true)
    (h : readDigits? negative false false 0 0 cs = some d) :
    NearTo d (numeral 10 (whole ++ fraction) / 10 ^ fraction.length) := by
  cases hpoint with
  | whole =>
    rw [← List.append_nil whole] at h
    obtain ⟨digit, h⟩ := readDigits?_whole hwhole h
    rw [readDigits?] at h
    rw [List.append_nil]
    exact nearTo_self (abs_value_make? (Option.ite_none_right_eq_some.1 h).2)
  | fraction =>
    obtain ⟨digit, h⟩ := readDigits?_whole hwhole h
    rw [readDigits?, if_neg (by decide), if_pos (by decide)] at h
    have hnear := readDigits?_fraction hfraction (.inl (by decide)) h
    have hnumeral : numeral 10 (whole ++ fraction) = goesOn (goesOn 0 whole) fraction :=
      List.foldl_append
    rwa [Nat.zero_add, ← hnumeral] at hnear

/-! ## Exponents -/

theorem mantissa_make? (h : make? negative m s = some d) : d.mantissa = m := by
  unfold make? at h
  split at h
  · obtain rfl := Option.some.inj h
    rfl
  · cases h

/-- A number that is fitted keeps its digits, or loses the last of them. -/
theorem fit?_cases (hs : s ≤ 28) (h : fit? negative m s = some d) :
    d.mantissa = m ∨ d.mantissa * 5 ≤ m := by
  obtain ⟨k, hk, hfit⟩ := Option.bind_eq_some_iff.1 h
  obtain ⟨hfits, -, hfirst⟩ := List.find?_range_eq_some.1 hk
  have hbound := (of_decide_eq_true hfits).2
  dsimp only at hfit
  rcases Nat.eq_zero_or_pos k with rfl | hpos
  · rw [pow_zero, Nat.div_one] at hbound
    rw [if_pos rfl, if_pos hbound] at hfit
    exact .inl (mantissa_make? hfit)
  · have hlarge : 2 ^ 96 ≤ m := by
      have hzero := hfirst 0 hpos
      simpa [hs] using hzero
    have hround : halfEven m (10 ^ k) ≤ m / 10 + 1 := by
      refine (halfEven_le m (10 ^ k)).trans (Nat.succ_le_succ ?_)
      exact Nat.div_le_div_left (Nat.le_self_pow hpos.ne' 10) (by decide)
    rw [if_neg hpos.ne'] at hfit
    refine .inr ?_
    split at hfit
    · rw [mantissa_make? hfit]
      omega
    · have hagain := halfEven_le (halfEven m (10 ^ k)) 10
      rw [mantissa_make? (Option.ite_none_left_eq_some.1 hfit).2]
      omega

/-- A product with a whole number keeps its digits, or loses the last of them. -/
theorem mul?_cases {a b : Decimal} (hb : b.scale = 0) (h : a.mul? b = some d) :
    d.mantissa = a.mantissa * b.mantissa ∨ d.mantissa * 5 ≤ a.mantissa * b.mantissa := by
  have hscale := a.scale_le
  unfold mul? at h
  rw [hb, Nat.add_zero] at h
  dsimp only at h
  split at h
  · obtain rfl := Option.some.inj h
    exact .inr (Nat.zero_le _)
  · rw [if_neg (by omega)] at h
    exact fit?_cases hscale h

theorem timesPowerOfTen?_cases {fuel n : Nat} {a : Decimal} (hfuel : n ≤ 19 * fuel)
    (h : timesPowerOfTen? fuel n a = some d) :
    d.mantissa = a.mantissa * 10 ^ n ∨ d.mantissa * 5 ≤ a.mantissa * 10 ^ n := by
  induction fuel generalizing n a with
  | zero =>
    obtain rfl : n = 0 := by omega
    obtain rfl := Option.some.inj h
    exact .inl (by rw [pow_zero, mul_one])
  | succ fuel ih =>
    rw [timesPowerOfTen?] at h
    split at h
    · rename_i hzero
      obtain rfl := Option.some.inj h
      exact .inl (by rw [hzero, pow_zero, mul_one])
    · obtain ⟨power, hpower, h⟩ := Option.bind_eq_some_iff.1 h
      obtain ⟨b, hb, h⟩ := Option.bind_eq_some_iff.1 h
      have hscale : power.scale = 0 := by
        unfold make? at hpower
        split at hpower
        · obtain rfl := Option.some.inj hpower
          rfl
        · cases hpower
      have hproduct := mul?_cases hscale hb
      rw [mantissa_make? hpower] at hproduct
      have hsplit : 10 ^ n = 10 ^ min n 19 * 10 ^ (n - min n 19) := by
        rw [← pow_add]
        congr 1
        omega
      rw [hsplit, ← mul_assoc]
      rcases ih (by omega) h with hkept | hlost
      · rw [hkept]
        rcases hproduct with hexact | hless
        · exact .inl (by rw [hexact])
        · refine .inr ?_
          rw [mul_right_comm]
          exact Nat.mul_le_mul_right _ hless
      · refine .inr (hlost.trans (Nat.mul_le_mul_right _ ?_))
        omega

/-- Another scale moves the point. -/
theorem abs_value_withScale? {a : Decimal} (h : a.withScale? s = some d) :
    |d.value| = a.mantissa / 10 ^ s := by
  unfold withScale? at h
  split at h
  · obtain rfl := Option.some.inj h
    rw [abs_value]
  · cases h

/-- A positive exponent moves the point, or places are lost. -/
theorem raise?_cases {a : Decimal} {n : Nat} (h : a.raise? n = some d) :
    |d.value| = |a.value| * 10 ^ n ∨ |d.value| * 5 ≤ |a.value| * 10 ^ n := by
  unfold raise? at h
  split at h
  · rename_i hle
    refine .inl ?_
    rw [abs_value_withScale? h, abs_value, div_mul_eq_mul_div,
      div_eq_div_iff (by positivity) (by positivity), mul_assoc, ← pow_add, Nat.add_sub_cancel' hle]
  · rename_i hgt
    obtain ⟨hsmall, h⟩ := Option.ite_none_left_eq_some.1 h
    obtain ⟨b, hb, h⟩ := Option.bind_eq_some_iff.1 h
    have hten : |a.value| * 10 ^ n = (a.mantissa * 10 ^ (n - a.scale) : Nat) := by
      rw [abs_value, div_mul_eq_mul_div, div_eq_iff (by positivity)]
      push_cast
      rw [mul_assoc, ← pow_add, Nat.sub_add_cancel (by omega)]
    rw [abs_value_withScale? h, pow_zero, div_one, hten]
    rcases timesPowerOfTen?_cases (by omega) hb with hkept | hlost
    · exact .inl (by rw [hkept])
    · exact .inr (by exact_mod_cast hlost)

/-- An exponent moves the point, or places are lost. -/
theorem applyExponent?_cases {a : Decimal} {exponent : List Char} {n : Nat}
    (hn : decimalNumeral? (splitSign exponent).2 = some n)
    (h : a.applyExponent? exponent = some d) {e : Int}
    (he : e = if (splitSign exponent).1 then -(n : Int) else n) :
    |d.value| = |a.value| * 10 ^ e ∨ |d.value| * 5 ≤ |a.value| * 10 ^ e := by
  unfold applyExponent? at h
  split at h
  · rename_i digits
    obtain ⟨k, hk, h⟩ := Option.bind_eq_some_iff.1 h
    obtain ⟨-, hk⟩ := readUInt64?_eq_some.1 hk
    change decimalNumeral? digits = some n at hn
    obtain ⟨hne, hdigits, -⟩ := decimalNumeral?_eq_some.1 hn
    have hunsigned := splitSign_digits hne hdigits []
    rw [List.append_nil] at hunsigned
    rw [hunsigned] at hk
    obtain rfl : n = k.toNat := Option.some.inj (hn.symm.trans hk)
    refine .inl ?_
    rw [he, splitSign.eq_1, if_pos rfl, zpow_neg, zpow_natCast, abs_value_withScale? h, abs_value,
      pow_add, ← div_div, div_eq_mul_inv]
  · obtain ⟨k, hk, h⟩ := Option.bind_eq_some_iff.1 h
    obtain ⟨hsign, hk⟩ := readUInt64?_eq_some.1 hk
    obtain rfl : n = k.toNat := Option.some.inj (hn.symm.trans hk)
    rw [he, hsign, if_neg Bool.false_ne_true, zpow_natCast]
    exact raise?_cases h

/-! ## Numbers -/

section Numbers

variable {cs : List Char}

/-- An exponent is left out, or is a sign and digits after a mark. -/
theorem readExponent?_eq_some {e : Int} (h : readExponent? cs = some e) :
    (cs = [] ∧ e = 0) ∨ ∃ mark exponent n, cs = mark :: exponent ∧ isExponentMark mark = true ∧
      decimalNumeral? (splitSign exponent).2 = some n ∧
        e = if (splitSign exponent).1 then -(n : Int) else n := by
  unfold readExponent? at h
  split at h
  · exact .inl ⟨rfl, (Option.some.inj h).symm⟩
  · rename_i mark exponent
    obtain ⟨hmark, h⟩ := Option.ite_none_right_eq_some.1 h
    obtain ⟨z, hz, he⟩ := Option.map_eq_some_iff.1 h
    obtain ⟨n, hn, hz⟩ := Option.bind_eq_some_iff.1 hz
    obtain rfl := Option.some.inj hz
    exact .inr ⟨mark, exponent, n, rfl, hmark, hn, he.symm⟩

/-- A number is digits with a point, and an exponent. -/
theorem readUnsigned?_eq_some {x : Scientific} (h : readUnsigned? negative cs = some x) :
    ∃ whole fraction pointed rest e, Pointed whole fraction pointed ∧
      (∀ d ∈ whole, d.isDigit = true) ∧ (∀ d ∈ fraction, d.isDigit = true) ∧
      ¬ (whole.isEmpty && fraction.isEmpty) = true ∧ cs = pointed ++ rest ∧
      readExponent? rest = some e ∧
      x = ⟨negative, numeral 10 (whole ++ fraction), e - fraction.length⟩ := by
  have hdigits (cs : List Char) : ∀ d ∈ cs.takeWhile Char.isDigit, d.isDigit = true :=
    fun d hd => List.mem_takeWhile_imp hd
  have hcs : cs.takeWhile Char.isDigit ++ cs.dropWhile Char.isDigit = cs :=
    List.takeWhile_append_dropWhile
  unfold readUnsigned? at h
  dsimp only at h
  split at h
  · rename_i more hmore
    obtain ⟨hne, h⟩ := Option.ite_none_left_eq_some.1 h
    obtain ⟨e, he, rfl⟩ := Option.map_eq_some_iff.1 h
    refine ⟨_, _, _, _, e, .fraction, hdigits cs, hdigits more, hne, ?_, he, rfl⟩
    rw [List.append_assoc, List.cons_append, List.takeWhile_append_dropWhile, ← hmore, hcs]
  · obtain ⟨hne, h⟩ := Option.ite_none_left_eq_some.1 h
    obtain ⟨e, he, rfl⟩ := Option.map_eq_some_iff.1 h
    exact ⟨_, _, _, _, e, .whole, hdigits cs, nofun, hne, hcs.symm, he, rfl⟩

/-- Digits with a point and no exponent are read as such. -/
theorem readUnsigned?_pointed {whole fraction : List Char} (hpoint : Pointed whole fraction cs)
    (hwhole : ∀ d ∈ whole, d.isDigit = true) (hfraction : ∀ d ∈ fraction, d.isDigit = true)
    (hne : ¬ (whole.isEmpty && fraction.isEmpty) = true) :
    readUnsigned? negative cs =
      some ⟨negative, numeral 10 (whole ++ fraction), -(fraction.length : Int)⟩ := by
  cases hpoint with
  | whole =>
    have htake : cs.takeWhile Char.isDigit = cs := List.takeWhile_eq_self_iff.2 hwhole
    have hdrop : cs.dropWhile Char.isDigit = [] := List.dropWhile_eq_nil_iff.2 hwhole
    unfold readUnsigned?
    rw [htake, hdrop]
    dsimp only
    rw [if_neg hne]
    simp [readExponent?]
  | fraction =>
    have hpoint : ∀ d ∈ ('.' :: fraction).head?, d.isDigit = false := by
      rintro d ⟨⟩
      rfl
    have htake : fraction.takeWhile Char.isDigit = fraction :=
      List.takeWhile_eq_self_iff.2 hfraction
    have hdrop : fraction.dropWhile Char.isDigit = [] := List.dropWhile_eq_nil_iff.2 hfraction
    unfold readUnsigned?
    simp only [takeWhile_until hwhole hpoint, dropWhile_until hwhole hpoint, htake, hdrop]
    rw [if_neg hne]
    simp [readExponent?]

/-- No character of a number with a point marks an exponent. -/
theorem isExponentMark_of_pointed {whole fraction : List Char} (hpoint : Pointed whole fraction cs)
    (hwhole : ∀ d ∈ whole, d.isDigit = true) (hfraction : ∀ d ∈ fraction, d.isDigit = true) :
    ∀ c ∈ cs, (!isExponentMark c) = true := by
  cases hpoint with
  | whole => exact fun c hc => isExponentMark_of_isDigit (hwhole c hc)
  | fraction =>
    exact List.forall_mem_append.2 ⟨fun c hc => isExponentMark_of_isDigit (hwhole c hc),
      List.forall_mem_cons.2 ⟨rfl, fun c hc => isExponentMark_of_isDigit (hfraction c hc)⟩⟩

/-- What stands in front of an exponent is read to the precision of decimals, and then the exponent
moves its point or places are lost. -/
theorem read?_cases {x : Scientific} (hx : readScientific? cs = some x) (hd : read? cs = some d) :
    ∃ (front : Scientific) (a : Decimal) (e : Int),
      readScientific? (cs.takeWhile fun c => !isExponentMark c) = some front ∧
      front.digits = x.digits ∧ NearTo a front.magnitude ∧
      x.magnitude = front.magnitude * 10 ^ e ∧
      (|d.value| = |a.value| * 10 ^ e ∨ |d.value| * 5 ≤ |a.value| * 10 ^ e) := by
  have hunsigned : readUnsigned? (splitSign cs).1 (splitSign cs).2 = some x := hx
  obtain ⟨whole, fraction, pointed, rest, e, hpoint, hwhole, hfraction, hne, hcs, he, rfl⟩ :=
    readUnsigned?_eq_some hunsigned
  have hunmarked := isExponentMark_of_pointed hpoint hwhole hfraction
  have hmark : ∀ c ∈ rest.head?, (!isExponentMark c) = false := by
    rcases readExponent?_eq_some he with ⟨rfl, -⟩ | ⟨mark, exponent, n, rfl, hmark, -⟩
    · nofun
    · rintro c ⟨⟩
      simp [hmark]
  have hmantissa : mantissaPart cs = pointed := by
    rw [mantissaPart, hcs, takeWhile_until hunmarked hmark]
  have hexponent : exponentPart cs = rest := by
    rw [exponentPart, hcs, dropWhile_until hunmarked hmark]
  have hfront : readScientific? (cs.takeWhile fun c => !isExponentMark c) =
      some ⟨(splitSign cs).1, numeral 10 (whole ++ fraction), -(fraction.length : Int)⟩ := by
    rw [readScientific?, splitSign_takeWhile, hmantissa]
    exact readUnsigned?_pointed hpoint hwhole hfraction hne
  have hmagnitude : Scientific.magnitude ⟨(splitSign cs).1, numeral 10 (whole ++ fraction),
      -(fraction.length : Int)⟩ = numeral 10 (whole ++ fraction) / 10 ^ fraction.length := by
    rw [Scientific.magnitude, zpow_neg, zpow_natCast, div_eq_mul_inv]
  have hmoved : Scientific.magnitude ⟨(splitSign cs).1, numeral 10 (whole ++ fraction),
      e - fraction.length⟩ = numeral 10 (whole ++ fraction) / 10 ^ fraction.length * 10 ^ e := by
    rw [Scientific.magnitude, zpow_sub₀ (by norm_num), zpow_natCast]
    ring
  rcases readExponent?_eq_some he with ⟨rfl, rfl⟩ | ⟨mark, exponent, n, rfl, -, hn, hvalue⟩
  · rw [read?_plain hexponent, hmantissa] at hd
    refine ⟨_, d, 0, hfront, rfl, ?_, ?_, .inl ?_⟩
    · rw [hmagnitude]
      exact readDigits?_near hpoint hwhole hfraction hd
    · rw [hmagnitude, hmoved]
    · rw [zpow_zero, mul_one]
  · rw [read?_exponent hexponent, hmantissa] at hd
    obtain ⟨a, ha, hd⟩ := Option.bind_eq_some_iff.1 hd
    refine ⟨_, a, e, hfront, rfl, ?_, ?_, applyExponent?_cases hn hd hvalue⟩
    · rw [hmagnitude]
      exact readDigits?_near hpoint hwhole hfraction ha
    · rw [hmagnitude, hmoved]

/-- A number is not too small for the places of decimals, unless it is zero. -/
def Sizable (cs : List Char) : Prop :=
  ∀ x, readScientific? cs = some x → x.digits ≠ 0 → 1 / 10 ^ 11 ≤ x.magnitude

/-- The decimal of a number with a front that is not too small is near to the number, or far below
it. -/
theorem read?_near {x : Scientific} (hx : readScientific? cs = some x) (hd : read? cs = some d)
    (hdigits : x.digits ≠ 0) (hsize : Sizable (cs.takeWhile fun c => !isExponentMark c)) :
    |(|d.value| - x.magnitude)| ≤ x.magnitude * (6 / 10 ^ 18) ∨ |d.value| * 4 ≤ x.magnitude := by
  obtain ⟨front, a, e, hfront, hsame, hnear, hmoved, hcases⟩ := read?_cases hx hd
  have hlarge := hsize front hfront (hsame ▸ hdigits)
  have hpower : (0 : ℚ) < 10 ^ e := by positivity
  have hrelative : |(|a.value| - front.magnitude)| ≤ front.magnitude * (6 / 10 ^ 18) := by
    refine hnear.trans ?_
    linarith
  rw [hmoved]
  rcases hcases with hexact | hlost
  · refine .inl ?_
    rw [hexact, ← sub_mul, abs_mul, abs_of_pos hpower, mul_right_comm]
    exact mul_le_mul_of_nonneg_right hrelative hpower.le
  · refine .inr ?_
    have hle : |a.value| ≤ front.magnitude * (5 / 4) := by
      have hupper := (abs_le.1 hrelative).2
      linarith
    have hscaled := mul_le_mul_of_nonneg_right hle hpower.le
    linarith

end Numbers

end GatedPredicate.Decimal
