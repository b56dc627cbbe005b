import GatedPredicate.Gate
import GatedPredicate.Proofs.Bound.Uses
import GatedPredicate.Proofs.Value.Order

/-!
# The least, the greatest and the nearest

`Min`, `Max` and `Clamp` choose between numbers in the kind in which these meet, which depends on
their values, and the number that is chosen goes on in that kind. Integers and decimals keep the
rational numbers that they stand for on the way, so that choices between them are exact in any mix
of kinds.

- `NumericPair.pick_rational`: choosing between two numbers of one kind
- `choose_rational`, `clamp_of_ordered`, `clamp_of_reversed`: choices as choices of rational numbers
- `Value.Extreme`: what the least and the greatest of two values have in common
- `choice_exact`
-/

namespace GatedPredicate

/-! ## Numbers of one kind -/

namespace NumericPair

variable {p : NumericPair} {x y : ℚ}

/-- Where there is an order, it decides alone. -/
theorem pick_of_compare {order : Ordering} (h : p.compare = some order) (want : Ordering) :
    p.pick want = if order = want ∨ order = .eq then p.first else p.second := by
  unfold pick
  rw [h]
  cases p <;> simp only [Option.some.injEq]

/-- What is chosen stands for the number that the same choice between rational numbers gives. -/
theorem pick_rational (hx : p.first.rational? = some x) (hy : p.second.rational? = some y)
    (want : Ordering) :
    (p.pick want).rational? =
      some (if Ord.compare x y = want ∨ Ord.compare x y = .eq then x else y) := by
  rw [pick_of_compare (p.compare_rational hx hy)]
  split
  · exact hx
  · exact hy

theorem smaller_rational (hx : p.first.rational? = some x) (hy : p.second.rational? = some y) :
    p.smaller.rational? = some (min x y) := by
  have hle : Ord.compare x y = .lt ∨ Ord.compare x y = .eq ↔ x ≤ y := by
    rw [compare_lt_iff_lt, compare_eq_iff_eq, le_iff_lt_or_eq]
  rw [smaller, pick_rational hx hy, min_def]
  simp only [hle]

theorem larger_rational (hx : p.first.rational? = some x) (hy : p.second.rational? = some y) :
    p.larger.rational? = some (max x y) := by
  have hge : Ord.compare x y = .gt ∨ Ord.compare x y = .eq ↔ y ≤ x := by
    rw [compare_gt_iff_gt, compare_eq_iff_eq, le_iff_lt_or_eq, eq_comm (a := y)]
  rw [larger, pick_rational hx hy, max_comm, max_def]
  simp only [hge]

end NumericPair

/-! ## Numbers of any kinds -/

section

variable {a b c : Value} {x y z : ℚ}

/-- A choice that keeps the numbers of one kind keeps them in any kinds. -/
theorem choose_rational {pick : NumericPair → Value} {f : ℚ → ℚ → ℚ}
    (hpick : ∀ {p : NumericPair} {x y : ℚ}, p.first.rational? = some x →
      p.second.rational? = some y → (pick p).rational? = some (f x y))
    (name : String) (ha : a.rational? = some x) (hb : b.rational? = some y) :
    ∃ v, Catalog.choose name pick a b = .ok v ∧ v.rational? = some (f x y) := by
  obtain ⟨p, hp, hx, hy⟩ := promote?_rational ha hb
  exact ⟨pick p, by rw [Catalog.choose, hp], hpick hx hy⟩

/-- Bounds in the wrong order are refused, whatever is to be brought between them. -/
theorem clamp_of_reversed (v : Value) (hb : b.rational? = some y) (hc : c.rational? = some z)
    (h : z < y) :
    Catalog.clamp v b c = .error (.functionFailed "Math.Clamp" .reversedBounds) := by
  obtain ⟨p, hp, hy, hz⟩ := promote?_rational hb hc
  have horder : p.compare = some .gt := by
    rw [p.compare_rational hy hz, compare_gt_iff_gt.2 h]
  rw [Catalog.clamp, hp]
  exact if_pos horder

/-- Between bounds in order a number is raised to the lower one, and what comes of it is lowered to
the upper one. -/
theorem clamp_of_ordered (ha : a.rational? = some x) (hb : b.rational? = some y)
    (hc : c.rational? = some z) (h : y ≤ z) :
    ∃ v, Catalog.clamp a b c = .ok v ∧ v.rational? = some (min (max x y) z) := by
  obtain ⟨p, hp, hy, hz⟩ := promote?_rational hb hc
  have horder : ¬ p.compare = some .gt := by
    rw [p.compare_rational hy hz, Option.some.injEq, compare_gt_iff_gt]
    exact h.not_gt
  obtain ⟨raised, hraised, hmax⟩ := choose_rational NumericPair.larger_rational "Math.Clamp" ha hb
  obtain ⟨v, hv, hmin⟩ := choose_rational NumericPair.smaller_rational "Math.Clamp" hmax hc
  refine ⟨v, ?_, hmin⟩
  rw [← hv, Catalog.clamp, hp]
  dsimp only
  rw [if_neg horder, hraised]
  rfl

end

/-! ## Choices by the operators -/

namespace Value

variable {a b m : Value} {x y : ℚ}

/-- The operator `>` holds of the two values. -/
def Exceeds (a b : Value) : Prop :=
  applyBinary .gt a b = .ok (.bool true)

theorem exceeds_rational (ha : a.rational? = some x) (hb : b.rational? = some y) :
    a.Exceeds b ↔ y < x := by
  have htells := (tellsOrder_of_compare (compare_rational ha hb)).greater
  rw [Exceeds, htells, ← compare_gt_iff_gt]
  cases Ord.compare x y <;> simp

/-- `m` is one of the two values in value, and bounds both. -/
structure Extreme (bounds : Value → Value → Prop) (m a b : Value) : Prop where
  exact : m.IsExact
  one : m.equals a = true ∨ m.equals b = true
  left : bounds m a
  right : bounds m b

theorem extreme_of_min (ha : a.rational? = some x) (hb : b.rational? = some y)
    (hm : m.rational? = some (min x y)) : Extreme AtMost m a b := by
  constructor
  case exact => exact Option.isSome_iff_exists.2 ⟨_, hm⟩
  case one =>
    rw [equals_rational hm ha, equals_rational hm hb]
    exact min_choice x y
  case left => exact (atMost_rational hm ha).2 (min_le_left x y)
  case right => exact (atMost_rational hm hb).2 (min_le_right x y)

theorem extreme_of_max (ha : a.rational? = some x) (hb : b.rational? = some y)
    (hm : m.rational? = some (max x y)) : Extreme (flip AtMost) m a b := by
  constructor
  case exact => exact Option.isSome_iff_exists.2 ⟨_, hm⟩
  case one =>
    rw [equals_rational hm ha, equals_rational hm hb]
    exact max_choice x y
  case left => exact (atMost_rational ha hm).2 (le_max_left x y)
  case right => exact (atMost_rational hb hm).2 (le_max_right x y)

/-- `v` is `x` brought between `low` and `high`. -/
structure Clamps (v x low high : Value) : Prop where
  exact : v.IsExact
  inside : low.AtMost x → x.AtMost high → v.equals x = true
  below : low.Exceeds x → v.equals low = true
  above : x.Exceeds high → v.equals high = true

theorem clamps_of_min_max {v low high : Value} {l h : ℚ} (ha : a.rational? = some x)
    (hlow : low.rational? = some l) (hhigh : high.rational? = some h) (hle : l ≤ h)
    (hv : v.rational? = some (min (max x l) h)) : Clamps v a low high := by
  constructor
  case exact => exact Option.isSome_iff_exists.2 ⟨_, hv⟩
  case inside =>
    rw [atMost_rational hlow ha, atMost_rational ha hhigh, equals_rational hv ha]
    intro hlx hxh
    rw [max_eq_left hlx, min_eq_left hxh]
  case below =>
    rw [exceeds_rational hlow ha, equals_rational hv hlow]
    intro hxl
    rw [max_eq_right hxl.le, min_eq_left hle]
  case above =>
    rw [exceeds_rational ha hhigh, equals_rational hv hhigh]
    intro hhx
    rw [max_eq_left (hle.trans hhx.le), min_eq_right hhx.le]

end Value

/-- `Min`, `Max` and `Clamp` are exact on integers and decimals in any mix. The least and the
greatest of two numbers are one of them in value and bound both, and exchanging the two gives an
equal value. `Clamp` is refused exactly where the lower bound exceeds the upper one; else a number
between the bounds keeps its value, and any other becomes the bound that it is beyond. -/
theorem choice_exact (x y z : Value) (hx : x.IsExact) (hy : y.IsExact) (hz : z.IsExact) :
    (∃ m m', Registry.standard.call? "Math" "Min" [x, y] = some (.ok m) ∧
      Registry.standard.call? "Math" "Min" [y, x] = some (.ok m') ∧
      m.Extreme Value.AtMost x y ∧ m.equals m' = true) ∧
    (∃ m m', Registry.standard.call? "Math" "Max" [x, y] = some (.ok m) ∧
      Registry.standard.call? "Math" "Max" [y, x] = some (.ok m') ∧
      m.Extreme (flip Value.AtMost) x y ∧ m.equals m' = true) ∧
    (y.Exceeds z → Registry.standard.call? "Math" "Clamp" [x, y, z] =
      some (.error (.functionFailed "Math.Clamp" .reversedBounds))) ∧
    (¬ y.Exceeds z → ∃ v, Registry.standard.call? "Math" "Clamp" [x, y, z] = some (.ok v) ∧
      v.Clamps x y z) := by
  obtain ⟨p, hp⟩ := hx.rational
  obtain ⟨q, hq⟩ := hy.rational
  obtain ⟨r, hr⟩ := hz.rational
  rw [Value.exceeds_rational hq hr]
  refine ⟨?_, ?_, fun h => congrArg some (clamp_of_reversed x hq hr h), fun h => ?_⟩
  · obtain ⟨m, hm, hmin⟩ := choose_rational NumericPair.smaller_rational "Math.Min" hp hq
    obtain ⟨m', hm', hmin'⟩ := choose_rational NumericPair.smaller_rational "Math.Min" hq hp
    refine ⟨m, m', congrArg some hm, congrArg some hm', Value.extreme_of_min hp hq hmin, ?_⟩
    exact (Value.equals_rational hmin hmin').2 (min_comm p q)
  · obtain ⟨m, hm, hmax⟩ := choose_rational NumericPair.larger_rational "Math.Max" hp hq
    obtain ⟨m', hm', hmax'⟩ := choose_rational NumericPair.larger_rational "Math.Max" hq hp
    refine ⟨m, m', congrArg some hm, congrArg some hm', Value.extreme_of_max hp hq hmax, ?_⟩
    exact (Value.equals_rational hmax hmax').2 (max_comm p q)
  · have hle : q ≤ r := not_lt.1 h
    obtain ⟨v, hv, hvalue⟩ := clamp_of_ordered hp hq hr hle
    exact ⟨v, congrArg some hv, Value.clamps_of_min_max hp hq hr hle hvalue⟩

/-- Between the smallest signed integer and a half, the largest unsigned integer becomes the half,
also where a resolved tree calls for it; with the bounds exchanged it is refused. -/
theorem choice_exact_mixed :
    let least : Value := .int Int64.minValue
    let half : Value := .decimal ⟨false, 5, 1, by decide, by decide⟩
    let greatest : Value := .uint 18446744073709551615
    least.IsExact ∧ half.IsExact ∧ greatest.IsExact ∧
      (∃ callee t, Gate.standard.env.moduleCallee Catalog.mathModule "Clamp" = .ok callee ∧
        Env.bindStatic callee [.ofValue greatest, .ofValue least, .ofValue half] = .ok t ∧
        ∀ a, ∃ v, t.tree.eval a = .ok v ∧ v.equals half = true) ∧
      Registry.standard.call? "Math" "Clamp" [greatest, half, least] =
        some (.error (.functionFailed "Math.Clamp" .reversedBounds)) := by
  intro least half greatest
  have hordered : ¬ least.Exceeds half := by
    have hgreater : applyBinary .gt least half = .ok (.bool false) := rfl
    rw [Value.Exceeds, hgreater]
    exact nofun
  have hreversed : half.Exceeds least := rfl
  have habove : greatest.Exceeds half := rfl
  obtain ⟨-, -, -, hclamp⟩ := choice_exact greatest least half rfl rfl rfl
  obtain ⟨-, -, hrefused, -⟩ := choice_exact greatest half least rfl rfl rfl
  obtain ⟨v, hv, hclamps⟩ := hclamp hordered
  have hmodule : Gate.standard.env.policy.registry.module? "Math" = some Catalog.mathModule := rfl
  let callee : Env.Callee := ⟨"Math.Clamp", [.ternary .promoted Catalog.clamp]⟩
  let args : List Typed := [.ofValue greatest, .ofValue least, .ofValue half]
  have hcallee : Gate.standard.env.moduleCallee Catalog.mathModule "Clamp" = .ok callee := rfl
  obtain ⟨t, hbind⟩ : ∃ t, Env.bindStatic callee args = .ok t := ⟨_, rfl⟩
  refine ⟨rfl, rfl, rfl, ⟨callee, t, hcallee, hbind, fun a => ⟨v, ?_, hclamps.above habove⟩⟩,
    hrefused hreversed⟩
  have hargs : Bound.evalAll a (args.map Typed.tree) = .ok [greatest, least, half] := rfl
  exact Option.some.inj ((bindStatic_call hmodule hcallee hbind hargs).symm.trans hv)

end GatedPredicate
