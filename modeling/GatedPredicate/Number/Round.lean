/-!
# Rounding a quotient to an integer

`halfEven n d` is the integer nearest to `n / d`; a quotient halfway between two integers goes
to the even one. `halfAway` sends the halfway case away from zero instead.
-/

namespace GatedPredicate.Number

/-- The integer nearest to `n / d`, the even one of two that are equally near. -/
def halfEven (n d : Nat) : Nat :=
  let q := n / d
  let r := n % d
  if 2 * r > d ∨ (2 * r = d ∧ q % 2 = 1) then q + 1 else q

/-- The integer nearest to `n / d`, the larger one of two that are equally near. -/
def halfAway (n d : Nat) : Nat :=
  let q := n / d
  if 2 * (n % d) ≥ d then q + 1 else q

/-- `halfEven` stays within half a unit of the quotient. -/
theorem halfEven_near (n d : Nat) (hd : 0 < d) :
    2 * n ≤ 2 * d * halfEven n d + d ∧ 2 * d * halfEven n d ≤ 2 * n + d := by
  have hsplit : d * (n / d) + n % d = n := Nat.div_add_mod n d
  have hlt : n % d < d := Nat.mod_lt n hd
  unfold halfEven
  generalize n / d = q at *
  generalize n % d = r at *
  subst hsplit
  dsimp only
  split
  · rename_i h
    have : 2 * d * (q + 1) = 2 * (d * q) + 2 * d := by
      rw [Nat.mul_add, Nat.mul_assoc]; omega
    rw [this]
    rcases h with h | h <;> omega
  · rename_i h
    have : 2 * d * q = 2 * (d * q) := Nat.mul_assoc 2 d q
    rw [this]
    omega

/-- Rounding adds one at most to the quotient without its fraction. -/
theorem halfEven_le (n d : Nat) : halfEven n d ≤ n / d + 1 := by
  unfold halfEven
  dsimp only
  split
  · exact Nat.le_refl _
  · exact Nat.le_succ _

end GatedPredicate.Number
