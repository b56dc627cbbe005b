/-!
# Computations that give a value

What is known of the parts of a computation in `Except` once the whole is known to give a value.
Binders, parsers and the evaluator are all written in this monad, so their inversion lemmas start
here. Two computations can be compared where their values and their errors can.
-/

namespace GatedPredicate

variable {ε α β : Type}

instance exceptDecidableEq [DecidableEq ε] [DecidableEq α] : DecidableEq (Except ε α)
  | .ok a, .ok b => decidable_of_iff (a = b) (Except.ok.injEq a b).to_iff.symm
  | .error d, .error e => decidable_of_iff (d = e) (Except.error.injEq d e).to_iff.symm
  | .ok _, .error _ => .isFalse nofun
  | .error _, .ok _ => .isFalse nofun

/-- A mapped computation gives a value if the computation does. -/
theorem except_map_eq_ok {x : Except ε α} {f : α → β} {b : β} :
    x.map f = .ok b ↔ ∃ a, x = .ok a ∧ f a = b := by
  rcases x with e | a
  · simp [Except.map]
  · simp [Except.map]

/-- A sequence gives a value if its first part does and the second does on that value. -/
theorem except_bind_eq_ok {x : Except ε α} {f : α → Except ε β} {b : β} :
    x.bind f = .ok b ↔ ∃ a, x = .ok a ∧ f a = .ok b := by
  rcases x with e | a
  · simp [Except.bind]
  · simp [Except.bind]

/-- The same for a sequence written with the operator. -/
theorem except_seq_eq_ok {x : Except ε α} {f : α → Except ε β} {b : β} :
    (x >>= f) = .ok b ↔ ∃ a, x = .ok a ∧ f a = .ok b :=
  except_bind_eq_ok

/-- A value goes straight on to what comes after it. -/
theorem except_ok_seq {a : α} {f : α → Except ε β} : (.ok a >>= f) = f a :=
  rfl

/-- What comes after a computation only matters on the value that it gives. -/
theorem except_seq_congr {x : Except ε α} {f g : α → Except ε β} (h : ∀ a, x = .ok a → f a = g a) :
    (x >>= f) = (x >>= g) := by
  rcases x with e | a
  · rfl
  · exact h a rfl

end GatedPredicate
