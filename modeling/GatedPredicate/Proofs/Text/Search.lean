import GatedPredicate.Text.Search
import Mathlib.Order.Bounds.Basic
import Mathlib.Data.List.Infix

/-!
# The least position

Searching walks over a text from its front and stops at the first place where the needle stands, so
what it finds is the least position of all, and it finds none only where there is none. The empty
text stands everywhere, and first of all at the front.

- `OccursAt`: the needle stands after so many characters
- `isLeast_of_indexOf?`, `not_occursAt_of_indexOf?`: what it means to find a position or none
- `occursAt_zero`, `occursIn_iff`: prefixes and containment as positions
- `takeBytes?_of_byteIndex?`: from a place in bytes to a position
-/

namespace GatedPredicate.Text

variable {needle cs : List Char} {c : Char} {i : Nat}

/-- `needle` stands in `cs` after the first `i` characters. -/
def OccursAt (needle cs : List Char) (i : Nat) : Prop :=
  ∃ front back, cs = front ++ (needle ++ back) ∧ front.length = i

theorem occursAt_zero : OccursAt needle cs 0 ↔ needle <+: cs := by
  constructor
  · rintro ⟨front, back, rfl, hlength⟩
    rw [List.length_eq_zero_iff.1 hlength]
    exact ⟨back, rfl⟩
  · rintro ⟨back, rfl⟩
    exact ⟨[], back, rfl, rfl⟩

theorem occursAt_succ : OccursAt needle (c :: cs) (i + 1) ↔ OccursAt needle cs i := by
  constructor
  · rintro ⟨front, back, hsplit, hlength⟩
    obtain ⟨d, front, rfl⟩ := List.exists_of_length_succ front hlength
    exact ⟨front, back, (List.cons.inj hsplit).2, Nat.succ.inj hlength⟩
  · rintro ⟨front, back, rfl, rfl⟩
    exact ⟨c :: front, back, rfl, rfl⟩

theorem not_occursAt_nil_succ : ¬ OccursAt needle [] (i + 1) := by
  rintro ⟨front, back, hsplit, hlength⟩
  obtain ⟨d, front, rfl⟩ := List.exists_of_length_succ front hlength
  cases hsplit

theorem OccursAt.le (h : OccursAt needle cs i) : i + needle.length ≤ cs.length := by
  obtain ⟨front, back, rfl, rfl⟩ := h
  simp

/-- The characters after the position are those of the needle. -/
theorem OccursAt.take_drop (h : OccursAt needle cs i) :
    (cs.drop i).take needle.length = needle := by
  obtain ⟨front, back, rfl, rfl⟩ := h
  rw [List.drop_left, List.take_left]

/-- A search that ends at a position has passed over no other. -/
theorem isLeast_of_indexOf? (h : indexOf? needle cs = some i) :
    IsLeast {p | OccursAt needle cs p} i := by
  induction cs generalizing i with
  | nil =>
    rw [indexOf?] at h
    split at h
    · rename_i hempty
      obtain rfl := Option.some.inj h
      refine ⟨occursAt_zero.2 ?_, fun p _ => Nat.zero_le p⟩
      rw [List.isEmpty_iff.1 hempty]
    · cases h
  | cons c cs ih =>
    rw [indexOf?] at h
    split at h
    · rename_i hprefix
      obtain rfl := Option.some.inj h
      exact ⟨occursAt_zero.2 (List.isPrefixOf_iff_prefix.1 hprefix), fun p _ => Nat.zero_le p⟩
    · rename_i hprefix
      obtain ⟨j, hj, rfl⟩ := Option.map_eq_some_iff.1 h
      obtain ⟨hoccurs, hleast⟩ := ih hj
      refine ⟨occursAt_succ.2 hoccurs, fun p hp => ?_⟩
      -- the needle does not stand at the front, so every position is one in the rest
      cases p with
      | zero => exact absurd (List.isPrefixOf_iff_prefix.2 (occursAt_zero.1 hp)) hprefix
      | succ p => exact Nat.succ_le_succ (hleast (occursAt_succ.1 hp))

theorem not_occursAt_of_indexOf? (h : indexOf? needle cs = none) (p : Nat) :
    ¬ OccursAt needle cs p := by
  intro hp
  induction cs generalizing p with
  | nil =>
    rw [indexOf?] at h
    split at h
    · cases h
    · rename_i hempty
      cases p with
      | zero => exact hempty (List.isEmpty_iff.2 (List.prefix_nil.1 (occursAt_zero.1 hp)))
      | succ p => exact not_occursAt_nil_succ hp
  | cons c cs ih =>
    rw [indexOf?] at h
    split at h
    · cases h
    · rename_i hprefix
      cases p with
      | zero => exact hprefix (List.isPrefixOf_iff_prefix.2 (occursAt_zero.1 hp))
      | succ p => exact ih (Option.map_eq_none_iff.1 h) p (occursAt_succ.1 hp)

/-- A text contains a needle if it stands somewhere in it. -/
theorem occursIn_iff : occursIn needle cs = true ↔ ∃ i, OccursAt needle cs i := by
  rw [occursIn]
  cases h : indexOf? needle cs with
  | none => simpa using not_occursAt_of_indexOf? h
  | some i => simpa using ⟨i, (isLeast_of_indexOf? h).1⟩

/-- A single character is contained where it is one of the characters. -/
theorem occursIn_singleton : occursIn [c] cs = true ↔ c ∈ cs := by
  rw [occursIn_iff]
  constructor
  · rintro ⟨i, front, back, rfl, -⟩
    simp
  · intro h
    obtain ⟨front, back, rfl⟩ := List.append_of_mem h
    exact ⟨front.length, front, back, rfl, rfl⟩

/-! ## Places -/

/-- The place of a needle is where the characters before its position end. -/
theorem byteIndex?_eq (needle cs : List Char) :
    byteIndex? needle cs = (indexOf? needle cs).map fun i => utf8Width (cs.take i) := by
  induction cs with
  | nil =>
    rw [byteIndex?, indexOf?]
    split
    · rfl
    · rfl
  | cons c cs ih =>
    rw [byteIndex?, indexOf?]
    split
    · rfl
    · rw [ih, Option.map_map, Option.map_map]
      congr 1
      funext i
      rw [Function.comp_apply, Function.comp_apply, List.take_succ_cons, utf8Width_cons]

/-- The characters before the place of a needle are as many as its position says. -/
theorem takeBytes?_of_byteIndex? {place : Nat} (h : byteIndex? needle cs = some place) :
    ∃ i, indexOf? needle cs = some i ∧ takeBytes? place cs = some (cs.take i) := by
  rw [byteIndex?_eq] at h
  obtain ⟨i, hi, rfl⟩ := Option.map_eq_some_iff.1 h
  refine ⟨i, hi, ?_⟩
  have hfront := takeBytes?_utf8Width (cs.take i) (cs.drop i)
  rwa [List.take_append_drop] at hfront

end GatedPredicate.Text
