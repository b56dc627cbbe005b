import Mathlib.Data.List.Basic

/-!
# Lists of first occurrences

A list from which repetitions are erased keeps the first occurrence of everything in it, and a list
to which elements are only added while they are new ends up with the same. What counts as a
repetition may be coarser than equality.

- `inductionOnFiltered`: induction for functions that filter what is left of a list
- `nodup_eraseDups`, `pairwise_eraseDups_map`: what is left, and in which order
- `foldl_addNew`: adding new elements one after the other
-/

namespace GatedPredicate

variable {α β : Type}

/-- What holds of a list as soon as it holds of all that is filtered out of its tail holds of every
list. -/
@[elab_as_elim]
theorem inductionOnFiltered {motive : List α → Prop} (nil : motive [])
    (cons : ∀ x rest, (∀ p : α → Bool, motive (rest.filter p)) → motive (x :: rest))
    (xs : List α) : motive xs :=
  match xs with
  | [] => nil
  | x :: rest => cons x rest fun p =>
    have := List.length_filter_le p rest
    inductionOnFiltered nil cons (rest.filter p)
termination_by xs.length
decreasing_by
  simp only [List.length_cons]
  omega

/-! ## Erasing repetitions -/

/-- Erasing repetitions leaves none. -/
theorem nodup_eraseDups [BEq β] [LawfulBEq β] (xs : List β) : xs.eraseDups.Nodup := by
  induction xs using inductionOnFiltered with
  | nil => simp
  | cons x rest ih =>
    rw [List.eraseDups_cons, List.nodup_cons]
    exact ⟨by simp, ih _⟩

/-- Of two images the first comes from an element that stands before everything with the second
image. -/
theorem pairwise_eraseDups_map [BEq β] [LawfulBEq β] {R : α → α → Prop} (hrefl : ∀ a, R a a)
    (f : α → β) {xs : List α} (h : xs.Pairwise R) :
    (xs.map f).eraseDups.Pairwise fun v w => ∃ a ∈ xs, f a = v ∧ ∀ b ∈ xs, f b = w → R a b := by
  induction xs using inductionOnFiltered with
  | nil => simp
  | cons x rest ih =>
    obtain ⟨hfirst, hrest⟩ := List.pairwise_cons.1 h
    rw [List.map_cons, List.eraseDups_cons, List.filter_map, List.pairwise_cons]
    constructor
    · intro w _
      refine ⟨x, List.mem_cons_self, rfl, fun b hb _ => ?_⟩
      rcases List.mem_cons.1 hb with rfl | hb
      · exact hrefl b
      · exact hfirst b hb
    · refine (ih _ (hrest.filter _)).imp_of_mem ?_
      rintro v w - hw ⟨a, ha, hv, hbefore⟩
      refine ⟨a, List.mem_cons_of_mem _ (List.mem_of_mem_filter ha), hv, fun b hb hbw => ?_⟩
      -- the image of `x` is erased from what follows, so `b` is not `x` and was not filtered out
      obtain ⟨c, hc, hcw⟩ := List.mem_map.1 (List.mem_eraseDups.1 hw)
      have hother : (!f b == f x) = true := by
        rw [hbw, ← hcw]
        exact (List.mem_filter.1 hc).2
      have hrest : b ∈ rest := by
        rcases List.mem_cons.1 hb with rfl | hb
        · simp at hother
        · exact hb
      exact hbefore b (List.mem_filter.2 ⟨hrest, hother⟩) hbw

/-! ## Adding new elements -/

/-- Elements that are only added while they are new are kept at their first occurrence. -/
theorem foldl_addNew {same : α → α → Bool} (hcomm : ∀ a b, same a b = same b a)
    (added kept : List α) :
    added.foldl (fun xs x => if xs.any (same · x) then xs else xs ++ [x]) kept =
      kept ++ (added.filter fun x => !kept.any (same · x)).eraseDupsBy same := by
  induction added generalizing kept with
  | nil => simp
  | cons x rest ih =>
    rw [List.foldl_cons, ih]
    by_cases h : kept.any (same · x) = true
    · simp [h]
    · have hsame : (fun y => !(kept ++ [x]).any (same · y)) =
          fun y => decide (same y x = false) && !kept.any (same · y) := by
        funext y
        rw [List.any_append, List.any_cons, List.any_nil, Bool.or_false, hcomm x y]
        cases same y x <;> cases kept.any (same · y) <;> rfl
      rw [if_neg h, hsame, List.filter_cons_of_pos (by simpa using h), List.eraseDupsBy_cons,
        List.filter_filter, List.append_assoc, List.singleton_append]

end GatedPredicate
