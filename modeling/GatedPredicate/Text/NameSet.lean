/-!
# Sets of names

A finite set of names as the list of its elements in strictly increasing order, so that equal
sets are equal values.

- `NameSet`, `NameSet.insert`, `NameSet.ofList`
- `NameSet.contains`
-/

namespace GatedPredicate

/-- Puts a name in its place in an increasing list, unless it is there. -/
def insertName (name : String) : List String → List String
  | [] => [name]
  | n :: rest =>
    if name < n then name :: n :: rest
    else if name = n then n :: rest
    else n :: insertName name rest

/-- Insertion adds the name and nothing else. -/
theorem mem_insertName {name x : String} {names : List String} :
    x ∈ insertName name names ↔ x = name ∨ x ∈ names := by
  induction names with
  | nil => simp [insertName]
  | cons n rest ih =>
    simp only [insertName]
    split
    · simp
    · split
      · rename_i h
        subst h
        simp
      · simp only [List.mem_cons, ih]
        exact or_left_comm

/-- Insertion keeps a list increasing. -/
theorem insertName_sorted {name : String} {names : List String}
    (h : names.Pairwise (· < ·)) : (insertName name names).Pairwise (· < ·) := by
  induction names with
  | nil => simp [insertName]
  | cons n rest ih =>
    rw [List.pairwise_cons] at h
    simp only [insertName]
    split
    · rename_i hlt
      rw [List.pairwise_cons, List.pairwise_cons]
      refine ⟨fun x hx => ?_, h⟩
      rcases List.mem_cons.1 hx with rfl | hx
      · exact hlt
      · exact String.lt_trans hlt (h.1 x hx)
    · split
      · exact List.pairwise_cons.2 h
      · rename_i hle hne
        rw [List.pairwise_cons]
        refine ⟨fun x hx => ?_, ih h.2⟩
        rcases mem_insertName.1 hx with rfl | hx
        · grind
        · exact h.1 x hx

/-- A finite set of names. -/
structure NameSet where
  names : List String
  sorted : names.Pairwise (· < ·)
deriving DecidableEq

namespace NameSet

/-- The set without elements. -/
def empty : NameSet := ⟨[], List.Pairwise.nil⟩

/-- The set with one more element. -/
def insert (s : NameSet) (name : String) : NameSet :=
  ⟨insertName name s.names, insertName_sorted s.sorted⟩

/-- The set of the elements of a list. -/
def ofList (names : List String) : NameSet :=
  names.foldl insert empty

/-- Whether a name is an element. -/
def contains (s : NameSet) (name : String) : Bool :=
  s.names.contains name

/-- Insertion adds the name and nothing else. -/
theorem contains_insert (s : NameSet) (name x : String) :
    (s.insert name).contains x = (x == name || s.contains x) := by
  rw [Bool.eq_iff_iff]
  simp [contains, insert, mem_insertName]

end NameSet

end GatedPredicate
