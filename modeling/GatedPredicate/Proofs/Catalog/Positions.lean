import GatedPredicate.Proofs.Bound.Uses
import GatedPredicate.Proofs.Number.Integers
import GatedPredicate.Proofs.Text.Search

/-!
# Positions in texts

Searching a text gives a position and cutting one out takes positions, and both count characters.
What is found at a position is therefore what is cut out there. Positions and lengths are integers
of either kind, and any of them that do not lie within the text are refused, however large they are.

- `Value.searched?`: what may be searched for
- `FoundAt`, `Absent`: the two ways in which searching can end
- `Outcome.OutsideText`, `Outcome.IsSlice`: positions that are refused, and what others cut out
- `text_positions`
-/

namespace GatedPredicate

open GatedPredicate.Number GatedPredicate.Text

variable {s : String} {v : Value} {needle : List Char} {i : Nat}

/-! ## Searching -/

/-- The characters of a text or of a single character, which is what may be searched for. -/
def Value.searched? : Value → Option (List Char)
  | .string t => some t.toList
  | .char c => some [c]
  | _ => none

/-- A position as a value, which is -1 if there is none. -/
def Value.ofPosition? : Option Nat → Value
  | some i => .ofNat i
  | none => .int (-1)

/-- The characters before what has been found are counted, so its place in bytes does not show. -/
theorem positionOf_eq (needle cs : List Char) :
    Catalog.positionOf needle cs = .ok (.ofPosition? (indexOf? needle cs)) := by
  unfold Catalog.positionOf
  split
  · rename_i hnone
    rw [byteIndex?_eq, Option.map_eq_none_iff] at hnone
    rw [hnone, Value.ofPosition?]
  · rename_i place hplace
    obtain ⟨i, hi, hfront⟩ := takeBytes?_of_byteIndex? hplace
    have hlength : (cs.take i).length = i := by
      have hle := (isLeast_of_indexOf? hi).1.le
      rw [List.length_take]
      omega
    rw [hfront, hi, Value.ofPosition?]
    dsimp only
    rw [hlength]

/-- What the members of texts that search give. -/
theorem use_searching (hv : v.searched? = some needle) :
    Registry.standard.use "Contains" false (.string s) [v] =
        .ok (.bool (occursIn needle s.toList)) ∧
      Registry.standard.use "StartsWith" false (.string s) [v] =
        .ok (.bool (needle.isPrefixOf s.toList)) ∧
      Registry.standard.use "IndexOf" false (.string s) [v] =
        .ok (.ofPosition? (indexOf? needle s.toList)) := by
  rw [← positionOf_eq]
  cases v with
  | string t =>
    obtain rfl := Option.some.inj hv
    exact ⟨rfl, rfl, rfl⟩
  | char c =>
    obtain rfl := Option.some.inj hv
    exact ⟨rfl, rfl, rfl⟩
  | _ => cases hv

/-! ## Cutting out -/

namespace Outcome

/-- A position or length is refused: it does not lie within the text, or it is even too large for a
signed integer. -/
inductive OutsideText {α : Type} : Outcome α → Prop
  | outside : OutsideText (.error (.functionFailed "String.Substring" .outsideText))
  | tooLarge : OutsideText (.error (.expected "String.Substring" "long" .uint))

theorem OutsideText.bind {α β : Type} {x : Outcome α} (h : x.OutsideText) (f : α → Outcome β) :
    OutsideText (x.bind f) := by
  cases h with
  | outside => exact .outside
  | tooLarge => exact .tooLarge

/-- The outcome is the text of the given characters if the positions lie within the text that it is
cut out of, and their refusal if they do not. -/
def IsSlice (o : Outcome Value) (within : Prop) (cs : List Char) : Prop :=
  (within → o = .ok (.string (String.ofList cs))) ∧ (¬ within → o.OutsideText)

end Outcome

/-- Every integer is read as what it is, save for the ones that a signed integer does not hold. -/
theorem positionArgument_integer (name : String) (n : Integer) :
    Catalog.positionArgument name n.value = .ok n.toInt ∨
      2 ^ 63 ≤ n.toInt ∧
        Catalog.positionArgument name n.value = .error (.expected name "long" .uint) := by
  cases n with
  | signed n => exact .inl rfl
  | unsigned n =>
    rcases int64?_unsigned n with ⟨m, hm, hvalue⟩ | ⟨hlarge, hnone⟩
    · have hread : (Value.uint n).int? = some m := hm
      rw [Integer.value, Catalog.positionArgument, hread]
      exact .inl (congrArg Except.ok hvalue)
    · have hread : (Value.uint n).int? = none := hnone
      rw [Integer.value, Catalog.positionArgument, hread]
      exact .inr ⟨by rw [Integer.toInt]; omega, rfl⟩

/-- An integer is taken for a position exactly where it lies within the limit. -/
theorem positionUpTo_integer {limit : Nat} (hlimit : limit < 2 ^ 63) (n : Integer) :
    (0 ≤ n.toInt ∧ n.toInt ≤ limit →
      Catalog.positionUpTo limit "String.Substring" n.value = .ok n.toInt.toNat) ∧
    (¬ (0 ≤ n.toInt ∧ n.toInt ≤ limit) →
      (Catalog.positionUpTo limit "String.Substring" n.value).OutsideText) := by
  rw [Catalog.positionUpTo]
  rcases positionArgument_integer "String.Substring" n with hread | ⟨hlarge, hread⟩
  · rw [hread, Except.bind]
    exact ⟨fun h => if_pos h, fun h => by rw [if_neg h]; exact .outside⟩
  · -- no limit is that large
    rw [hread]
    exact ⟨fun h => by omega, fun _ => .tooLarge⟩

theorem slice_eq {cs : List Char} {p n : Nat} (h : p + n ≤ cs.length) :
    Catalog.slice cs p n = .ok (.string (String.ofList ((cs.drop p).take n))) :=
  if_pos h

/-- A number of characters from a position on. -/
theorem substring_isSlice (hs : s.length < 2 ^ 63) (start length : Integer) :
    Outcome.IsSlice (Catalog.substring (.string s) start.value length.value)
      (0 ≤ start.toInt ∧ 0 ≤ length.toInt ∧ start.toInt + length.toInt ≤ s.length)
      ((s.toList.drop start.toInt.toNat).take length.toInt.toNat) := by
  rw [← String.length_toList] at hs ⊢
  have heval : Catalog.substring (.string s) start.value length.value =
      (Catalog.positionUpTo s.toList.length "String.Substring" start.value).bind fun p =>
        (Catalog.positionUpTo (s.toList.length - p) "String.Substring" length.value).bind
          fun n => Catalog.slice s.toList p n := rfl
  rw [heval]
  obtain ⟨hstart, houtside⟩ := positionUpTo_integer hs start
  by_cases hp : 0 ≤ start.toInt ∧ start.toInt ≤ s.toList.length
  · rw [hstart hp, Except.bind]
    -- the rest of the text is the limit of the length
    have hrest : s.toList.length - start.toInt.toNat < 2 ^ 63 := by omega
    obtain ⟨hlength, hbeyond⟩ := positionUpTo_integer hrest length
    constructor
    · intro h
      rw [hlength (by omega), Except.bind]
      exact slice_eq (by omega)
    · exact fun h => (hbeyond (by omega)).bind _
  · exact ⟨fun h => absurd (by omega) hp, fun _ => (houtside hp).bind _⟩

/-- All characters from a position on. -/
theorem substringFrom_isSlice (hs : s.length < 2 ^ 63) (start : Integer) :
    Outcome.IsSlice (Catalog.substringFrom (.string s) start.value)
      (0 ≤ start.toInt ∧ start.toInt ≤ s.length) (s.toList.drop start.toInt.toNat) := by
  rw [← String.length_toList] at hs ⊢
  have heval : Catalog.substringFrom (.string s) start.value =
      (Catalog.positionUpTo s.toList.length "String.Substring" start.value).bind fun p =>
        Catalog.slice s.toList p (s.toList.length - p) := rfl
  rw [heval]
  obtain ⟨hstart, houtside⟩ := positionUpTo_integer hs start
  refine ⟨fun h => ?_, fun h => (houtside h).bind _⟩
  rw [hstart h, Except.bind, slice_eq (by omega), List.take_of_length_le (by rw [List.length_drop])]

/-! ## What is found is cut out -/

/-- Searching finds `needle` at position `i` of the text `s`, and it can be cut out there. -/
structure FoundAt (s : String) (v : Value) (needle : List Char) (i : Nat) : Prop where
  least : IsLeast {p | OccursAt needle s.toList p} i
  indexOf : ∃ n : Int64, n.toInt = i ∧
    Registry.standard.use "IndexOf" false (.string s) [v] = .ok (.int n)
  contained : Registry.standard.use "Contains" false (.string s) [v] = .ok (.bool true)
  startsWith : Registry.standard.use "StartsWith" false (.string s) [v] = .ok (.bool (i == 0))
  recovered (start length : Integer) : start.toInt = i → length.toInt = needle.length →
    Registry.standard.use "Substring" false (.string s) [start.value, length.value] =
      .ok (.string (String.ofList needle))

/-- Searching finds `needle` nowhere in the text `s`. -/
structure Absent (s : String) (v : Value) (needle : List Char) : Prop where
  nowhere : ∀ p, ¬ OccursAt needle s.toList p
  indexOf : Registry.standard.use "IndexOf" false (.string s) [v] = .ok (.int (-1))
  notContained : Registry.standard.use "Contains" false (.string s) [v] = .ok (.bool false)
  notStart : Registry.standard.use "StartsWith" false (.string s) [v] = .ok (.bool false)

theorem foundAt_of_indexOf? (hs : s.length < 2 ^ 63) (hv : v.searched? = some needle)
    (h : indexOf? needle s.toList = some i) : FoundAt s v needle i := by
  obtain ⟨hcontains, hstarts, hindex⟩ := use_searching (s := s) hv
  have hleast := isLeast_of_indexOf? h
  have hwithin := hleast.1.le
  rw [String.length_toList] at hwithin
  constructor
  case least => exact hleast
  case indexOf =>
    rw [hindex, h]
    exact ⟨Int64.ofNat i, Int64.toInt_ofNat_of_lt (by omega), rfl⟩
  case contained => rw [hcontains, occursIn, h, Option.isSome_some]
  case startsWith =>
    have hzero : needle.isPrefixOf s.toList = (i == 0) := by
      rw [Bool.eq_iff_iff, beq_iff_eq, List.isPrefixOf_iff_prefix, ← occursAt_zero]
      exact ⟨fun hfront => Nat.le_zero.1 (hleast.2 hfront), fun hi => hi ▸ hleast.1⟩
    rw [hstarts, hzero]
  case recovered =>
    intro start length hstart hlength
    have hslice := (substring_isSlice hs start length).1 (by omega)
    rw [hstart, hlength, Int.toNat_natCast, Int.toNat_natCast, hleast.1.take_drop] at hslice
    exact hslice

theorem absent_of_indexOf? (hv : v.searched? = some needle)
    (h : indexOf? needle s.toList = none) : Absent s v needle := by
  obtain ⟨hcontains, hstarts, hindex⟩ := use_searching (s := s) hv
  have hnowhere := not_occursAt_of_indexOf? h
  constructor
  case nowhere => exact hnowhere
  case indexOf => rw [hindex, h, Value.ofPosition?]
  case notContained => rw [hcontains, occursIn, h, Option.isSome_none]
  case notStart =>
    have hprefix : needle.isPrefixOf s.toList = false := by
      rw [Bool.eq_false_iff, ne_eq, List.isPrefixOf_iff_prefix, ← occursAt_zero]
      exact hnowhere 0
    rw [hstarts, hprefix]

/-- Positions in texts count characters, wherever they come from. A text or a character is found at
the least position at which it occurs, or at none; what is found can be cut out again, and it is a
prefix if it is found at the front. Positions that lie within the text cut out the characters
between them and all others are refused, whatever integers they are. A text has fewer than `2 ^ 63`
characters, so that they can be counted at all. -/
theorem text_positions (s : String) (hs : s.length < 2 ^ 63) :
    (∃ n : Int64, n.toInt = s.length ∧
      Registry.standard.use "Length" true (.string s) [] = .ok (.int n)) ∧
    (∀ v needle, v.searched? = some needle → (∃ i, FoundAt s v needle i) ∨ Absent s v needle) ∧
    (∀ start length : Integer, Outcome.IsSlice
      (Registry.standard.use "Substring" false (.string s) [start.value, length.value])
      (0 ≤ start.toInt ∧ 0 ≤ length.toInt ∧ start.toInt + length.toInt ≤ s.length)
      ((s.toList.drop start.toInt.toNat).take length.toInt.toNat)) ∧
    (∀ start : Integer, Outcome.IsSlice
      (Registry.standard.use "Substring" false (.string s) [start.value])
      (0 ≤ start.toInt ∧ start.toInt ≤ s.length) (s.toList.drop start.toInt.toNat)) ∧
    ∀ i : Integer, 0 ≤ i.toInt → i.toInt ≤ s.length → ∃ front back,
      Registry.standard.use "Substring" false (.string s) [.int 0, i.value] =
        .ok (.string front) ∧
      Registry.standard.use "Substring" false (.string s) [i.value] = .ok (.string back) ∧
      front ++ back = s := by
  refine ⟨⟨Int64.ofNat s.length, Int64.toInt_ofNat_of_lt hs, ?_⟩, fun v needle hv => ?_,
    substring_isSlice hs, substringFrom_isSlice hs, fun i hlow hhigh => ?_⟩
  · rw [← String.length_toList]
    rfl
  · cases h : indexOf? needle s.toList with
    | some i => exact .inl ⟨i, foundAt_of_indexOf? hs hv h⟩
    | none => exact .inr (absent_of_indexOf? hv h)
  · have hzero : (Integer.signed 0).toInt = 0 := rfl
    have hfront := (substring_isSlice hs (.signed 0) i).1 (by omega)
    have hback := (substringFrom_isSlice hs i).1 (by omega)
    refine ⟨_, _, hfront, hback, ?_⟩
    rw [hzero, Int.toNat_zero, List.drop_zero, ← String.ofList_append, List.take_append_drop,
      String.ofList_toList]

/-- A character is counted once, however many bytes it takes: `"héllo"` has five, and what follows
`'é'` is found at position 2. -/
theorem text_positions_accented :
    "héllo".length < 2 ^ 63 ∧ FoundAt "héllo" (.string "l") ['l'] 2 := by
  have hs : "héllo".length < 2 ^ 63 := by decide
  obtain ⟨-, hsearch, -⟩ := text_positions "héllo" hs
  refine ⟨hs, ?_⟩
  rcases hsearch (.string "l") ['l'] rfl with ⟨i, hfound⟩ | habsent
  · obtain ⟨n, hn, hindex⟩ := hfound.indexOf
    have hgiven : Registry.standard.use "IndexOf" false (.string "héllo") [.string "l"] =
        .ok (.int 2) := rfl
    rw [hgiven] at hindex
    cases hindex
    obtain rfl : 2 = i := Int.ofNat.inj hn
    exact hfound
  · cases habsent.notContained

end GatedPredicate
