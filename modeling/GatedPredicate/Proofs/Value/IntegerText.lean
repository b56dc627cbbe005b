import GatedPredicate.Proofs.Value.Cascade

/-!
# Integers in text

Which texts become integers, and which ones. Four stages of different widths read the same digits,
one after another; a text that they read is told apart by its value alone, however many zeros it
begins with, and the two narrow stages could as well be missing.

- `IsDigitsOf`, `SpellsUnsigned`, `SpellsInteger`: digits with and without a sign
- `readInt64?_iff`, `readUInt64?_iff`: what the readers accept
- `coerceText_eq_wide`: the stages for bytes and 32 bits change nothing
- `coerced_integers_exact`
-/

namespace GatedPredicate

open GatedPredicate.Number GatedPredicate.Text

variable {options : CoercionOptions} {s : String} {cs ds : List Char} {n : Nat} {z : Int}

/-! ## Spellings -/

/-- One or more decimal digits with the value `n`. -/
structure IsDigitsOf (n : Nat) (ds : List Char) : Prop where
  nonempty : ds ≠ []
  digits : ∀ d ∈ ds, d.isDigit = true
  value : Nat.ofDigitChars 10 ds 0 = n

/-- Digits, or a plus sign and digits. -/
inductive SpellsUnsigned (n : Nat) : List Char → Prop
  | bare {ds : List Char} : IsDigitsOf n ds → SpellsUnsigned n ds
  | plus {ds : List Char} : IsDigitsOf n ds → SpellsUnsigned n ('+' :: ds)

/-- Digits, or a sign of either kind and digits. -/
inductive SpellsInteger : Int → List Char → Prop
  | unsigned {n : Nat} {cs : List Char} : SpellsUnsigned n cs → SpellsInteger n cs
  | minus {n : Nat} {ds : List Char} : IsDigitsOf n ds → SpellsInteger (-n) ('-' :: ds)

theorem decimalNumeral?_iff : decimalNumeral? ds = some n ↔ IsDigitsOf n ds := by
  rw [decimalNumeral?_eq_some]
  constructor
  · rintro ⟨hne, hdigits, hvalue⟩
    exact ⟨hne, hdigits, by rw [← numeral_digits hdigits, hvalue]⟩
  · rintro ⟨hne, hdigits, hvalue⟩
    exact ⟨hne, hdigits, by rw [numeral_digits hdigits, hvalue]⟩

/-- Without a minus sign, what follows the sign is digits. -/
theorem spellsUnsigned_iff :
    SpellsUnsigned n cs ↔ (splitSign cs).1 = false ∧ IsDigitsOf n (splitSign cs).2 := by
  constructor
  · intro h
    cases h with
    | bare hds =>
      rw [splitSign_of_digits hds.nonempty hds.digits]
      exact ⟨rfl, hds⟩
    | plus hds => exact ⟨rfl, hds⟩
  · rintro ⟨hsign, hds⟩
    unfold splitSign at hsign hds
    split at hds
    · cases hsign
    · exact .plus hds
    · exact .bare hds

theorem spellsInteger_iff :
    SpellsInteger z cs ↔
      ∃ n : Nat, IsDigitsOf n (splitSign cs).2 ∧
        (if (splitSign cs).1 then -(n : Int) else n) = z := by
  constructor
  · intro h
    cases h with
    | unsigned hcs =>
      obtain ⟨hsign, hds⟩ := spellsUnsigned_iff.1 hcs
      exact ⟨_, hds, by rw [hsign, if_neg Bool.false_ne_true]⟩
    | minus hds => exact ⟨_, hds, rfl⟩
  · rintro ⟨n, hds, rfl⟩
    cases hsign : (splitSign cs).1 with
    | false => exact .unsigned (spellsUnsigned_iff.2 ⟨hsign, hds⟩)
    | true =>
      unfold splitSign at hsign hds
      split at hsign
      · exact .minus hds
      · cases hsign
      · cases hsign

/-- A text spells one integer at most. -/
theorem SpellsInteger.unique {z' : Int} (h : SpellsInteger z cs) (h' : SpellsInteger z' cs) :
    z = z' := by
  obtain ⟨n, hn, rfl⟩ := spellsInteger_iff.1 h
  obtain ⟨n', hn', rfl⟩ := spellsInteger_iff.1 h'
  rw [hn.value.symm.trans hn'.value]

/-! ## Readers -/

/-- The reader of signed integers accepts the spellings of those in range. -/
theorem readInt64?_iff {n : Int64} : readInt64? cs = some n ↔ SpellsInteger n.toInt cs := by
  rw [readInt64?_eq, Option.bind_eq_some_iff, spellsInteger_iff]
  refine exists_congr fun k => ?_
  rw [decimalNumeral?_iff, int64?_eq_some, eq_comm (a := n.toInt)]

/-- The reader of unsigned integers accepts the spellings of those in range. -/
theorem readUInt64?_iff {n : UInt64} : readUInt64? cs = some n ↔ SpellsUnsigned n.toNat cs := by
  rw [readUInt64?_eq_some, spellsUnsigned_iff, decimalNumeral?_iff]

/-! ## Stages -/

/-- The stage for unsigned integers decides where the signed ones end. -/
theorem coerceText_eq_uint_iff {n : UInt64} :
    coerceText options s = .uint n ↔
      readUInt64? (trimChars s.toList) = some n ∧ 2 ^ 63 ≤ n.toNat := by
  constructor
  · intro h
    cases denotes_of_coerceText h with
    | uint hn =>
      refine ⟨hn, ?_⟩
      by_contra hsmall
      have hread := readInt64?_of_readUInt64? hn (by omega)
      have hint : coerceText options s = .int _ := coerceText_eq_int_iff.2 hread
      rw [h] at hint
      cases hint
  · rintro ⟨hn, hlarge⟩
    exact coerceText_eq_uint hn hlarge

/-- The cascade without its stages for bytes and for 32 bits. -/
def wideCascade (options : CoercionOptions) : List Stage :=
  boolStage :: (cascade options).drop 3

/-- The stages for bytes and for 32 bits give what the one for 64 bits would. -/
theorem coerceText_eq_wide (options : CoercionOptions) (s : String) :
    coerceText options s =
      ((wideCascade options).findSome? fun stage => stage s.toList).getD (.string s) := by
  have hdrop : (cascade options).drop 3 = int64Stage :: (cascade options).drop 4 := rfl
  have hcascade : cascade options =
      boolStage :: byteStage :: int32Stage :: (cascade options).drop 3 := rfl
  cases hn : readInt64? (trimChars s.toList) with
  | none =>
    have hbyte : byteStage s.toList = none := by
      rw [Option.eq_none_iff_forall_ne_some]
      intro v hv
      obtain ⟨k, -, hk⟩ := byteStage_eq_some hv
      rw [hn] at hk
      cases hk
    have hint32 : int32Stage s.toList = none := by rw [int32Stage, hn, Option.bind_none]
    rw [coerceText, hcascade, wideCascade]
    simp only [List.findSome?_cons, hbyte, hint32]
  | some n =>
    have hbool : boolStage s.toList = none := by
      rw [readInt64?_eq] at hn
      obtain ⟨k, hk, -⟩ := Option.bind_eq_some_iff.1 hn
      rw [boolStage, readBool?_eq_none_of_numeral hk, Option.map_none]
    have hint64 : int64Stage s.toList = some (.int n) := by rw [int64Stage, hn, Option.map_some]
    rw [coerceText_eq_int_iff.2 hn, wideCascade, hdrop]
    simp only [List.findSome?_cons, hbool, hint64, Option.getD_some]

/-! ## Texts -/

theorem coerceText_int_range :
    (∃ n : Int64, n.toInt = z ∧ coerceText options s = .int n) ↔
      SpellsInteger z (trimChars s.toList) ∧
        Int64.minValue.toInt ≤ z ∧ z ≤ Int64.maxValue.toInt := by
  have hmin : Int64.minValue.toInt = -2 ^ 63 := rfl
  have hmax : Int64.maxValue.toInt = 2 ^ 63 - 1 := rfl
  constructor
  · rintro ⟨n, rfl, hn⟩
    rw [coerceText_eq_int_iff, readInt64?_iff] at hn
    have hlow := Int64.le_toInt n
    have hhigh := Int64.toInt_lt n
    exact ⟨hn, by omega, by omega⟩
  · rintro ⟨hz, hlow, hhigh⟩
    have hvalue : (Int64.ofInt z).toInt = z := Int64.toInt_ofInt_of_le (by omega) (by omega)
    refine ⟨Int64.ofInt z, hvalue, ?_⟩
    rw [coerceText_eq_int_iff, readInt64?_iff, hvalue]
    exact hz

theorem coerceText_uint_range :
    (∃ m : UInt64, m.toNat = n ∧ coerceText options s = .uint m) ↔
      SpellsUnsigned n (trimChars s.toList) ∧ Int64.maxValue.toInt < n ∧ n < 2 ^ 64 := by
  have hmax : Int64.maxValue.toInt = 2 ^ 63 - 1 := rfl
  constructor
  · rintro ⟨m, rfl, hm⟩
    obtain ⟨hread, hlarge⟩ := coerceText_eq_uint_iff.1 hm
    have hlt := UInt64.toNat_lt m
    exact ⟨readUInt64?_iff.1 hread, by omega, hlt⟩
  · rintro ⟨hn, hlow, hhigh⟩
    have hvalue : (UInt64.ofNat n).toNat = n := UInt64.toNat_ofNat_of_lt' hhigh
    refine ⟨UInt64.ofNat n, hvalue, coerceText_eq_uint_iff.2 ⟨?_, by omega⟩⟩
    rw [readUInt64?_iff, hvalue]
    exact hn

/-- A value beyond all integers is none. -/
theorem coerceText_not_integer (hz : SpellsInteger z (trimChars s.toList))
    (hrange : z < Int64.minValue.toInt ∨ 2 ^ 64 ≤ z) :
    (coerceText options s).type ≠ .int ∧ (coerceText options s).type ≠ .uint := by
  have hmin : Int64.minValue.toInt = -2 ^ 63 := rfl
  cases hv : coerceText options s with
  | int n =>
    rw [coerceText_eq_int_iff, readInt64?_iff] at hv
    have hsame := hz.unique hv
    have hlow := Int64.le_toInt n
    have hhigh := Int64.toInt_lt n
    omega
  | uint n =>
    have hsame := hz.unique (.unsigned (readUInt64?_iff.1 (coerceText_eq_uint_iff.1 hv).1))
    have hhigh := UInt64.toNat_lt n
    omega
  | _ => exact ⟨nofun, nofun⟩

/-- A text without its blanks becomes a signed integer exactly where it is a sign of either kind or
none and digits, and their value is in range. It becomes an unsigned one exactly where it is a plus
sign or none and digits, and their value is beyond the signed ones and in range. A text of this
shape with a value beyond both becomes neither. All this would be the same without the stages for
bytes and 32 bits. -/
theorem coerced_integers_exact (options : CoercionOptions) (s : String) :
    (∀ z : Int, (∃ n : Int64, n.toInt = z ∧ coerceText options s = .int n) ↔
      SpellsInteger z (trimChars s.toList) ∧
        Int64.minValue.toInt ≤ z ∧ z ≤ Int64.maxValue.toInt) ∧
    (∀ k : Nat, (∃ n : UInt64, n.toNat = k ∧ coerceText options s = .uint n) ↔
      SpellsUnsigned k (trimChars s.toList) ∧ Int64.maxValue.toInt < k ∧ k < 2 ^ 64) ∧
    (∀ z : Int, SpellsInteger z (trimChars s.toList) →
      z < Int64.minValue.toInt ∨ 2 ^ 64 ≤ z →
      (coerceText options s).type ≠ .int ∧ (coerceText options s).type ≠ .uint) ∧
    coerceText options s =
      ((wideCascade options).findSome? fun stage => stage s.toList).getD (.string s) :=
  ⟨fun _ => coerceText_int_range, fun _ => coerceText_uint_range,
    fun _ => coerceText_not_integer, coerceText_eq_wide options s⟩

/-- The least signed integer with zeros in front, the largest unsigned one, and the first number
beyond it, which is neither. -/
theorem coerced_integers_exact_bounds :
    let least := " -009223372036854775808\n"
    let largest := "+18446744073709551615"
    let beyond := "18446744073709551616"
    (SpellsInteger (-2 ^ 63) (trimChars least.toList) ∧
      ∃ n : Int64, n.toInt = -2 ^ 63 ∧ coerceText .standard least = .int n) ∧
    (SpellsUnsigned (2 ^ 64 - 1) (trimChars largest.toList) ∧
      ∃ n : UInt64, n.toNat = 2 ^ 64 - 1 ∧ coerceText .standard largest = .uint n) ∧
    SpellsInteger (2 ^ 64) (trimChars beyond.toList) ∧
      (coerceText .standard beyond).type ≠ .int ∧ (coerceText .standard beyond).type ≠ .uint := by
  intro least largest beyond
  have hleast : SpellsInteger (-2 ^ 63) (trimChars least.toList) := by
    have hdigits : IsDigitsOf (2 ^ 63) "009223372036854775808".toList :=
      ⟨by simp, by simp, by decide +kernel⟩
    have htrim : trimChars least.toList = '-' :: "009223372036854775808".toList := by
      decide +kernel
    rw [htrim]
    exact_mod_cast SpellsInteger.minus hdigits
  have hlargest : SpellsUnsigned (2 ^ 64 - 1) (trimChars largest.toList) := by
    have hdigits : IsDigitsOf (2 ^ 64 - 1) "18446744073709551615".toList :=
      ⟨by simp, by simp, by decide +kernel⟩
    have htrim : trimChars largest.toList = '+' :: "18446744073709551615".toList := by
      decide +kernel
    rw [htrim]
    exact .plus hdigits
  have hbeyond : SpellsInteger (2 ^ 64) (trimChars beyond.toList) := by
    have hdigits : IsDigitsOf (2 ^ 64) "18446744073709551616".toList :=
      ⟨by simp, by simp, by decide +kernel⟩
    have htrim : trimChars beyond.toList = "18446744073709551616".toList := by decide +kernel
    rw [htrim]
    exact_mod_cast SpellsInteger.unsigned (.bare hdigits)
  refine ⟨⟨hleast, ?_⟩, ⟨hlargest, ?_⟩, hbeyond, ?_⟩
  · exact ((coerced_integers_exact .standard least).1 _).2 ⟨hleast, by decide, by decide⟩
  · exact ((coerced_integers_exact .standard largest).2.1 _).2 ⟨hlargest, by decide, by decide⟩
  · exact (coerced_integers_exact .standard beyond).2.2.1 _ hbeyond (.inr (by decide))

end GatedPredicate
