import GatedPredicate.Number.DoubleText
import GatedPredicate.Number.Word
import GatedPredicate.Text.Blank
import Mathlib.Data.List.Basic
import Mathlib.Order.Lattice.Nat

/-!
# Runs of characters and numerals

Readers take the longest run of characters of a class. A run is taken whole where what follows does
not continue it. The digits of a number are read back as that number.

- `takeWhile_until`, `dropWhile_until`: a run and what follows it
- `trimChars_of_ends`: text without blanks at its ends
- `numeral_digits`, `numeral_toDigits`: the value of digits
- `decimalNumeral?_eq_some`, `decimalNumeral?_toDigits`: decimal numerals
- `int64?_eq_some`, `uint64?_eq_some`: narrowing
- `readInt64?_eq`, `readUInt64?_eq_some`: readers of machine integers split a sign off first
-/

namespace GatedPredicate.Text

/-! ## Runs -/

section Runs

variable {p : Char → Bool} {cs rest : List Char}

/-- Characters of a class are taken up to the first one that is not in it. -/
theorem takeWhile_until (hcs : ∀ c ∈ cs, p c = true) (hrest : ∀ c ∈ rest.head?, p c = false) :
    (cs ++ rest).takeWhile p = cs := by
  rw [List.takeWhile_append_of_pos hcs]
  cases rest with
  | nil => simp
  | cons c more => simp [hrest c rfl]

theorem dropWhile_until (hcs : ∀ c ∈ cs, p c = true) (hrest : ∀ c ∈ rest.head?, p c = false) :
    (cs ++ rest).dropWhile p = rest := by
  rw [List.dropWhile_append_of_pos hcs]
  cases rest with
  | nil => simp
  | cons c more => simp [hrest c rfl]

/-- What is left after a run does not continue it. -/
theorem head_dropWhile (p : Char → Bool) (cs : List Char) :
    ∀ c ∈ (cs.dropWhile p).head?, p c = false := by
  intro c hc
  have hstop := List.head?_dropWhile_not p cs
  rwa [hc] at hstop

/-- A character that stands before the end of the front of a text is in that front. -/
theorem mem_front {front tail : List Char} {c : Char} (h : front ++ tail = cs ++ c :: rest)
    (hlength : cs.length < front.length) : c ∈ front := by
  have hc : (front ++ tail)[cs.length]? = some c := by
    rw [h]
    simp
  rw [List.getElem?_append_left hlength] at hc
  exact List.mem_of_getElem? hc

end Runs

/-! ## Blanks -/

theorem length_trimChars_le (cs : List Char) : (trimChars cs).length ≤ cs.length := by
  have hfront := (List.dropWhile_sublist isBlank (l := cs)).length_le
  have hback := (List.dropWhile_sublist isBlank (l := (cs.dropWhile isBlank).reverse)).length_le
  simp only [trimChars, trimBack, trimFront, List.length_reverse] at hback ⊢
  omega

theorem trimFront_of_head {cs : List Char} (h : ∀ c ∈ cs.head?, isBlank c = false) :
    trimFront cs = cs :=
  dropWhile_until (fun _ hc => nomatch List.not_mem_nil hc) h

/-- A text with no blank at either end is not trimmed. -/
theorem trimChars_of_ends {cs : List Char} (hhead : ∀ c ∈ cs.head?, isBlank c = false)
    (hlast : ∀ c ∈ cs.getLast?, isBlank c = false) : trimChars cs = cs := by
  have hback : ∀ c ∈ cs.reverse.head?, isBlank c = false := by simpa using hlast
  rw [trimChars, trimFront_of_head hhead, trimBack, trimFront_of_head hback, List.reverse_reverse]

/-- A trimmed text does not begin with a blank. -/
theorem head_trimChars (cs : List Char) : ∀ c ∈ (trimChars cs).head?, isBlank c = false := by
  obtain ⟨ending, hending⟩ : trimChars cs <+: trimFront cs := by
    rw [← List.reverse_suffix, trimChars, trimBack, List.reverse_reverse]
    exact List.dropWhile_suffix _
  intro c hc
  refine head_dropWhile isBlank cs c ?_
  rw [← trimFront, ← hending]
  exact List.mem_head?_append_of_mem_head? hc

/-! ## Digits -/

/-- The value of a run of digits. -/
theorem numeral_digits {ds : List Char} (h : ∀ c ∈ ds, c.isDigit = true) :
    numeral 10 ds = Nat.ofDigitChars 10 ds 0 := by
  refine List.foldl_ext _ _ _ fun total c hc => ?_
  obtain ⟨hlow, hhigh⟩ := Char.isDigit_iff_toNat.1 (h c hc)
  have hvalue : digitValue c = c.toNat - '0'.toNat := by
    have hrange : '0' ≤ c ∧ c ≤ '9' := ⟨Char.le_def.2 hlow, Char.le_def.2 hhigh⟩
    simp [digitValue, hexDigit?, hrange]
  rw [hvalue, Nat.mul_comm]

theorem decimalNumeral?_eq_some {cs : List Char} {n : Nat} :
    decimalNumeral? cs = some n ↔ cs ≠ [] ∧ (∀ c ∈ cs, c.isDigit = true) ∧ numeral 10 cs = n := by
  rw [decimalNumeral?, Option.ite_none_right_eq_some]
  simp [and_assoc]

/-- A character that is no digit makes a text no numeral. -/
theorem decimalNumeral?_eq_none {cs : List Char} {c : Char} (hc : c ∈ cs)
    (hdigit : c.isDigit = false) : decimalNumeral? cs = none := by
  rw [Option.eq_none_iff_forall_ne_some]
  intro n hn
  rw [(decimalNumeral?_eq_some.1 hn).2.1 c hc] at hdigit
  cases hdigit

theorem isAlpha_of_isDigit {c : Char} (h : c.isDigit = true) : c.isAlpha = false := by
  have hhigh : c.toNat ≤ '9'.toNat := (Char.isDigit_iff_toNat.1 h).2
  have hbefore (d : Char) (hd : '9' < d) : ¬ d.val ≤ c.val := fun hle =>
    Nat.lt_irrefl _ (Nat.lt_of_le_of_lt hhigh (Nat.lt_of_lt_of_le hd hle))
  -- the letters of either case come after the digits
  have hupper : c.isUpper = false := decide_eq_false fun hc => hbefore 'A' (by decide) hc.1
  have hlower : c.isLower = false :=
    Bool.and_eq_false_iff.2 (.inl (decide_eq_false (hbefore 'a' (by decide))))
  exact Bool.or_eq_false_iff.2 ⟨hupper, hlower⟩

theorem isBlank_of_isDigit {c : Char} (h : c.isDigit = true) : isBlank c = false := by
  obtain ⟨hlow, hhigh⟩ := Char.isDigit_iff_toNat.1 h
  simp only [isBlank]
  simp at hlow hhigh ⊢
  omega

/-! ## Numerals of a radix -/

theorem numeral_concat (radix : Nat) (cs : List Char) (c : Char) :
    numeral radix (cs ++ [c]) = numeral radix cs * radix + digitValue c := by
  rw [numeral, List.foldl_append]
  rfl

/-- Zeros in front do not count. -/
theorem numeral_zeros (radix k : Nat) (cs : List Char) :
    numeral radix (Number.zeros k ++ cs) = numeral radix cs := by
  have hzeros : numeral radix (Number.zeros k) = 0 := by
    induction k with
    | zero => rfl
    | succ k ih =>
      rw [Number.zeros, List.replicate_succ', numeral_concat, ← Number.zeros, ih, Nat.zero_mul]
      rfl
  unfold numeral at hzeros ⊢
  rw [List.foldl_append, hzeros]

/-- The digit of a number below sixteen has that value. -/
theorem digitValue_digitChar {k : Nat} (h : k < 16) : digitValue k.digitChar = k := by
  have hall : ∀ k ∈ List.range 16, digitValue k.digitChar = k := by decide
  exact hall k (List.mem_range.2 h)

/-- The digits of a number in a radix are read back. -/
theorem numeral_toDigits {radix : Nat} (hlow : 1 < radix) (hhigh : radix ≤ 16) (n : Nat) :
    numeral radix (Nat.toDigits radix n) = n := by
  induction n using Nat.strongRecOn with
  | ind n ih =>
    -- the digits grow at their end, where the fold takes its last step
    rcases Nat.lt_or_ge n radix with hsmall | hlarge
    · rw [Nat.toDigits_of_lt_base hsmall]
      simp [numeral, digitValue_digitChar (hsmall.trans_le hhigh)]
    · have hmod : n % radix < radix := Nat.mod_lt n (by omega)
      rw [Nat.toDigits_of_base_le hlow hlarge, numeral_concat,
        ih _ (Nat.div_lt_self (by omega) hlow), digitValue_digitChar (hmod.trans_le hhigh),
        Nat.div_add_mod']

/-- The digits of a number in a radix are digits of that radix. -/
theorem exists_of_mem_toDigits {radix : Nat} (hlow : 1 < radix) {n : Nat} {c : Char}
    (h : c ∈ Nat.toDigits radix n) : ∃ k < radix, c = k.digitChar := by
  induction n using Nat.strongRecOn with
  | ind n ih =>
    rcases Nat.lt_or_ge n radix with hsmall | hlarge
    · rw [Nat.toDigits_of_lt_base hsmall, List.mem_singleton] at h
      exact ⟨n, hsmall, h⟩
    · rw [Nat.toDigits_of_base_le hlow hlarge, List.mem_append, List.mem_singleton] at h
      rcases h with hfront | hlast
      · exact ih _ (Nat.div_lt_self (by omega) hlow) hfront
      · exact ⟨n % radix, Nat.mod_lt n (by omega), hlast⟩

theorem isDigit_of_mem_toDigits {n : Nat} {c : Char} (h : c ∈ Nat.toDigits 10 n) :
    c.isDigit = true :=
  Nat.isDigit_of_mem_toDigits (by decide) (by decide) h

/-- The digits of a number are read back. -/
theorem decimalNumeral?_toDigits (n : Nat) : decimalNumeral? (Nat.toDigits 10 n) = some n := by
  exact decimalNumeral?_eq_some.2 ⟨Nat.toDigits_ne_nil, fun _ => isDigit_of_mem_toDigits,
    numeral_toDigits (by decide) (by decide) n⟩

end GatedPredicate.Text

namespace GatedPredicate.Number

open GatedPredicate.Text

/-! ## Machine integers -/

theorem int64?_eq_some {z : Int} {n : Int64} : int64? z = some n ↔ n.toInt = z := by
  unfold int64?
  constructor
  · intro h
    split at h
    · rename_i hrange
      rw [← Option.some.inj h, Int64.toInt_ofInt_of_le hrange.1 hrange.2]
    · cases h
  · rintro rfl
    rw [if_pos ⟨Int64.le_toInt n, Int64.toInt_lt n⟩, Int64.ofInt_toInt]

theorem uint64?_eq_some {z : Nat} {n : UInt64} : uint64? z = some n ↔ n.toNat = z := by
  unfold uint64?
  constructor
  · intro h
    split at h
    · rename_i hrange
      have hlt : z < 2 ^ 64 := by exact_mod_cast hrange.2
      rw [← Option.some.inj h, Int.toNat_natCast, UInt64.toNat_ofNat_of_lt' hlt]
    · cases h
  · rintro rfl
    rw [if_pos ⟨Int.natCast_nonneg _, by exact_mod_cast UInt64.toNat_lt n⟩, Int.toNat_natCast,
      UInt64.ofNat_toNat]

theorem splitSign_of_head {cs : List Char} (h : ∀ c ∈ cs.head?, c ≠ '-' ∧ c ≠ '+') :
    splitSign cs = (false, cs) := by
  refine splitSign.eq_3 cs ?_ ?_
  · rintro rest rfl
    exact (h '-' rfl).1 rfl
  · rintro rest rfl
    exact (h '+' rfl).2 rfl

/-- Text that begins with a digit has no sign. -/
theorem splitSign_digits {ds : List Char} (hne : ds ≠ []) (hds : ∀ d ∈ ds, d.isDigit = true)
    (rest : List Char) : splitSign (ds ++ rest) = (false, ds ++ rest) := by
  obtain ⟨d, more, rfl⟩ := List.exists_cons_of_ne_nil hne
  have hdigit := hds d List.mem_cons_self
  refine splitSign_of_head ?_
  rintro c ⟨⟩
  constructor <;> rintro rfl <;> cases hdigit

theorem splitSign_of_digits {ds : List Char} (hne : ds ≠ [])
    (hds : ∀ d ∈ ds, d.isDigit = true) : splitSign ds = (false, ds) := by
  have hsplit := splitSign_digits hne hds []
  rwa [List.append_nil] at hsplit

theorem mem_of_mem_splitSign {cs : List Char} {c : Char} (h : c ∈ (splitSign cs).2) : c ∈ cs := by
  unfold splitSign at h
  split at h
  · exact List.mem_cons_of_mem _ h
  · exact List.mem_cons_of_mem _ h
  · exact h

/-- Everything behind the first character of a text stands behind its sign. -/
theorem mem_splitSign_of_mem_drop {cs : List Char} {c : Char} (h : c ∈ cs.drop 1) :
    c ∈ (splitSign cs).2 := by
  unfold splitSign
  split
  · exact h
  · exact h
  · exact List.mem_of_mem_drop h

/-- A signed numeral is a sign and digits. -/
theorem readInt64?_eq (cs : List Char) :
    readInt64? cs = (decimalNumeral? (splitSign cs).2).bind fun n =>
      int64? (if (splitSign cs).1 then -(n : Int) else n) := by
  unfold readInt64? readSigned?
  split
  · rename_i digits
    rw [splitSign.eq_1]
    cases decimalNumeral? digits <;> rfl
  · rename_i digits
    rw [splitSign.eq_2]
    cases decimalNumeral? digits <;> rfl
  · rename_i hminus hplus
    rw [splitSign.eq_3 cs hminus hplus]
    cases decimalNumeral? cs <;> rfl

/-- An unsigned numeral is an optional plus sign and digits. -/
theorem readUInt64?_eq_some {cs : List Char} {n : UInt64} :
    readUInt64? cs = some n ↔
      (splitSign cs).1 = false ∧ decimalNumeral? (splitSign cs).2 = some n.toNat := by
  have hdigits (ds : List Char) :
      ((decimalNumeral? ds).bind fun k => uint64? k) = some n ↔
        decimalNumeral? ds = some n.toNat := by
    cases decimalNumeral? ds with
    | none => simp
    | some k => rw [Option.bind_some, uint64?_eq_some, Option.some_inj, eq_comm]
  unfold readUInt64?
  split
  · rename_i digits
    rw [splitSign.eq_2, hdigits]
    exact (and_iff_right rfl).symm
  · rename_i hplus
    rw [hdigits]
    unfold splitSign
    split
    · -- a minus sign is no digit
      rw [decimalNumeral?_eq_none List.mem_cons_self rfl]
      exact iff_of_false nofun fun h => Bool.noConfusion h.1
    · exact absurd rfl (hplus _)
    · exact (and_iff_right rfl).symm

/-- No hyphen stands in an unsigned numeral, not even as a sign. -/
theorem readUInt64?_eq_none {cs : List Char} (h : '-' ∈ cs) : readUInt64? cs = none := by
  unfold readUInt64?
  split
  · rename_i digits
    have hdigits : '-' ∈ digits := List.mem_of_ne_of_mem (by decide) h
    rw [decimalNumeral?_eq_none hdigits rfl]
    rfl
  · rw [decimalNumeral?_eq_none h rfl]
    rfl

/-- A text that is read as a small unsigned integer is read as the same signed one. -/
theorem readInt64?_of_readUInt64? {cs : List Char} {n : UInt64} (h : readUInt64? cs = some n)
    (hsmall : n.toNat < 2 ^ 63) : readInt64? cs = some (Int64.ofNat n.toNat) := by
  obtain ⟨hsign, hdigits⟩ := readUInt64?_eq_some.1 h
  rw [readInt64?_eq, hdigits, hsign, Option.bind_some, if_neg (by decide), int64?_eq_some,
    Int64.toInt_ofNat_of_lt hsmall]

end GatedPredicate.Number
