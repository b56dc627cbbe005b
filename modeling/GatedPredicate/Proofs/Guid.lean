import GatedPredicate.Guid
import GatedPredicate.Proofs.Text.Numerals

/-!
# Identifiers are read back

- `digits`: the 32 digits of an identifier
- `ofGrouped?_groups`: reading the grouped form puts the groups together
- `read?_text`
-/

namespace GatedPredicate

open GatedPredicate.Number GatedPredicate.Text

theorem Text.isBlank_of_isHexDigit {c : Char} (h : isHexDigit c = true) : isBlank c = false := by
  unfold isHexDigit hexDigit? at h
  have hrange : ('0' ≤ c ∧ c ≤ '9') ∨ ('a' ≤ c ∧ c ≤ 'f') ∨ ('A' ≤ c ∧ c ≤ 'F') := by
    by_contra hnone
    simp only [not_or] at hnone
    simp [hnone.1, hnone.2.1, hnone.2.2] at h
  simp only [Char.le_def, UInt32.le_iff_toNat_le] at hrange
  simp only [isBlank]
  simp at hrange ⊢
  omega

theorem Text.isHexDigit_digitChar {k : Nat} (h : k < 16) : isHexDigit k.digitChar = true := by
  have hall : ∀ k ∈ List.range 16, isHexDigit k.digitChar = true := by decide
  exact hall k (List.mem_range.2 h)

namespace Guid

variable (g : Guid)

/-- The digits of an identifier without hyphens. -/
def digits : List Char :=
  zeros (32 - (Nat.toDigits 16 g.bits).length) ++ Nat.toDigits 16 g.bits

theorem length_digits : g.digits.length = 32 := by
  have hlength : (Nat.toDigits 16 g.bits).length ≤ 32 := by
    rw [Nat.length_toDigits_le_iff (by decide) (by decide)]
    exact g.bits_lt
  rw [digits, List.length_append, zeros, List.length_replicate]
  omega

theorem isHexDigit_of_mem_digits {c : Char} (h : c ∈ g.digits) : isHexDigit c = true := by
  rcases List.mem_append.1 h with hzero | hdigit
  · rw [List.eq_of_mem_replicate hzero]
    rfl
  · obtain ⟨k, hk, rfl⟩ := exists_of_mem_toDigits (by decide) hdigit
    exact isHexDigit_digitChar hk

theorem numeral_digits : numeral 16 g.digits = g.bits :=
  (numeral_zeros 16 _ _).trans (numeral_toDigits (by decide) (by decide) g.bits)

/-- The digits denote the identifier. -/
theorem ofDigits?_digits : ofDigits? g.digits = some g := by
  have hall : g.digits.all isHexDigit = true :=
    List.all_eq_true.2 fun c hc => g.isHexDigit_of_mem_digits hc
  have hbits : ofBits g.bits = g := by
    obtain ⟨bits, hlt⟩ := g
    exact Guid.mk.injEq _ _ _ _ ▸ Nat.mod_eq_of_lt hlt
  rw [ofDigits?, if_pos ⟨g.length_digits, hall⟩, g.numeral_digits, hbits]

/-- Reading the grouped form puts the groups together. -/
theorem ofGrouped?_groups {a b c d e : List Char} (ha : a.length = 8) (hb : b.length = 4)
    (hc : c.length = 4) (hd : d.length = 4) (he : e.length = 12) :
    ofGrouped? (a ++ '-' :: b ++ '-' :: c ++ '-' :: d ++ '-' :: e) =
      ofDigits? (a ++ b ++ c ++ d ++ e) := by
  have hhyphens : ∀ i ∈ [8, 13, 18, 23],
      (a ++ '-' :: b ++ '-' :: c ++ '-' :: d ++ '-' :: e)[i]? = some '-' := by
    simp [List.getElem?_append, ha, hb, hc, hd]
  simp only [List.forall_mem_cons] at hhyphens
  obtain ⟨h8, h13, h18, h23, -⟩ := hhyphens
  unfold ofGrouped?
  simp only [h8, h13, h18, h23]
  simp (disch := omega) [List.drop_append, List.drop_eq_nil_of_le, ha, hb, hc, hd, he]

/-- The groups of an identifier: the first one of eight digits, then others with hyphens between
them. -/
theorem text_eq : g.text.toList =
    g.digits.take 8 ++ '-' :: (g.digits.drop 8).take 4 ++ '-' :: (g.digits.drop 12).take 4 ++
      '-' :: (g.digits.drop 16).take 4 ++ '-' :: g.digits.drop 20 :=
  String.toList_ofList

/-- Eight digits and a hyphen stand in front, and another hyphen further on. -/
theorem text_front : ∃ first second rest, g.text.toList = first ++ '-' :: second :: rest ∧
    first.length = 8 ∧ (∀ c ∈ first, isHexDigit c = true) ∧ '-' ∈ rest := by
  have hlength := g.length_digits
  obtain ⟨second, more, hsecond⟩ : ∃ second more, (g.digits.drop 8).take 4 = second :: more :=
    List.exists_cons_of_ne_nil (List.ne_nil_of_length_pos (by simp [hlength]))
  refine ⟨g.digits.take 8, second, more ++ '-' :: ((g.digits.drop 12).take 4 ++
    '-' :: ((g.digits.drop 16).take 4 ++ '-' :: g.digits.drop 20)), ?_, ?_, fun c hc => ?_, ?_⟩
  · simp only [text_eq, hsecond, List.append_assoc, List.cons_append]
  · rw [List.length_take, hlength, min_eq_left (by decide)]
  · exact g.isHexDigit_of_mem_digits (List.mem_of_mem_take hc)
  · simp

/-- The text of an identifier is read as that identifier. -/
theorem read?_text : read? g.text.toList = some g := by
  have hlength := g.length_digits
  have hdigits : g.digits.take 8 ++ (g.digits.drop 8).take 4 ++ (g.digits.drop 12).take 4 ++
      (g.digits.drop 16).take 4 ++ g.digits.drop 20 = g.digits := by
    rw [← List.take_add, ← List.take_add, ← List.take_add, List.take_append_drop]
  have hread : ofGrouped? g.text.toList = some g := by
    rw [text_eq, ofGrouped?_groups (by simp [hlength]) (by simp [hlength]) (by simp [hlength])
      (by simp [hlength]) (by simp [hlength]), hdigits, ofDigits?_digits]
  have htext : g.text.toList.length = 36 := by
    simp [text_eq, hlength]
  rw [read?, htext]
  exact hread

/-- No blank stands at either end of the text of an identifier. -/
theorem trimChars_text : trimChars g.text.toList = g.text.toList := by
  have hlength := g.length_digits
  have hblank (c : Char) (hc : c ∈ g.digits) : isBlank c = false :=
    isBlank_of_isHexDigit (g.isHexDigit_of_mem_digits hc)
  have hfirst : g.digits.take 8 ≠ [] := List.ne_nil_of_length_pos (by simp [hlength])
  have hlast : g.digits.drop 20 ≠ [] := List.ne_nil_of_length_pos (by simp [hlength])
  rw [text_eq]
  refine trimChars_of_ends (fun c hc => ?_) fun c hc => ?_
  · simp only [List.append_assoc, List.head?_append_of_ne_nil _ hfirst] at hc
    exact hblank c (List.mem_of_mem_take (List.mem_of_mem_head? hc))
  · rw [List.getLast?_append_of_ne_nil _ (List.cons_ne_nil _ _),
      List.getLast?_cons_of_ne_nil hlast] at hc
    exact hblank c (List.mem_of_mem_drop (List.mem_of_mem_getLast? hc))

end Guid

end GatedPredicate
