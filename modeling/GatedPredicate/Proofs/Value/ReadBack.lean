import GatedPredicate.Proofs.Guid
import GatedPredicate.Proofs.Time.RoundTrip
import GatedPredicate.Proofs.Value.Conversions
import GatedPredicate.Value.Text

/-!
# Coercion reads back what is written

The text of a truth value, of an integer, of an identifier and of a moment without a fraction is
coerced to that value, and a date to its midnight. The digits that an identifier begins with are no
number, whichever of them are letters: they break off at a letter or at the first hyphen.

- `Guid.breaksOff`, `Guid.read?_text_eq_none`: the stages before the one for identifiers
- `coercion_reads_back`
-/

namespace GatedPredicate

open GatedPredicate.Number GatedPredicate.Text

variable {options : CoercionOptions}

/-! ## Integers -/

/-- Digits after a sign have no blanks around them. -/
theorem trimChars_numeral (sign : List Char) (hsign : ∀ c ∈ sign, isBlank c = false) (n : Nat) :
    trimChars (sign ++ Nat.toDigits 10 n) = sign ++ Nat.toDigits 10 n := by
  have hall : ∀ c ∈ sign ++ Nat.toDigits 10 n, isBlank c = false :=
    List.forall_mem_append.2 ⟨hsign, fun c hc => isBlank_of_isDigit (isDigit_of_mem_toDigits hc)⟩
  exact trimChars_of_ends (fun c hc => hall c (List.mem_of_mem_head? hc))
    fun c hc => hall c (List.mem_of_mem_getLast? hc)

theorem splitSign_toDigits (n : Nat) :
    splitSign (Nat.toDigits 10 n) = (false, Nat.toDigits 10 n) :=
  splitSign_of_digits Nat.toDigits_ne_nil fun _ => isDigit_of_mem_toDigits

theorem readInt64?_chars (n : Int64) : readInt64? (trimChars (Value.int n).chars) = some n := by
  have hchars : (Value.int n).chars =
      (if 0 ≤ n.toInt then [] else ['-']) ++ Nat.toDigits 10 n.toInt.natAbs := by
    rw [Value.chars, Int.toString_eq_repr, Int.repr_eq_if]
    split
    · rw [Nat.toList_repr, List.nil_append]
      congr 1
      omega
    · rw [String.toList_append, Nat.toList_repr]
      congr 2
      omega
  rw [hchars, trimChars_numeral _ (by split <;> simp [isBlank]), readInt64?_eq]
  split
  · rw [List.nil_append, splitSign_toDigits, decimalNumeral?_toDigits, Option.bind_some,
      int64?_eq_some, if_neg Bool.false_ne_true]
    omega
  · rw [List.singleton_append, splitSign, decimalNumeral?_toDigits, Option.bind_some,
      int64?_eq_some, if_pos rfl]
    omega

theorem readUInt64?_chars (n : UInt64) : readUInt64? (trimChars (Value.uint n).chars) = some n := by
  have hchars : (Value.uint n).chars = Nat.toDigits 10 n.toNat := Nat.toList_repr
  have htrim := trimChars_numeral [] nofun n.toNat
  rw [List.nil_append] at htrim
  rw [hchars, htrim, readUInt64?_eq_some, splitSign_toDigits]
  exact ⟨rfl, decimalNumeral?_toDigits n.toNat⟩

/-! ## Identifiers -/

namespace Guid

variable (g : Guid)

theorem splitSign_text : splitSign g.text.toList = (false, g.text.toList) := by
  obtain ⟨first, second, rest, htext, hlength, hhex, -⟩ := g.text_front
  have hne : first ≠ [] := List.ne_nil_of_length_pos (by omega)
  obtain ⟨c, more, rfl⟩ := List.exists_cons_of_ne_nil hne
  have hc := hhex c List.mem_cons_self
  refine splitSign_of_head ?_
  rw [htext]
  rintro d ⟨⟩
  constructor <;> rintro rfl <;> cases hc

/-- The digits break off at the first letter, or at the first hyphen. -/
theorem breaksOff : BreaksOff g.text.toList := by
  obtain ⟨first, second, rest, htext, hlength, hhex, hhyphen⟩ := g.text_front
  have hsplit : (splitSign g.text.toList).2 = first ++ '-' :: second :: rest := by
    rw [splitSign_text, htext]
  have hrun : ∀ d ∈ first.takeWhile Char.isDigit, d.isDigit = true :=
    fun d hd => List.mem_takeWhile_imp hd
  cases hletter : first.dropWhile Char.isDigit with
  | nil =>
    have hdigits : ∀ d ∈ first, d.isDigit = true := List.dropWhile_eq_nil_iff.1 hletter
    exact ⟨first, '-', _, hsplit, hdigits, rfl, by decide, by decide,
      .inl ⟨List.ne_nil_of_length_pos (by omega), .inl rfl⟩⟩
  | cons c more =>
    -- the letter may mark an exponent, but a hyphen stands behind the digits of that exponent
    have hfirst : first = first.takeWhile Char.isDigit ++ c :: more := by
      rw [← hletter, List.takeWhile_append_dropWhile]
    have hc : isHexDigit c = true := hhex c (hfirst ▸ by simp)
    have hdigit : c.isDigit = false := head_dropWhile Char.isDigit first c (by rw [hletter]; rfl)
    refine ⟨first.takeWhile Char.isDigit, c, more ++ '-' :: second :: rest, ?_, hrun, hdigit, ?_,
      ?_, .inr ?_⟩
    · rw [hsplit]
      conv_lhs => rw [hfirst]
      rw [List.append_assoc, List.cons_append]
    · rintro rfl
      cases hc
    · rintro rfl
      cases hc
    · cases more <;> simp [hhyphen]

/-- No date begins with the eight digits of a group. -/
theorem read?_text_eq_none : Time.read? g.text = none := by
  obtain ⟨first, second, rest, htext, hlength, hhex, -⟩ := g.text_front
  rw [Option.eq_none_iff_forall_ne_some]
  intro t ht
  obtain ⟨ds, c, more, -, -, hc, hsplit, hshort⟩ := Time.startsDate_of_read? ht
  rw [trimChars_text, splitSign_text] at hsplit hshort
  dsimp only at hsplit hshort
  have hmem : c ∈ first := by
    have hds := hshort rfl
    rw [htext] at hsplit
    exact mem_front hsplit (by omega)
  have hhexc := hhex c hmem
  rcases hc with rfl | rfl <;> cases hhexc

end Guid

/-- The text of an identifier passes all stages but the last. -/
theorem coerceText_guid (g : Guid) : coerceText options g.text = .guid g := by
  have hbreaks : BreaksOff (trimChars g.text.toList) := g.trimChars_text.symm ▸ g.breaksOff
  rw [hbreaks.coerceText_eq, dateTimeStage, String.ofList_toList, g.read?_text_eq_none, guidStage,
    g.trimChars_text, g.read?_text]
  rfl

/-! ## All kinds of values -/

/-- Truth values, signed integers, unsigned integers that no signed one equals, identifiers and
moments without a fraction or a leap second are read back from their texts, and a date is coerced
to the moment it begins. -/
theorem coercion_reads_back (options : CoercionOptions) :
    (∀ b, coerceText options (Value.bool b).text = .bool b) ∧
    (∀ n, coerceText options (Value.int n).text = .int n) ∧
    (∀ n : UInt64, Int64.maxValue.toInt < n.toNat →
      coerceText options (Value.uint n).text = .uint n) ∧
    (∀ g, coerceText options (Value.guid g).text = .guid g) ∧
    (∀ t : DateTime, t.nano = 0 → coerceText options (Value.dateTime t).text = .dateTime t) ∧
    (∀ d, (Raw.date d).coerce options = .dateTime (.midnight d)) := by
  refine ⟨fun b => ?_, fun n => ?_, fun n hn => ?_, fun g => ?_, fun t ht => ?_, fun d => ?_⟩
  · rw [coerceText_eq_bool_iff, Value.text, String.toList_ofList]
    cases b <;> decide
  · rw [coerceText_eq_int_iff, Value.text, String.toList_ofList, readInt64?_chars]
  · have hlarge : 2 ^ 63 ≤ n.toNat := by
      have hmax : Int64.maxValue.toInt = 2 ^ 63 - 1 := rfl
      omega
    refine coerceText_eq_uint ?_ hlarge
    rw [Value.text, String.toList_ofList, readUInt64?_chars]
  · rw [Value.text, Value.chars, String.ofList_toList, coerceText_guid]
  · rw [coerceText_eq_dateTime_iff, Value.text, Value.chars, Time.read?_text ht]
  · rw [Raw.coerce, coerceText_eq_dateTime_iff, Time.read?_dateText]

/-- The largest unsigned integer, and the last second of the earliest day. -/
theorem coercion_reads_back_extremes :
    let n := UInt64.ofNat (2 ^ 64 - 1)
    let t : DateTime := ⟨⟨-262143, 1, 1, by decide, by decide⟩, 86399, 0, by decide, by decide⟩
    (Int64.maxValue.toInt < n.toNat ∧ coerceText .standard (Value.uint n).text = .uint n) ∧
      (t.nano = 0 ∧ coerceText .standard (Value.dateTime t).text = .dateTime t) := by
  obtain ⟨-, -, huint, -, hmoment, -⟩ := coercion_reads_back .standard
  exact ⟨⟨by decide, huint _ (by decide)⟩, rfl, hmoment _ rfl⟩

end GatedPredicate
