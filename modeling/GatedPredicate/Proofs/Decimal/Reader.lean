import GatedPredicate.Decimal.Reader
import GatedPredicate.Proofs.Text.Numerals

/-!
# Reading decimals

A decimal is read from a sign, digits with a point, and an exponent that moves the point. The text
is cut at the mark of the exponent, which is no digit and no sign.

- `mantissaPart`, `exponentPart`: the two pieces of a text
- `read?_plain`, `read?_exponent`, `read?_eq_none`: reading by pieces
- `readDigits?_digit`, `readDigits?_eq_none`: digits before the point
-/

namespace GatedPredicate

open GatedPredicate.Number GatedPredicate.Text

namespace Decimal

variable {negative digit : Bool} {mantissa scale : Nat} {ds rest : List Char} {c : Char}

/-- The characters in front of an exponent. -/
def mantissaPart (cs : List Char) : List Char :=
  (splitSign cs).2.takeWhile fun c => !isExponentMark c

/-- The mark of an exponent and what follows it. -/
def exponentPart (cs : List Char) : List Char :=
  (splitSign cs).2.dropWhile fun c => !isExponentMark c

/-- A digit is no mark of an exponent. -/
theorem isExponentMark_of_isDigit (h : c.isDigit = true) : (!isExponentMark c) = true := by
  have hletter := isAlpha_of_isDigit h
  by_contra hmark
  simp only [isExponentMark, Bool.not_eq_true', Bool.not_eq_false, Bool.or_eq_true,
    beq_iff_eq] at hmark
  rcases hmark with rfl | rfl <;> cases hletter

/-- A sign belongs to the characters in front of an exponent. -/
theorem splitSign_takeWhile (cs : List Char) :
    splitSign (cs.takeWhile fun c => !isExponentMark c) = ((splitSign cs).1, mantissaPart cs) := by
  unfold mantissaPart
  by_cases hsign : ∀ c ∈ cs.head?, c ≠ '-' ∧ c ≠ '+'
  · rw [splitSign_of_head hsign, splitSign_of_head]
    cases cs with
    | nil => nofun
    | cons c rest =>
      intro d hd
      rw [List.takeWhile_cons] at hd
      split at hd
      · exact hsign d hd
      · cases hd
  · simp only [not_forall] at hsign
    obtain ⟨c, hc, hsign⟩ := hsign
    obtain ⟨rest, rfl⟩ := List.head?_eq_some_iff.1 hc
    rw [not_and_or, not_not, not_not] at hsign
    rcases hsign with rfl | rfl <;> rfl

/-- Dropping as many characters as there are in a run leaves what follows the run. -/
theorem drop_length_takeWhile (p : Char → Bool) (cs : List Char) :
    cs.drop (cs.takeWhile p).length = cs.dropWhile p := by
  conv_lhs => arg 2; rw [← List.takeWhile_append_dropWhile (p := p) (l := cs)]
  exact List.drop_left

/-- A sign is no mark of an exponent. -/
theorem dropWhile_eq_exponentPart (cs : List Char) :
    (cs.dropWhile fun c => !isExponentMark c) = exponentPart cs := by
  unfold exponentPart splitSign
  split <;> rfl

/-- A decimal without an exponent is a sign and a mantissa. -/
theorem read?_plain {cs : List Char} (h : exponentPart cs = []) :
    read? cs = readDigits? (splitSign cs).1 false false 0 0 (mantissaPart cs) := by
  unfold read? readPlain?
  dsimp only
  rw [drop_length_takeWhile, dropWhile_eq_exponentPart, splitSign_takeWhile, h]

/-- The mantissa is read first, then its point is moved. -/
theorem read?_exponent {cs exponent : List Char} (h : exponentPart cs = c :: exponent) :
    read? cs = (readDigits? (splitSign cs).1 false false 0 0 (mantissaPart cs)).bind
      (applyExponent? · exponent) := by
  unfold read? readPlain?
  dsimp only
  rw [drop_length_takeWhile, dropWhile_eq_exponentPart, splitSign_takeWhile, h]

/-- Without a mantissa there is no decimal. -/
theorem read?_eq_none {cs : List Char}
    (h : readDigits? (splitSign cs).1 false false 0 0 (mantissaPart cs) = none) :
    read? cs = none := by
  cases hexponent : exponentPart cs with
  | nil => rw [read?_plain hexponent, h]
  | cons c exponent => rw [read?_exponent hexponent, h, Option.bind_none]

/-! ## Digits before the point -/

/-- Before the point a digit is kept unless it passes 96 bits. -/
theorem readDigits?_digit (hc : c.isDigit = true) :
    readDigits? negative false digit mantissa scale (c :: rest) =
      if 2 ^ 96 ≤ mantissa * 10 + digitValue c then none
      else readDigits? negative false true (mantissa * 10 + digitValue c) 0 rest := by
  rw [readDigits?, if_pos hc]
  rfl

/-- Before the point a character that goes on no numeral ends the reading. -/
theorem readDigits?_eq_none (hds : ∀ d ∈ ds, d.isDigit = true) (hc : c.isDigit = false)
    (hpoint : c ≠ '.') (hline : c ≠ '_') :
    readDigits? negative false digit mantissa scale (ds ++ c :: rest) = none := by
  induction ds generalizing digit mantissa scale with
  | nil => simp [readDigits?, hc, hpoint, hline]
  | cons d ds ih =>
    obtain ⟨hd, hds⟩ := List.forall_mem_cons.1 hds
    rw [List.cons_append, readDigits?_digit hd, ih hds, ite_self]

end Decimal

end GatedPredicate
