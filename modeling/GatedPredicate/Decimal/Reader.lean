import GatedPredicate.Decimal.Arith
import GatedPredicate.Text.Ascii
import GatedPredicate.Number.DoubleText
import GatedPredicate.Number.Word

/-!
# Reading decimals

A decimal is written as an optional sign and digits with at most one point; an underscore may
follow a digit anywhere. Digits are taken until 28 places are reached or the next digit would
pass 96 bits: the next character then only decides the rounding, half away from zero, and what
follows it is not read. A number that is too large before its point is refused.

- `readPlain?`: without an exponent
- `raise?`: moves the point
- `read?`: with or without an exponent
-/

namespace GatedPredicate.Decimal

open GatedPredicate.Number GatedPredicate.Text

/-- Rounds by the character `next` after the last digit that was kept. An underscore counts as
zero. A mantissa that passes 96 bits gives up one place. -/
def roundBy? (negative : Bool) (mantissa scale : Nat) (next : Char) : Option Decimal :=
  let up :=
    if next.isDigit then some (decide (5 ≤ digitValue next))
    else if next = '_' then some false
    else none
  up.bind fun up =>
    if up then
      if mantissa + 1 < 2 ^ 96 then make? negative (mantissa + 1) scale
      else if scale = 0 then none
      else make? negative ((mantissa + 5) / 10) (scale - 1)
    else make? negative mantissa scale

/-- Reads the characters after the sign. `point` tells whether the point has been read, `digit`
whether a digit has. -/
def readDigits? (negative point digit : Bool) (mantissa scale : Nat) : List Char → Option Decimal
  | [] => if digit then make? negative mantissa scale else none
  | c :: rest =>
    if c.isDigit then
      let grown := mantissa * 10 + digitValue c
      if 2 ^ 96 ≤ grown then
        if point then roundBy? negative mantissa scale c else none
      else
        let places := if point then scale + 1 else 0
        match point && decide (28 ≤ places), rest with
        | true, next :: _ => roundBy? negative grown places next
        | _, _ => readDigits? negative point true grown places rest
    else if c = '.' && !point then readDigits? negative true digit mantissa scale rest
    else if c = '_' && digit then readDigits? negative point digit mantissa scale rest
    else none

/-- Reads a decimal in plain notation. -/
def readPlain? (cs : List Char) : Option Decimal :=
  let (negative, digits) := splitSign cs
  readDigits? negative false false 0 0 digits

/-- `d` with its mantissa kept and another scale. -/
def withScale? (d : Decimal) (scale : Nat) : Option Decimal :=
  if h : scale ≤ 28 then some { d with scale := scale, scale_le := h } else none

/-- Multiplies by `10 ^ n` in steps of at most nineteen powers. -/
def timesPowerOfTen? : Nat → Nat → Decimal → Option Decimal
  | 0, _, d => some d
  | fuel + 1, n, d =>
    if n = 0 then some d
    else
      let step := min n 19
      (make? false (10 ^ step) 0).bind fun power =>
        (d.mul? power).bind (timesPowerOfTen? fuel (n - step))

/-- Moves the point of `base` by a positive exponent. -/
def raise? (base : Decimal) (exponent : Nat) : Option Decimal :=
  if exponent ≤ base.scale then base.withScale? (base.scale - exponent)
  else if 28 < exponent then none
  else
    (timesPowerOfTen? 3 (exponent - base.scale) base).bind (withScale? · 0)

/-- Applies the exponent that a text gives: digits, after a minus sign to move the point to the
left. -/
def applyExponent? (d : Decimal) (exponent : List Char) : Option Decimal :=
  match exponent with
  | '-' :: digits => (readUInt64? digits).bind fun n => d.withScale? (d.scale + n.toNat)
  | digits => (readUInt64? digits).bind fun n => raise? d n.toNat

/-- Whether a character starts an exponent. -/
def isExponentMark (c : Char) : Bool :=
  c == 'e' || c == 'E'

/-- Reads a plain decimal, which may be followed by `e` and an exponent. -/
def read? (cs : List Char) : Option Decimal :=
  let base := cs.takeWhile fun c => !isExponentMark c
  match cs.drop base.length with
  | [] => readPlain? base
  | _ :: exponent => (readPlain? base).bind fun d => d.applyExponent? exponent

end GatedPredicate.Decimal
