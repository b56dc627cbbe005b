import GatedPredicate.Number.Shortest
import GatedPredicate.Text.Ascii

/-!
# Doubles as text

Reading accepts an optional sign, then either `inf`, `infinity` or `nan` in any case, or digits
with an optional point and an optional exponent; the result is the double nearest to the number
written. Writing uses the fewest digits that read back and never an exponent.

- `Scientific`: a decimal number of any size as it stands in a text
- `readScientific?`: reads one
- `Scientific.nearest`: rounds one to a binary format
- `readDouble?`, `doubleText`
-/

namespace GatedPredicate.Number

open GatedPredicate.Text

/-- The number `digits * 10 ^ exponent` with a sign, as written in a text. -/
structure Scientific where
  negative : Bool
  digits : Nat
  exponent : Int
deriving DecidableEq, Repr

/-- Splits a leading sign off. -/
def splitSign (cs : List Char) : Bool × List Char :=
  match cs with
  | '-' :: rest => (true, rest)
  | '+' :: rest => (false, rest)
  | rest => (false, rest)

/-- Reads what follows the mantissa: nothing, or an exponent with at least one digit. -/
def readExponent? (cs : List Char) : Option Int :=
  match cs with
  | [] => some 0
  | c :: rest =>
    if c == 'e' || c == 'E' then
      let (negative, digits) := splitSign rest
      (decimalNumeral? digits).map fun n => if negative then -(n : Int) else n
    else none

/-- Reads digits with an optional point and an optional exponent. At least one digit must
stand before or after the point. -/
def readUnsigned? (negative : Bool) (cs : List Char) : Option Scientific :=
  let whole := cs.takeWhile Char.isDigit
  let rest := cs.dropWhile Char.isDigit
  let (fraction, rest) :=
    match rest with
    | '.' :: more => (more.takeWhile Char.isDigit, more.dropWhile Char.isDigit)
    | _ => ([], rest)
  if whole.isEmpty && fraction.isEmpty then none
  else
    (readExponent? rest).map fun e =>
      ⟨negative, numeral 10 (whole ++ fraction), e - fraction.length⟩

/-- Reads an optional sign and a decimal number. -/
def readScientific? (cs : List Char) : Option Scientific :=
  let (negative, rest) := splitSign cs
  readUnsigned? negative rest

/-- Mantissa and exponent of the number of format `f` nearest to `x`, `none` for overflow.
Numbers far outside every format are settled by the position of their first digit. -/
def Scientific.nearest (f : Format) (x : Scientific) : Option (Nat × Int) :=
  if x.digits = 0 then some (0, f.minExponent)
  else
    let point := ((decimalDigits x.digits).length : Int) + x.exponent
    if 400 < point then none
    else if point < -400 then some (0, f.minExponent)
    else f.nearest (x.digits * 10 ^ x.exponent.toNat) (10 ^ (-x.exponent).toNat)

/-- The double nearest to `x`. -/
def Scientific.toDouble (x : Scientific) : Float :=
  Float.ofBits (bitsOf x.negative (x.nearest .double))

/-- The single nearest to `x`, as the double of the same value. -/
def Scientific.toSingle (x : Scientific) : Float :=
  match x.nearest .single with
  | none => infinity x.negative
  | some (mantissa, exponent) => ofParts x.negative mantissa exponent

/-- Reads the names of the special values, in any case. -/
def readSpecial? (cs : List Char) : Option Float :=
  let (negative, rest) := splitSign cs
  let name := rest.map Char.toLower
  if name = "inf".toList ∨ name = "infinity".toList then some (infinity negative)
  else if name = "nan".toList then some notANumber
  else none

/-- Reads a double: a special value by name, or the double nearest to a decimal number. -/
def readDouble? (cs : List Char) : Option Float :=
  (readSpecial? cs).orElse fun _ => (readScientific? cs).map Scientific.toDouble

/-- Reads a single, given as the double of the same value. -/
def readSingle? (cs : List Char) : Option Float :=
  (readSpecial? cs).orElse fun _ => (readScientific? cs).map Scientific.toSingle

/-- The text of a finite double, or the names given for the three special values. -/
def doubleChars (x : Float) (nan posInf negInf : String) : List Char :=
  match parts x with
  | .notANumber => nan.toList
  | .infinite false => posInf.toList
  | .infinite true => negInf.toList
  | .finite negative mantissa exponent =>
    let body := if mantissa = 0 then ['0'] else (shortest .up mantissa exponent).positional
    if negative then '-' :: body else body

/-- The text of a double as it appears in messages about source text. -/
def sourceDoubleText (x : Float) : String :=
  String.ofList (doubleChars x "NaN" "inf" "-inf")

end GatedPredicate.Number
