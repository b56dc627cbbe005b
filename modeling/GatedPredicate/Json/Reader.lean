import GatedPredicate.Json.Basic
import GatedPredicate.Number.Binary
import GatedPredicate.Number.Word
import GatedPredicate.Text.Ascii

/-!
# Reading JSON text

Reading is strict: no comments, no trailing commas, no leading zeros, no control characters in
strings, no escape that is half of a surrogate pair, and no more than 127 levels of arrays and
objects. A number that is not an integer of 64 bits is accumulated as an integer significand
and scaled once by a power of ten; it is refused where that leaves the range of doubles.

- `readString?`, `readNumber?`: the two kinds of leaves with structure
- `sepBy?`: items with commas between them
- `value?`: a value, by recursion on the number of levels that are left
- `Json.read?`: a whole text
-/

namespace GatedPredicate.Json

open GatedPredicate.Number GatedPredicate.Text

/-- Reads something at the front of a text and gives back what follows it. -/
abbrev Reader (α : Type) := List Char → Option (α × List Char)

/-- The blanks between tokens. -/
def isSpace (c : Char) : Bool :=
  c == ' ' || c == '\n' || c == '\t' || c == '\r'

/-- `cs` without the blanks at its front. -/
def skipSpace (cs : List Char) : List Char :=
  cs.dropWhile isSpace

/-- Takes the characters `word` from the front. -/
def dropWord? (word cs : List Char) : Option (List Char) :=
  if word.isPrefixOf cs then some (cs.drop word.length) else none

/-! ## Strings -/

/-- The code unit written by four hexadecimal digits. -/
def codeUnit? (cs : List Char) : Option (Nat × List Char) :=
  let digits := cs.take 4
  if digits.length = 4 ∧ digits.all isHexDigit then some (numeral 16 digits, cs.drop 4) else none

/-- Reads what follows `\u`: a character of the basic plane, or a surrogate pair. -/
def unicodeEscape? (cs : List Char) : Option (Char × List Char) :=
  (codeUnit? cs).bind fun (high, rest) =>
    if 0xD800 ≤ high ∧ high < 0xDC00 then
      (dropWord? ['\\', 'u'] rest).bind fun rest =>
        (codeUnit? rest).bind fun (low, rest) =>
          if 0xDC00 ≤ low ∧ low < 0xE000 then
            (scalar? (0x10000 + (high - 0xD800) * 0x400 + (low - 0xDC00))).map (·, rest)
          else none
    else (scalar? high).map (·, rest)

/-- Reads what follows a backslash. -/
def escape? (cs : List Char) : Option (Char × List Char) :=
  match cs with
  | '"' :: rest => some ('"', rest)
  | '\\' :: rest => some ('\\', rest)
  | '/' :: rest => some ('/', rest)
  | 'b' :: rest => some (Char.ofNat 8, rest)
  | 'f' :: rest => some (Char.ofNat 12, rest)
  | 'n' :: rest => some ('\n', rest)
  | 'r' :: rest => some ('\r', rest)
  | 't' :: rest => some ('\t', rest)
  | 'u' :: rest => unicodeEscape? rest
  | _ => none

/-- Reads the rest of a string literal up to its closing quote; `taken` holds the characters so
far, last one first. `fuel` bounds the number of characters. -/
def stringTail? : Nat → List Char → List Char → Option (String × List Char)
  | 0, _, _ => none
  | fuel + 1, taken, cs =>
    match cs with
    | [] => none
    | '"' :: rest => some (String.ofList taken.reverse, rest)
    | '\\' :: rest => (escape? rest).bind fun (c, rest) => stringTail? fuel (c :: taken) rest
    | c :: rest => if c.toNat < 32 then none else stringTail? fuel (c :: taken) rest

/-- Reads a string literal. -/
def readString? : Reader String := fun cs =>
  match cs with
  | '"' :: rest => stringTail? (rest.length + 1) [] rest
  | _ => none

/-! ## Numbers -/

/-- The significand of a number so far, and the power of ten it is to be multiplied by. -/
structure Significand where
  value : Nat
  exponent : Int

/-- Whether another digit still fits 64 bits. -/
def Significand.fits (s : Significand) (digit : Char) : Bool :=
  s.value * 10 + digitValue digit < 2 ^ 64

/-- Appends the digits before the point: once one does not fit, each digit only counts as a
power of ten. -/
def wholeDigits (s : Significand) : List Char → Significand
  | [] => s
  | c :: rest =>
    if s.fits c then wholeDigits ⟨s.value * 10 + digitValue c, s.exponent⟩ rest
    else ⟨s.value, s.exponent + (rest.length + 1)⟩

/-- Appends the digits after the point: once one does not fit, the others are dropped. -/
def fractionDigits (s : Significand) : List Char → Significand
  | [] => s
  | c :: rest =>
    if s.fits c then fractionDigits ⟨s.value * 10 + digitValue c, s.exponent - 1⟩ rest else s

/-- Ten to the power `n`, correctly rounded. -/
def tenPower (n : Nat) : Float :=
  nearestDouble false (10 ^ n) 1

/-- The double `f * 10 ^ exponent`, by one multiplication or division where the power is a double
and by steps of 308 powers where it is not; `none` beyond the largest double. -/
def scaleByTen? : Nat → Float → Int → Option Float
  | 0, f, _ => some f
  | fuel + 1, f, exponent =>
    if exponent.natAbs ≤ 308 then
      if 0 ≤ exponent then
        let product := f * tenPower exponent.natAbs
        if product.isInf then none else some product
      else some (f / tenPower exponent.natAbs)
    else if f == 0 then some f
    else if 0 ≤ exponent then none
    else scaleByTen? fuel (f / tenPower 308) (exponent + 308)

/-- The double of a significand. -/
def Significand.toDouble? (s : Significand) (negative : Bool) : Option Float :=
  -- 64-bit significands vanish after a few steps of 308 powers
  (scaleByTen? 8 (doubleOfInt s.value) s.exponent).map fun f => if negative then -f else f

/-- Reads the exponent after `e`: an optional sign and at least one digit. -/
def exponentPart? (cs : List Char) : Option ((Bool × List Char) × List Char) :=
  let (negative, rest) :=
    match cs with
    | '+' :: rest => (false, rest)
    | '-' :: rest => (true, rest)
    | rest => (false, rest)
  let digits := rest.takeWhile Char.isDigit
  if digits.isEmpty then none else some ((negative, digits), rest.drop digits.length)

/-- A number with an exponent. One that 31 bits do not hold makes everything but zero vanish or
too large. -/
def applyExponent? (s : Significand) (negative : Bool) (below : Bool) (digits : List Char) :
    Option Float :=
  let n := numeral 10 digits
  if n < 2 ^ 31 then
    let change : Int := if below then -n else n
    ({ s with exponent := s.exponent + change } : Significand).toDouble? negative
  else if s.value != 0 && !below then none
  else some (if negative then -0.0 else 0.0)

/-- The integer of a significand without an exponent, if it has 64 bits. The negative zero and
negative integers beyond the range are doubles. -/
def wholeNumber? (s : Significand) (negative : Bool) : Option Number :=
  if s.exponent = 0 then
    if !negative then some (.natural (UInt64.ofNat s.value))
    else if s.value != 0 && s.value ≤ 2 ^ 63 then some (.negative (Int64.ofInt (-s.value)))
    else Number.ofDouble? (-(doubleOfInt s.value))
  else (s.toDouble? negative).bind Number.ofDouble?

/-- Reads what follows the digits before the point. -/
def numberTail? (negative : Bool) (s : Significand) : Reader Number := fun cs =>
  let finish (s : Significand) (otherwise : Option Number) : Reader Number := fun cs =>
    match cs with
    | c :: rest =>
      if c == 'e' || c == 'E' then
        (exponentPart? rest).bind fun ((below, digits), rest) =>
          ((applyExponent? s negative below digits).bind Number.ofDouble?).map (·, rest)
      else otherwise.map (·, cs)
    | [] => otherwise.map (·, cs)
  match cs with
  | '.' :: rest =>
    let digits := rest.takeWhile Char.isDigit
    let s := fractionDigits s digits
    if digits.isEmpty then none
    else finish s ((s.toDouble? negative).bind Number.ofDouble?) (rest.drop digits.length)
  | cs => finish s (wholeNumber? s negative) cs

/-- Reads a number without its sign. -/
def unsignedNumber? (negative : Bool) : Reader Number := fun cs =>
  let digits := cs.takeWhile Char.isDigit
  match digits with
  | [] => none
  | '0' :: _ :: _ => none
  | digits => numberTail? negative (wholeDigits ⟨0, 0⟩ digits) (cs.drop digits.length)

def readNumber? : Reader Number := fun cs =>
  match cs with
  | '-' :: rest => unsignedNumber? true rest
  | cs => unsignedNumber? false cs

/-! ## Arrays and objects -/

/-- Reads one or more items with commas between them and the character that closes them. An item
takes at least one character. -/
def sepBy? {α : Type} (item : Reader α) (close : Char) (cs : List Char) :
    Option (List α × List Char) :=
  match item cs with
  | none => none
  | some (x, rest) =>
    match skipSpace rest with
    | [] => none
    | c :: rest' =>
      if c = close then some ([x], rest')
      else if c = ',' ∧ rest'.length < cs.length then
        (sepBy? item close (skipSpace rest')).map fun (xs, rest) => (x :: xs, rest)
      else none
termination_by cs.length
decreasing_by
  rename_i hlt
  exact Nat.lt_of_le_of_lt (List.IsSuffix.length_le (List.dropWhile_suffix _)) hlt.2

/-- Reads the items up to `close`, of which there may be none. -/
def enclosed? {α : Type} (item : Reader α) (close : Char) : Reader (List α) := fun cs =>
  match skipSpace cs with
  | [] => none
  | c :: rest => if c = close then some ([], rest) else sepBy? item close (c :: rest)

/-- Reads a name, a colon and a value. -/
def fieldWith? (value : Reader Json) : Reader (String × Json) := fun cs =>
  (readString? cs).bind fun (name, rest) =>
    match skipSpace rest with
    | ':' :: rest => (value (skipSpace rest)).map fun (x, rest) => ((name, x), rest)
    | _ => none

/-- Reads a value that starts at once, with arrays and objects at most `levels` deep. -/
def value? : Nat → Reader Json
  | levels, cs =>
    match cs with
    | 'n' :: rest => (dropWord? ['u', 'l', 'l'] rest).map (.null, ·)
    | 't' :: rest => (dropWord? ['r', 'u', 'e'] rest).map (.bool true, ·)
    | 'f' :: rest => (dropWord? ['a', 'l', 's', 'e'] rest).map (.bool false, ·)
    | '"' :: _ => (readString? cs).map fun (s, rest) => (.string s, rest)
    | '[' :: rest =>
      match levels with
      | 0 => none
      | levels + 1 =>
        (enclosed? (value? levels) ']' rest).map fun (xs, rest) => (.array xs, rest)
    | '\x7b' :: rest =>
      match levels with
      | 0 => none
      | levels + 1 =>
        (enclosed? (fieldWith? (value? levels)) '\x7d' rest).map fun (xs, rest) =>
          (.object xs, rest)
    | cs => (readNumber? cs).map fun (n, rest) => (.number n, rest)

/-- The deepest nesting of arrays and objects that is read. -/
def maxLevels : Nat := 127

/-- Reads a text that is one value and nothing else, its fields in the order of the text. -/
def read? (s : String) : Option Json :=
  (value? maxLevels (skipSpace s.toList)).bind fun (j, rest) =>
    if (skipSpace rest).isEmpty then some j else none

end GatedPredicate.Json
