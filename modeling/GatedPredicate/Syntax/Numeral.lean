import GatedPredicate.Syntax.Token
import GatedPredicate.Number.Word

/-!
# Numerals

The longest numeral at the front of a text and the literal it denotes. A suffix chooses the
kind: `m` for decimals, `u` with or without `l` for unsigned, `l` for signed integers, `d` or
`f` for doubles; a point or an exponent makes a double as well. Hexadecimal numerals start
with `0x` and are integers.

- `Numeral`: what a numeral says, before its range is checked
- `scanNumeral`: finds the longest one
- `Numeral.literal?`: its literal, if it is in range
-/

namespace GatedPredicate.Syntax

open GatedPredicate.Text GatedPredicate.Number

/-- What a numeral says. -/
inductive Numeral where
  | signed (value : Nat)
  | unsigned (value : Nat)
  | double (text : List Char)
  | decimal (digits : List Char)

/-- Whether the first character of `cs` is one of `options`. -/
def startsWithAny (cs : List Char) (options : List Char) : Bool :=
  match cs with
  | [] => false
  | c :: _ => options.contains c

/-- The number of characters of an exponent at the front of `cs`, zero if there is none. -/
def exponentLength (cs : List Char) : Nat :=
  if startsWithAny cs ['e', 'E'] then
    let signed := cs.drop 1
    let sign := if startsWithAny signed ['+', '-'] then 1 else 0
    let digits := ((signed.drop sign).takeWhile Char.isDigit).length
    if digits = 0 then 0 else 1 + sign + digits
  else 0

/-- The number of characters of a fraction, point included, at the front of `cs`. -/
def fractionLength (cs : List Char) : Nat :=
  match cs with
  | '.' :: rest =>
    let digits := (rest.takeWhile Char.isDigit).length
    if digits = 0 then 0 else 1 + digits
  | _ => 0

/-- The number of characters of an unsigned suffix at the front of `cs`. -/
def unsignedSuffixLength (cs : List Char) : Nat :=
  if startsWithAny cs ['u', 'U'] then
    if startsWithAny (cs.drop 1) ['l', 'L'] then 2 else 1
  else if startsWithAny cs ['l', 'L'] && startsWithAny (cs.drop 1) ['u', 'U'] then 2
  else 0

/-- The hexadecimal numeral at the front of `cs`, if `0x` and a digit stand there. -/
def scanHex? (cs : List Char) : Option (Numeral × Nat) :=
  match cs with
  | '0' :: x :: rest =>
    if x == 'x' || x == 'X' then
      let digits := rest.takeWhile isHexDigit
      if digits.isEmpty then none
      else
        let value := numeral 16 digits
        let length := 2 + digits.length
        if startsWithAny (cs.drop length) ['u', 'U'] then some (.unsigned value, length + 1)
        else some (.signed value, length)
    else none
  | _ => none

/-- The numeral without a radix mark at the front of `cs`. -/
def scanDecimal (cs : List Char) : Numeral × Nat :=
  let whole := cs.takeWhile Char.isDigit
  let fraction := fractionLength (cs.drop whole.length)
  let length := whole.length + fraction
  let rest := cs.drop length
  if startsWithAny rest ['m', 'M'] then (.decimal (cs.take length), length + 1)
  else
    let exponent := exponentLength rest
    let body := length + exponent
    let suffixed := startsWithAny (cs.drop body) ['d', 'D', 'f', 'F']
    if suffixed || fraction ≠ 0 || exponent ≠ 0 then
      (.double (cs.take body), if suffixed then body + 1 else body)
    else
      let suffix := unsignedSuffixLength rest
      if suffix ≠ 0 then (.unsigned (numeral 10 whole), length + suffix)
      else if startsWithAny rest ['l', 'L'] then (.signed (numeral 10 whole), length + 1)
      else (.signed (numeral 10 whole), length)

/-- The longest numeral at the front of `cs`, which starts with a digit, and its length. -/
def scanNumeral (cs : List Char) : Numeral × Nat :=
  (scanHex? cs).getD (scanDecimal cs)

/-- The literal a numeral denotes; integers out of range denote none. -/
def Numeral.literal? : Numeral → Option Literal
  | .signed n => (int64? n).map .int
  | .unsigned n => (uint64? n).map .uint
  | .double text => (readDouble? text).map .float
  | .decimal digits => some (.decimal (String.ofList digits))

end GatedPredicate.Syntax
