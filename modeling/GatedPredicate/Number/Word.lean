import GatedPredicate.Number.Power
import GatedPredicate.Text.Ascii

/-!
# Machine integers with checked range

Signed and unsigned 64-bit integers never wrap in this library: an exact result is computed
first and then narrowed, and narrowing fails outside the range.

- `int64?` and `uint64?`: narrow an exact integer
- `readInt64?` and `readUInt64?`: read a signed decimal numeral
-/

namespace GatedPredicate.Number

open GatedPredicate.Text

/-- `n` as a signed 64-bit integer, if it is in range. -/
def int64? (n : Int) : Option Int64 :=
  if -2 ^ 63 ≤ n ∧ n < 2 ^ 63 then some (Int64.ofInt n) else none

/-- `n` as an unsigned 64-bit integer, if it is in range. -/
def uint64? (n : Int) : Option UInt64 :=
  if 0 ≤ n ∧ n < 2 ^ 64 then some (UInt64.ofNat n.toNat) else none

/-- Reads an optional sign and one or more digits, nothing else. -/
def readSigned? (cs : List Char) : Option Int :=
  match cs with
  | '-' :: digits => (decimalNumeral? digits).map fun n => -(n : Int)
  | '+' :: digits => (decimalNumeral? digits).map fun n => (n : Int)
  | digits => (decimalNumeral? digits).map fun n => (n : Int)

/-- Reads a signed 64-bit integer: an optional sign, then digits, in range. -/
def readInt64? (cs : List Char) : Option Int64 :=
  (readSigned? cs).bind int64?

/-- Reads an unsigned 64-bit integer: an optional plus sign, then digits, in range. A minus
sign is refused even before zero. -/
def readUInt64? (cs : List Char) : Option UInt64 :=
  match cs with
  | '+' :: digits => (decimalNumeral? digits).bind fun n => uint64? n
  | digits => (decimalNumeral? digits).bind fun n => uint64? n

end GatedPredicate.Number
