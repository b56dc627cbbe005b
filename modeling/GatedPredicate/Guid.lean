import GatedPredicate.Number.Shortest
import GatedPredicate.Text.Ascii

/-!
# Unique identifiers

A 128-bit identifier, written as 32 hexadecimal digits in groups of 8, 4, 4, 4 and 12. Readers
also accept the digits without hyphens, and the grouped form in braces or after `urn:uuid:`.
-/

namespace GatedPredicate

open GatedPredicate.Number GatedPredicate.Text

/-- A 128-bit identifier. -/
structure Guid where
  bits : Nat
  bits_lt : bits < 2 ^ 128
deriving DecidableEq

namespace Guid

/-- The identifier with the given bits, reduced to 128 of them. -/
def ofBits (n : Nat) : Guid :=
  ⟨n % 2 ^ 128, Nat.mod_lt _ (by decide)⟩

/-- Reads 32 hexadecimal digits. -/
def ofDigits? (digits : List Char) : Option Guid :=
  if digits.length = 32 ∧ digits.all isHexDigit then some (ofBits (numeral 16 digits)) else none

/-- Reads the grouped form: hyphens after 8, 12, 16 and 20 digits. -/
def ofGrouped? (cs : List Char) : Option Guid :=
  let at? (i : Nat) := cs[i]? == some '-'
  if cs.length = 36 && at? 8 && at? 13 && at? 18 && at? 23 then
    ofDigits? (cs.take 8 ++ (cs.drop 9).take 4 ++ (cs.drop 14).take 4 ++ (cs.drop 19).take 4 ++
      cs.drop 24)
  else none

/-- The characters in front of an identifier in its form as a resource name. -/
def resourcePrefix : List Char := "urn:uuid:".toList

/-- Reads an identifier in any accepted form. -/
def read? (cs : List Char) : Option Guid :=
  match cs.length with
  | 32 => ofDigits? cs
  | 36 => ofGrouped? cs
  | 38 =>
    if cs.head? = some '\x7b' ∧ cs.getLast? = some '\x7d' then ofGrouped? ((cs.drop 1).take 36)
    else none
  | 45 => if (cs.take 9).map Char.toLower = resourcePrefix then ofGrouped? (cs.drop 9) else none
  | _ => none

/-- The grouped form in lower case. -/
def text (g : Guid) : String :=
  let digits := Nat.toDigits 16 g.bits
  let ds := zeros (32 - digits.length) ++ digits
  String.ofList (ds.take 8 ++ '-' :: (ds.drop 8).take 4 ++ '-' :: (ds.drop 12).take 4 ++
    '-' :: (ds.drop 16).take 4 ++ '-' :: ds.drop 20)

end Guid

end GatedPredicate
