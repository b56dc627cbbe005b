import GatedPredicate.Text.Ascii

/-!
# Searching text

Positions count characters, places count bytes.

- `indexOf?`: the first position at which a text occurs in another
- `occursIn`
- `byteIndex?`: the first place at which a text occurs in another
-/

namespace GatedPredicate.Text

/-- The least number of characters after which `needle` occurs. The empty text occurs at once. -/
def indexOf? (needle : List Char) : List Char → Option Nat
  | [] => if needle.isEmpty then some 0 else none
  | c :: rest =>
    if needle.isPrefixOf (c :: rest) then some 0 else (indexOf? needle rest).map (· + 1)

def occursIn (needle cs : List Char) : Bool :=
  (indexOf? needle cs).isSome

/-- The least number of bytes after which `needle` occurs. -/
def byteIndex? (needle : List Char) : List Char → Option Nat
  | [] => if needle.isEmpty then some 0 else none
  | c :: rest =>
    if needle.isPrefixOf (c :: rest) then some 0
    else (byteIndex? needle rest).map (c.utf8Size + ·)

end GatedPredicate.Text
