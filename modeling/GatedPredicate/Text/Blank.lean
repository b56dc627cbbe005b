/-!
# Blank characters and trimming

`isBlank` is Unicode's `White_Space` property: 25 characters in ten ranges. Trimming removes
such characters from both ends of a text and leaves those inside alone.
-/

namespace GatedPredicate.Text

/-- The characters with Unicode's `White_Space` property. -/
def isBlank (c : Char) : Bool :=
  let n := c.toNat
  (9 ≤ n && n ≤ 13) || n == 0x20 || n == 0x85 || n == 0xA0 || n == 0x1680 ||
    (0x2000 ≤ n && n ≤ 0x200A) || n == 0x2028 || n == 0x2029 || n == 0x202F || n == 0x205F ||
    n == 0x3000

/-- `cs` without the blanks at its front. -/
def trimFront (cs : List Char) : List Char :=
  cs.dropWhile isBlank

/-- `cs` without the blanks at its back. -/
def trimBack (cs : List Char) : List Char :=
  (trimFront cs.reverse).reverse

/-- `cs` without the blanks at either end. -/
def trimChars (cs : List Char) : List Char :=
  trimBack (trimFront cs)

/-- `s` without the blanks at either end. -/
def trim (s : String) : String :=
  String.ofList (trimChars s.toList)

end GatedPredicate.Text
