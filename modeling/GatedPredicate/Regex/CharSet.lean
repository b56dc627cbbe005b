import GatedPredicate.Text.Blank
import GatedPredicate.Text.Category
import GatedPredicate.Text.Fold
import GatedPredicate.Text.Letter

/-!
# Sets of characters

A set is a table of runs or is built from other sets. Membership follows the construction, so no
table is ever computed.

- `CharSet`, `CharSet.mem`
- `CharSet.char`, `CharSet.range`: small sets
- `wordSet`, `digitSet`, `blankSet`: the sets with a name of one letter
-/

namespace GatedPredicate.Regex

open GatedPredicate.Text

/-- A set of characters. -/
inductive CharSet where
  /-- The characters of a table. -/
  | runs (table : List Run)
  /-- The characters of at least one of two sets. -/
  | union (s t : CharSet)
  /-- The characters of both sets. -/
  | inter (s t : CharSet)
  /-- The characters of the first set that are not in the second. -/
  | minus (s t : CharSet)
  /-- The characters of exactly one of two sets. -/
  | differ (s t : CharSet)
  /-- The characters that are not in a set. -/
  | compl (s : CharSet)
  /-- The characters that differ at most in case from one in a set. -/
  | folded (s : CharSet)
  /-- The characters that differ from one in a set at most in the case of an ASCII letter. -/
  | foldedAscii (s : CharSet)

namespace CharSet

/-- The codes that differ from `n` only in the case of an ASCII letter, `n` included. -/
def asciiMates (n : Nat) : List Nat :=
  if 65 ≤ n ∧ n ≤ 90 then [n, n + 32]
  else if 97 ≤ n ∧ n ≤ 122 then [n, n - 32]
  else [n]

/-- Whether the character with code `n` belongs to a set. -/
def holds : CharSet → Nat → Bool
  | runs table, n => inRuns table n
  | union s t, n => s.holds n || t.holds n
  | inter s t, n => s.holds n && t.holds n
  | minus s t, n => s.holds n && !t.holds n
  | differ s t, n => s.holds n != t.holds n
  | compl s, n => !s.holds n
  | folded s, n => s.holds n || (caseMates n).any fun m => s.holds m
  | foldedAscii s, n => (asciiMates n).any fun m => s.holds m

/-- Whether a character belongs to a set. -/
def mem (s : CharSet) (c : Char) : Bool :=
  s.holds c.toNat

/-! ## Small sets -/

/-- The set without characters. -/
def empty : CharSet :=
  runs []

/-- The characters between two codes, which belong to the set. -/
def range (first last : Nat) : CharSet :=
  runs [⟨first, last, 1⟩]

/-- The set of one character. -/
def char (c : Char) : CharSet :=
  range c.toNat c.toNat

/-- The characters of ranges of codes. -/
def ranges (pairs : List (Nat × Nat)) : CharSet :=
  runs (pairs.map fun (first, last) => ⟨first, last, 1⟩)

/-- The characters of some categories. -/
def categories (cs : List Category) : CharSet :=
  runs (cs.flatMap Category.runs)

end CharSet

/-! ## Sets with a name of one letter -/

/-- The decimal digits. -/
def digitSet : CharSet :=
  .categories [.decimalNumber]

/-- The characters with Unicode's `White_Space` property. -/
def blankSet : CharSet :=
  .ranges [(9, 13), (0x20, 0x20), (0x85, 0x85), (0xA0, 0xA0), (0x1680, 0x1680), (0x2000, 0x200A),
    (0x2028, 0x2029), (0x202F, 0x202F), (0x205F, 0x205F), (0x3000, 0x3000)]

def letterSet : CharSet :=
  .ranges ((0x41, 0x5A) :: (0x61, 0x7A) :: letterRanges)

/-- The marks that combine with other characters. -/
def markSet : CharSet :=
  .categories [.nonspacingMark, .spacingMark, .enclosingMark]

/-- The characters of words: letters, marks, digits, joiners of words, and the two characters that
forbid or ask for a ligature. -/
def wordSet : CharSet :=
  .union letterSet
    (.union markSet
      (.union digitSet
        (.union (.categories [.connectorPunctuation]) (.range 0x200C 0x200D))))

def asciiDigitSet : CharSet :=
  .range 48 57

/-- The ASCII characters of words. -/
def asciiWordSet : CharSet :=
  .ranges [(48, 57), (65, 90), (95, 95), (97, 122)]

/-- The blank ASCII characters. -/
def asciiBlankSet : CharSet :=
  .ranges [(9, 13), (32, 32)]

/-- Whether a character belongs to words; among the ASCII ones only unless `unicode`. -/
def isWord (unicode : Bool) (c : Char) : Bool :=
  if c.toNat < 128 then asciiWordSet.mem c else unicode && wordSet.mem c

end GatedPredicate.Regex
