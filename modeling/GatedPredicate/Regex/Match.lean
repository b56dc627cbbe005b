import GatedPredicate.Regex.Reader

/-!
# Matching

Matching follows all readings of a pattern at once, so nothing is ever taken back. The places of a
text are marked, and a pattern takes the marks to the places where a text that it describes may
end.

- `Marks`: sets of places
- `reach`: where the texts of a pattern end
- `occurs`: whether some part of a text is described
- `isMatch?`: whether the pattern that a text writes describes some part of another text
-/

namespace GatedPredicate.Regex

/-- A set of places in a text. A text of `n` characters has `n + 1` places. -/
abbrev Marks := List Bool

/-- The characters before and after each place of a text that follows `before`. -/
def gaps (before : Option Char) : List Char → List (Option Char × Option Char)
  | [] => [(before, none)]
  | c :: rest => (before, some c) :: gaps (some c) rest

/-- The places of either set. -/
def Marks.join (a b : Marks) : Marks :=
  List.zipWith (fun x y => x || y) a b

/-- The places of the first set that are not in the second. -/
def Marks.without (a b : Marks) : Marks :=
  List.zipWith (fun x y => x && !y) a b

/-- Applies a step `n` times. A step that changes nothing is the last. -/
def iterate (step : Marks → Marks) : Nat → Marks → Marks
  | 0, marks => marks
  | n + 1, marks =>
    let next := step marks
    if next = marks then marks else iterate step n next

/-- The places that at most `n` steps reach from `latest`, with those that are `reached`. -/
def spread (step : Marks → Marks) : Nat → Marks → Marks → Marks
  | 0, reached, _ => reached
  | n + 1, reached, latest =>
    let fresh := (step latest).without reached
    if fresh.any id then spread step n (reached.join fresh) fresh else reached

/-- The places where a text that a pattern describes ends if it starts at a marked place. More
repetitions than there are places reach nothing new. -/
def reach (text : List Char) : Pattern → Marks → Marks
  | .empty => fun marks => marks
  | .one set => fun marks => false :: List.zipWith (fun m c => m && set.mem c) marks text
  | .look l => fun marks =>
    List.zipWith (fun m gap => m && l.holds gap.1 gap.2) marks (gaps none text)
  | .group p => reach text p
  | .seq p q => fun marks => reach text q (reach text p marks)
  | .alt p q => fun marks => (reach text p marks).join (reach text q marks)
  | .times p least most => fun marks =>
    let marks := iterate (reach text p) least marks
    let further :=
      match most with
      | some most => most - least
      | none => text.length + 1
    spread (reach text p) further marks marks

/-- Whether a pattern describes some part of a text. -/
def occurs (p : Pattern) (text : List Char) : Bool :=
  (reach text p (List.replicate (text.length + 1) true)).any id

/-- Whether the pattern that a text writes describes some part of another text; none if it writes
no pattern. -/
def isMatch? (f : Flags) (pattern text : String) : Option Bool :=
  (read? f pattern).map fun p => occurs p text.toList

end GatedPredicate.Regex
