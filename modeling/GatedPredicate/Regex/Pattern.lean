import GatedPredicate.Regex.CharSet

/-!
# Patterns

A pattern describes texts. Options are resolved when a pattern is read: its leaves are sets of
characters and conditions on a place in the text.

- `Look`, `Look.holds`: conditions on a place
- `Pattern`
-/

namespace GatedPredicate.Regex

/-! ## Conditions on a place -/

/-- A condition on a place, which lies between two characters or at an end of the text. -/
inductive Look where
  /-- The start of the text. -/
  | start
  /-- The end of the text. -/
  | stop
  /-- The start of a line. Lines end at a line feed, or with `crlf` at a carriage return too. -/
  | lineStart (crlf : Bool)
  /-- The end of a line. -/
  | lineStop (crlf : Bool)
  /-- The start or end of a word. Only ASCII words count unless `unicode`. -/
  | boundary (unicode : Bool)
  /-- Neither the start nor the end of a word. -/
  | noBoundary (unicode : Bool)
  /-- The start of a word. -/
  | wordStart (unicode : Bool)
  /-- The end of a word. -/
  | wordStop (unicode : Bool)
  /-- No word reaches the place from before. -/
  | noWordBefore (unicode : Bool)
  /-- No word goes on after the place. -/
  | noWordAfter (unicode : Bool)
deriving Repr, DecidableEq

/-- Whether a character that may be missing belongs to a word. -/
def inWord (unicode : Bool) (c : Option Char) : Bool :=
  c.any (isWord unicode)

/-- Whether a condition holds between the characters `before` and `after`. -/
def Look.holds (before after : Option Char) : Look → Bool
  | .start => before.isNone
  | .stop => after.isNone
  | .lineStart false => before.isNone || before == some '\n'
  | .lineStop false => after.isNone || after == some '\n'
  | .lineStart true =>
    before.isNone || before == some '\n' || (before == some '\r' && after != some '\n')
  | .lineStop true =>
    after.isNone || after == some '\r' || (after == some '\n' && before != some '\r')
  | .boundary u => inWord u before != inWord u after
  | .noBoundary u => inWord u before == inWord u after
  | .wordStart u => !inWord u before && inWord u after
  | .wordStop u => inWord u before && !inWord u after
  | .noWordBefore u => !inWord u before
  | .noWordAfter u => !inWord u after

/-! ## Patterns -/

/-- A description of texts. -/
inductive Pattern where
  /-- The empty text. -/
  | empty
  /-- A text of one character of a set. -/
  | one (set : CharSet)
  /-- The empty text at a place that satisfies a condition. -/
  | look (l : Look)
  /-- A group that counts as a capture. It describes what its content does. -/
  | group (content : Pattern)
  /-- A text of the first pattern and then one of the second. -/
  | seq (first second : Pattern)
  /-- A text of either pattern. -/
  | alt (first second : Pattern)
  /-- From `least` to `most` texts of a pattern in a row; any number from `least` on if `most` is
  missing. -/
  | times (content : Pattern) (least : Nat) (most : Option Nat)

end GatedPredicate.Regex
