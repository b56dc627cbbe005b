import GatedPredicate.Regex.Pattern

/-!
# Flags

Flags change the meaning of a pattern from one place to the end of the group around it.

- `Flags`, `Flags.set`: the flags and how a letter sets one
- `Flags.withLetters?`: a run of letters such as `im-s`
- `Flags.literal`, `Flags.dot`, `Flags.lineStart`, ...: what the parts of a pattern mean under flags
-/

namespace GatedPredicate.Regex

open GatedPredicate.Text

/-- What the parts of a pattern mean. -/
structure Flags where
  /-- Characters that differ only in case are the same. -/
  ignoreCase : Bool
  /-- The anchors hold at the lines of a text. -/
  multiLine : Bool
  /-- A dot stands for line ends too. -/
  dotAll : Bool
  /-- Blanks and comments in a pattern do not count. -/
  extended : Bool
  /-- Characters above ASCII belong to classes and words. -/
  unicode : Bool := true
  /-- Lines may end with a carriage return. -/
  crlf : Bool := false
deriving Repr, DecidableEq

namespace Flags

/-! ## Letters -/

/-- The letters of flags and the sign that clears the flags after it. -/
def letters : List Char :=
  ['i', 'm', 's', 'U', 'u', 'R', 'x', '-']

/-- Sets the flag of a letter. The letter `U` swaps which repetitions are tried first, which does
not change whether a text matches. -/
def set (f : Flags) (letter : Char) (on : Bool) : Flags :=
  match letter with
  | 'i' => { f with ignoreCase := on }
  | 'm' => { f with multiLine := on }
  | 's' => { f with dotAll := on }
  | 'x' => { f with extended := on }
  | 'u' => { f with unicode := on }
  | 'R' => { f with crlf := on }
  | _ => f

/-- Sets the flags of letters, and clears those after a `-`. -/
def setAll (f : Flags) (on : Bool) : List Char → Flags
  | [] => f
  | '-' :: rest => f.setAll false rest
  | c :: rest => (f.set c on).setAll on rest

/-- The flags after a run of letters; none if a letter is unknown or repeated, or if nothing
follows a `-`. -/
def withLetters? (f : Flags) (cs : List Char) : Option Flags :=
  if cs.all letters.contains ∧ cs.Nodup ∧ cs.getLast? ≠ some '-' then some (f.setAll true cs)
  else none

/-! ## Meaning -/

/-- A set and, when case does not matter, the characters that differ from its own only in case. -/
def fold (f : Flags) (s : CharSet) : CharSet :=
  if !f.ignoreCase then s else if f.unicode then .folded s else .foldedAscii s

/-- The codes that a character stands for. -/
def mates (f : Flags) (c : Char) : List Nat :=
  if !f.ignoreCase then [c.toNat]
  else if f.unicode then caseMates c.toNat
  else CharSet.asciiMates c.toNat

/-- The set of the characters that a character stands for. -/
def literal (f : Flags) (c : Char) : CharSet :=
  if (f.mates c).length ≤ 1 then .char c else f.fold (.char c)

/-- The complement of a set. Without Unicode it would hold bytes that are no characters. -/
def compl? (f : Flags) (s : CharSet) : Option CharSet :=
  if f.unicode then some (.compl s) else none

/-- A set with case ignored as flags say, and its complement if `negated`. -/
def close? (f : Flags) (negated : Bool) (s : CharSet) : Option CharSet :=
  if negated then f.compl? (f.fold s) else some (f.fold s)

/-- What a dot stands for. -/
def dot? (f : Flags) : Option CharSet :=
  f.compl?
    (if f.dotAll then .empty
      else if f.crlf then .ranges [(10, 10), (13, 13)]
      else .char '\n')

/-- What `^` stands for. -/
def lineStart (f : Flags) : Look :=
  if f.multiLine then .lineStart f.crlf else .start

/-- What `$` stands for. -/
def lineStop (f : Flags) : Look :=
  if f.multiLine then .lineStop f.crlf else .stop

/-! ## Blanks and comments -/

/-- Drops blanks and comments at the front. A comment goes to the end of its line. -/
def dropBlanks (inComment : Bool) : List Char → List Char
  | [] => []
  | c :: rest =>
    if inComment then dropBlanks (c != '\n') rest
    else if isBlank c then dropBlanks false rest
    else if c = '#' then dropBlanks true rest
    else c :: rest

/-- The rest of a pattern without what does not count at its front. -/
def skip (f : Flags) (cs : List Char) : List Char :=
  if f.extended then dropBlanks false cs else cs

/-- The characters that count up to a closing brace, and what follows the brace. -/
def braced? (f : Flags) (inComment : Bool) : List Char → Option (List Char × List Char)
  | [] => none
  | c :: rest =>
    if inComment then f.braced? (c != '\n') rest
    else if c = '\x7d' then some ([], rest)
    else if f.extended && isBlank c then f.braced? false rest
    else if f.extended && c == '#' then f.braced? true rest
    else (f.braced? false rest).map fun (cs, rest) => (c :: cs, rest)

end Flags

end GatedPredicate.Regex
