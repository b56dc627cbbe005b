import GatedPredicate.Regex.Bracket
import GatedPredicate.Regex.Size

/-!
# Reading patterns

A pattern is read in one go from left to right, with the unfinished groups around the place on a
stack. Alternatives bind least tightly, repetitions most tightly.

- `Part`, `Level`: patterns under construction
- `range?`: the text in the braces of a repetition
- `openGroup?`: what follows an opening parenthesis
- `read?`: the pattern that a text writes
-/

namespace GatedPredicate.Regex

open GatedPredicate.Text

/-! ## Patterns under construction -/

/-- A part of a pattern and how deeply it is nested. A change of flags is an empty part that
cannot be repeated. -/
structure Part where
  pattern : Pattern
  depth : Nat
  repeats : Bool := true

/-- A group under construction. -/
structure Level where
  /-- The flags at the place. -/
  flags : Flags
  /-- Whether the group counts as a capture. -/
  captures : Bool := true
  /-- The alternatives before the one at the place, latest first. -/
  branches : List Part := []
  /-- The parts of the alternative at the place, latest first. -/
  parts : List Part := []

/-- The depth of parts taken together. -/
def joinedDepth (parts : List Part) : Nat :=
  (parts.map Part.depth).foldl max 0 + 1

/-- Parts in a row. -/
def concat (parts : List Part) : Part :=
  match parts with
  | [] => ⟨.empty, 0, true⟩
  | [p] => p
  | p :: rest =>
    ⟨rest.foldr (fun q k first => .seq first (k q.pattern)) id p.pattern, joinedDepth parts, true⟩

/-- Alternative parts. -/
def alternatives (parts : List Part) : Part :=
  match parts with
  | [] => ⟨.empty, 0, true⟩
  | [p] => p
  | p :: rest =>
    ⟨rest.foldl (fun whole q => .alt whole q.pattern) p.pattern, joinedDepth parts, true⟩

namespace Level

/-- One more part in a row. -/
def add (l : Level) (p : Part) : Level :=
  { l with parts := p :: l.parts }

/-- One more part without structure of its own. -/
def addPattern (l : Level) (p : Pattern) : Level :=
  l.add ⟨p, 0, true⟩

/-- The alternative at the place. -/
def branch (l : Level) : Part :=
  concat l.parts.reverse

/-- Begins another alternative. -/
def split (l : Level) : Level :=
  { l with branches := l.branch :: l.branches, parts := [] }

/-- What a level describes. -/
def content (l : Level) : Part :=
  alternatives (l.branch :: l.branches).reverse

/-- The finished group. -/
def close (l : Level) : Part :=
  let content := l.content
  ⟨if l.captures then .group content.pattern else content.pattern, content.depth + 1, true⟩

/-- Repeats the latest part; none if there is none that can be repeated. -/
def repeat? (l : Level) (least : Nat) (most : Option Nat) : Option Level :=
  match l.parts with
  | p :: rest =>
    if p.repeats then
      some { l with parts := ⟨.times p.pattern least most, p.depth + 1, true⟩ :: rest }
    else none
  | [] => none

end Level

/-! ## Repetitions -/

/-- The largest number of repetitions that can be written. -/
def maxCount : Nat :=
  4294967295

/-- A number of repetitions, with blanks around it. -/
def count? (cs : List Char) : Option Nat := do
  let n ← decimalNumeral? (trimChars cs)
  if n ≤ maxCount then some n else none

/-- The numbers in the braces of a repetition: `n`, `n,` or `n,m`. -/
def range? (content : List Char) : Option (Nat × Option Nat) :=
  match content.span (· != ',') with
  | (least, []) => (count? least).map fun n => (n, some n)
  | (least, [_]) => (count? least).map fun n => (n, none)
  | (least, _ :: most) => do
    let n ← count? least
    let m ← count? most
    if n ≤ m then some (n, some m) else none

/-- Drops a question mark, which asks to try fewer repetitions first. -/
def dropLazy (cs : List Char) : List Char :=
  match cs with
  | '?' :: rest => rest
  | _ => cs

/-! ## Groups -/

/-- Whether a character may stand in the name of a group. -/
def isGroupName (first : Bool) (c : Char) : Bool :=
  if first then c == '_' || isLetter c
  else
    c == '_' || c == '.' || c == '[' || c == ']' || isLetter c ||
      (CharSet.categories [.decimalNumber, .letterNumber, .otherNumber]).mem c

/-- The name of a group up to `>`, and what follows. -/
def groupName? (cs : List Char) : Option (List Char × List Char) :=
  match cs.span (· != '>') with
  | (c :: name, _ :: rest) =>
    if isGroupName true c && name.all (isGroupName false) then some (c :: name, rest) else none
  | _ => none

/-- What an opening parenthesis begins. -/
inductive Opening where
  /-- A group, with a name if it has one. -/
  | capture (name : Option (List Char))
  /-- A group that is no capture, with flags of its own. -/
  | plain (flags : Flags)
  /-- No group but flags for the rest of the group around the place. -/
  | flags (flags : Flags)

/-- What follows an opening parenthesis. Conditions on the text before and after a place are not
supported, and neither are flags without a letter. -/
def openGroup? (f : Flags) (cs : List Char) : Option (Opening × List Char) :=
  match f.skip cs with
  | '?' :: 'P' :: '<' :: rest | '?' :: '<' :: rest =>
    (groupName? rest).map fun (name, rest) => (.capture (some name), rest)
  | '?' :: rest =>
    match rest.span fun c => c != ':' && c != ')' with
    | (letters, c :: rest) => do
      let flags ← f.withLetters? letters
      if c = ':' then return (.plain flags, rest)
      if letters.isEmpty then none
      return (.flags flags, rest)
    | (_, []) => none
  | rest => some (.capture none, rest)

/-! ## Patterns -/

/-- How deeply a pattern may be nested. -/
def maxDepth : Nat :=
  250

/-- The place that reading has reached. -/
structure State where
  /-- The group around the place. -/
  level : Level
  /-- The groups around that one, innermost first. -/
  outer : List Level
  /-- The names of groups so far. -/
  names : List (List Char)

namespace State

/-- Changes the group around the place. -/
def update (s : State) (l : Level) : State :=
  { s with level := l }

/-- Begins what an opening parenthesis stands for; none if a name is taken. -/
def begin? (s : State) : Opening → Option State
  | .capture name =>
    if name.any s.names.contains then none
    else some ⟨{ flags := s.level.flags }, s.level :: s.outer, name.toList ++ s.names⟩
  | .plain flags => some ⟨{ flags, captures := false }, s.level :: s.outer, s.names⟩
  | .flags flags => some (s.update { s.level.add ⟨.empty, 0, false⟩ with flags })

/-- Ends a group; none if there is none. -/
def finish? (s : State) : Option State :=
  match s.outer with
  | [] => none
  | l :: outer => some { s with level := l.add s.level.close, outer }

end State

def Escape.pattern (f : Flags) : Escape → Pattern
  | .char c => .one (f.literal c)
  | .set s => .one s
  | .look l => .look l

/-- One step of reading, from a text that starts with `c` and goes on with `rest`. -/
def step? (s : State) (c : Char) (rest : List Char) : Option (State × List Char) :=
  let l := s.level
  let f := l.flags
  let add (p : Pattern) : Option (State × List Char) := some (s.update (l.addPattern p), rest)
  let repeated (least : Nat) (most : Option Nat) : Option (State × List Char) :=
    (l.repeat? least most).map fun l => (s.update l, dropLazy rest)
  match c with
  | '(' => do
    let (opening, rest) ← openGroup? f rest
    let s ← s.begin? opening
    return (s, rest)
  | ')' => s.finish?.map fun s => (s, rest)
  | '|' => some (s.update l.split, rest)
  | '[' =>
    (readBracket? f rest).map fun (t, rest) =>
      (s.update (l.add ⟨.one t.set, t.depth, true⟩), rest)
  | '?' => repeated 0 (some 1)
  | '*' => repeated 0 none
  | '+' => repeated 1 none
  | '\x7b' => do
    let (content, rest) ← f.braced? false rest
    let (least, most) ← range? content
    let l ← l.repeat? least most
    return (s.update l, dropLazy (f.skip rest))
  | '\\' => (escape? f rest).map fun (e, rest) => (s.update (l.addPattern (e.pattern f)), rest)
  | '.' => f.dot?.bind fun set => add (.one set)
  | '^' => add (.look f.lineStart)
  | '$' => add (.look f.lineStop)
  | c => add (.one (f.literal c))

/-- Reads to the end of a text. Every step takes a character, so as many steps as there are
characters are enough. -/
def readLoop : Nat → State → List Char → Option State
  | 0, _, _ => none
  | n + 1, s, cs =>
    match s.level.flags.skip cs with
    | [] => some s
    | c :: rest => (step? s c rest).bind fun (s, rest) => readLoop n s rest

/-- The pattern that a text writes under flags; none if it writes none, nests too deeply or is
too large. -/
def read? (f : Flags) (text : String) : Option Pattern := do
  let cs := text.toList
  let s ← readLoop (cs.length + 1) ⟨{ flags := f }, [], []⟩ cs
  let whole := s.level.content
  if s.outer.isEmpty ∧ whole.depth ≤ maxDepth ∧ whole.pattern.fits then some whole.pattern else none

end GatedPredicate.Regex
