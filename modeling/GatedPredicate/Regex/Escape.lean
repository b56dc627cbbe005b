import GatedPredicate.Regex.Flags
import GatedPredicate.Regex.Property
import GatedPredicate.Text.Ascii
import GatedPredicate.Text.Search

/-!
# Escapes

What follows a backslash stands for a character, for a set of characters or for a condition.
There are no references to groups and no octal numbers.

- `Escape`
- `escape?`: what a backslash and the characters after it stand for
-/

namespace GatedPredicate.Regex

open GatedPredicate.Text

/-- What an escape stands for. -/
inductive Escape where
  | char (c : Char)
  | set (s : CharSet)
  | look (l : Look)

/-! ## Characters by number -/

/-- A fixed number of hexadecimal digits, and what follows them. -/
def fixedHex? (f : Flags) : Nat → List Char → Option (List Char × List Char)
  | 0, cs => some ([], cs)
  | _ + 1, [] => none
  | n + 1, c :: rest =>
    if isHexDigit c then (fixedHex? f n (f.skip rest)).map fun (cs, rest) => (c :: cs, rest)
    else none

/-- The character whose number some hexadecimal digits write. -/
def hexChar? (digits : List Char) : Option Char :=
  if !digits.isEmpty && digits.all isHexDigit then scalar? (numeral 16 digits) else none

/-- A character given by its number: by so many digits, or by any digits in braces. Without
Unicode two digits are a byte, which is a character only if it is ASCII. -/
def hexEscape? (f : Flags) (digits : Nat) (cs : List Char) : Option (Escape × List Char) :=
  match f.skip cs with
  | '\x7b' :: rest => do
    let (number, rest) ← f.braced? false rest
    let c ← hexChar? number
    return (.char c, rest)
  | cs => do
    let (number, rest) ← fixedHex? f digits cs
    let c ← hexChar? number
    if !f.unicode && digits == 2 && 128 ≤ c.toNat then none
    return (.char c, rest)

/-! ## Sets by name -/

/-- Splits at the first place where `mark` occurs. -/
def splitAt? (mark cs : List Char) : Option (List Char × List Char) :=
  (indexOf? mark cs).map fun i => (cs.take i, cs.drop (i + mark.length))

/-- The set that the text in the braces of a property denotes: a name, or a name and a value. -/
def bracedProperty? (content : List Char) : Option CharSet :=
  match splitAt? ['!', '='] content <|> splitAt? [':'] content <|> splitAt? ['='] content with
  | some (name, value) => propertyValueSet? name value
  | none => propertySet? content

/-- The set that the letter or the text in braces at the front denotes. -/
def propertyText? (f : Flags) (cs : List Char) : Option (CharSet × List Char) :=
  match f.skip cs with
  | [] => none
  | '\x7b' :: rest => do
    let (content, rest) ← f.braced? false rest
    let set ← bracedProperty? content
    return (set, rest)
  | c :: rest => (propertySet? [c]).map fun set => (set, rest)

/-- A property, which has no meaning without Unicode, or its complement. -/
def property? (f : Flags) (negated : Bool) (cs : List Char) : Option (Escape × List Char) := do
  let (set, rest) ← propertyText? f cs
  if !f.unicode then none
  let set ← f.close? negated set
  return (.set set, rest)

/-- The set with a name of one letter. -/
def letterClass? (f : Flags) : Char → Option CharSet
  | 'd' => some (if f.unicode then digitSet else asciiDigitSet)
  | 's' => some (if f.unicode then blankSet else asciiBlankSet)
  | 'w' => some (if f.unicode then wordSet else asciiWordSet)
  | 'D' => f.compl? digitSet
  | 'S' => f.compl? blankSet
  | 'W' => f.compl? wordSet
  | _ => none

/-! ## Conditions -/

/-- The conditions with a name in braces after `b`. -/
def namedBoundary? (unicode : Bool) (name : List Char) : Option Look :=
  match String.ofList name with
  | "start" => some (.wordStart unicode)
  | "end" => some (.wordStop unicode)
  | "start-half" => some (.noWordBefore unicode)
  | "end-half" => some (.noWordAfter unicode)
  | _ => none

/-- What follows the letter `b`. A brace with a letter in it must name a condition; any other is
a repetition. -/
def boundary? (f : Flags) (cs : List Char) : Option (Escape × List Char) :=
  match cs with
  | '\x7b' :: rest =>
    match f.skip rest with
    | c :: _ =>
      if c.isAlpha || c == '-' then do
        let (name, rest) ← f.braced? false rest
        let look ← namedBoundary? f.unicode name
        return (.look look, rest)
      else some (.look (.boundary f.unicode), cs)
    | [] => none
  | _ => some (.look (.boundary f.unicode), cs)

/-! ## Escapes -/

/-- The characters with a letter of their own. -/
def letterChar? : Char → Option Char
  | 'a' => some '\x07'
  | 'f' => some '\x0c'
  | 't' => some '\t'
  | 'n' => some '\n'
  | 'r' => some '\r'
  | 'v' => some '\x0b'
  | _ => none

/-- The conditions with a letter or sign of their own. -/
def letterLook? (f : Flags) : Char → Option Look
  | 'A' => some .start
  | 'z' => some .stop
  | 'B' => some (.noBoundary f.unicode)
  | '<' => some (.wordStart f.unicode)
  | '>' => some (.wordStop f.unicode)
  | _ => none

/-- Whether a character stands for itself after a backslash. -/
def isLiteralEscape (c : Char) : Bool :=
  c.toNat < 128 && !c.isAlphanum && c != '<' && c != '>'

/-- What the characters after a backslash stand for, and what follows them. -/
def escape? (f : Flags) (cs : List Char) : Option (Escape × List Char) :=
  match cs with
  | [] => none
  | c :: rest =>
    match c with
    | 'x' => hexEscape? f 2 rest
    | 'u' => hexEscape? f 4 rest
    | 'U' => hexEscape? f 8 rest
    | 'p' => property? f false rest
    | 'P' => property? f true rest
    | 'b' => boundary? f rest
    | _ =>
      if isLiteralEscape c then some (.char c, rest)
      else
        ((letterClass? f c).map Escape.set <|> (letterChar? c).map Escape.char <|>
          (letterLook? f c).map Escape.look).map fun e => (e, rest)

end GatedPredicate.Regex
