import GatedPredicate.Text.CaseTable

/-!
# Upper and lower case

Full case conversion of texts. One character may become several, and the lower-case form of the
Greek capital sigma depends on whether it ends a word.

- `isUpper`, `isLower`
- `upperCase`, `lowerCase`
-/

namespace GatedPredicate.Text

/-- The characters with Unicode's `Uppercase` property. -/
def isUpper (c : Char) : Bool :=
  c.isUpper || inRuns upperRuns c.toNat

/-- The characters with Unicode's `Lowercase` property. -/
def isLower (c : Char) : Bool :=
  c.isLower || inRuns lowerRuns c.toNat

/-! ## Upper case -/

/-- The upper-case form of a character. -/
def upperChars (c : Char) : List Char :=
  if c.toNat < 128 then [c.toUpper]
  else
    match upperExpansions.find? fun e => e.1 == c.toNat with
    | some e => e.2.map Char.ofNat
    | none => [Char.ofNat (shifted upperShifts c.toNat)]

def upperCase (cs : List Char) : List Char :=
  cs.flatMap upperChars

/-! ## Lower case -/

/-- Whether a character has case. -/
def isCased (c : Char) : Bool :=
  isUpper c || isLower c || inRanges titleRanges c.toNat

/-- Whether a cased character comes next, after characters that do not matter for case. -/
def casedNext (cs : List Char) : Bool :=
  ((cs.dropWhile fun c => inRanges caseIgnorableRanges c.toNat).head?.map isCased).getD false

def capitalSigma : Char := '\u03A3'

/-- The lower-case form of a character other than the capital sigma. The dotted capital I is the
only one that becomes two characters. -/
def lowerChars (c : Char) : List Char :=
  if c.toNat < 128 then [c.toLower]
  else if c = '\u0130' then ['i', '\u0307']
  else [Char.ofNat (shifted lowerShifts c.toNat)]

/-- Converts the characters that follow `before`, which is given backwards. -/
def lowerAfter (before : List Char) : List Char → List Char
  | [] => []
  | c :: rest =>
    let lower :=
      if c = capitalSigma then
        if casedNext before && !casedNext rest then ['\u03C2'] else ['\u03C3']
      else lowerChars c
    lower ++ lowerAfter (c :: before) rest

def lowerCase (cs : List Char) : List Char :=
  lowerAfter [] cs

end GatedPredicate.Text
