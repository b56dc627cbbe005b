import GatedPredicate.Catalog.Module
import GatedPredicate.Catalog.Object
import GatedPredicate.Regex.Match

/-!
# Regular expressions

Whether a text matches a pattern, with options that are a sum of flags.
-/

namespace GatedPredicate.Catalog

/-- The tag of the module. -/
def patternTag : String := "System.Text.RegularExpressions.Regex"

/-- The tag of the module of options. -/
def patternOptionsTag : String := "System.Text.RegularExpressions.RegexOptions"

/-- The options by name, with the bit of each. -/
def patternOptions : List (String × Nat) :=
  [("None", 0), ("IgnoreCase", 1), ("Multiline", 2), ("Singleline", 16),
    ("IgnorePatternWhitespace", 32)]

/-- The flags that a sum of options denotes; none if it has any other bit. -/
def patternFlags? (sum : Int) : Option Regex.Flags :=
  let n := sum.toNat
  if sum < 0 ∨ 64 ≤ sum ∨ n / 4 % 4 ≠ 0 then none
  else
    some
      { ignoreCase := n.testBit 0
        multiLine := n.testBit 1
        dotAll := n.testBit 4
        extended := n.testBit 5 }

/-- Whether a text matches a pattern under a sum of options. -/
def matchWith (sum : Int) (input pattern : Value) : Outcome Value :=
  let name := "Regex.IsMatch"
  (textArgument name input).bind fun s =>
    (textArgument name pattern).bind fun p =>
      match patternFlags? sum with
      | none => .error (.functionFailed name .unsupportedOptions)
      | some flags =>
        match Regex.isMatch? flags p s with
        | some b => .ok (.bool b)
        | none => .error (.functionFailed name .malformedPattern)

/-- Whether a text matches a pattern under options. -/
def matchOptions (input pattern options : Value) : Outcome Value :=
  match options.int? with
  | some n => matchWith n.toInt input pattern
  | none => .error (.expected "Regex.IsMatch" "RegexOptions" options.type)

def patternModule : Module where
  tag := patternTag
  aliases := ["Regex"]
  imported := false
  functions :=
    [⟨"IsMatch", [.binary (.fixed .bool) (matchWith 0), .ternary (.fixed .bool) matchOptions]⟩]
  constants := []

def patternOptionsModule : Module where
  tag := patternOptionsTag
  aliases := ["RegexOptions"]
  imported := false
  functions := []
  constants := patternOptions.map fun (name, n) => (name, .ofNat n)

end GatedPredicate.Catalog
