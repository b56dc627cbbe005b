import GatedPredicate.Regex.CharSet
import GatedPredicate.Text.Case
import GatedPredicate.Text.Script

/-!
# Character properties by name

A name denotes a property of characters, a category or a script. Case, spaces, underscores,
hyphens and a leading `is` do not count in names.

- `plainName`: a name without what does not count
- `propertySet?`: the set that a name denotes
- `propertyValueSet?`: the set that a value of a named property denotes
-/

namespace GatedPredicate.Regex

open GatedPredicate.Text

/-! ## Names -/

/-- The characters of a name that count, in lower case. -/
def plainChars (cs : List Char) : List Char :=
  (cs.filter fun c => c.toNat < 128 && c != ' ' && c != '_' && c != '-').map Char.toLower

/-- A name without what does not count. A leading `is` counts only in the abbreviation `isc`. -/
def plainName (cs : List Char) : String :=
  match cs with
  | i :: s :: rest =>
    if i.toLower = 'i' ∧ s.toLower = 's' then
      let plain := String.ofList (plainChars rest)
      if plain = "c" then "isc" else plain
    else String.ofList (plainChars cs)
  | _ => String.ofList (plainChars cs)

/-! ## Tables of names -/

/-- The names of categories and of unions of categories. -/
def categoryNames : List (List String × List Category) :=
  [
    (["lu", "uppercaseletter"], [.upperLetter]),
    (["ll", "lowercaseletter"], [.lowerLetter]),
    (["lt", "titlecaseletter"], [.titleLetter]),
    (["lc", "casedletter"], [.upperLetter, .lowerLetter, .titleLetter]),
    (["lm", "modifierletter"], [.modifierLetter]),
    (["lo", "otherletter"], [.otherLetter]),
    (["l", "letter"], [.upperLetter, .lowerLetter, .titleLetter, .modifierLetter, .otherLetter]),
    (["mn", "nonspacingmark"], [.nonspacingMark]),
    (["mc", "spacingmark"], [.spacingMark]),
    (["me", "enclosingmark"], [.enclosingMark]),
    (["m", "mark", "combiningmark"], [.nonspacingMark, .spacingMark, .enclosingMark]),
    (["nd", "decimalnumber", "digit"], [.decimalNumber]),
    (["nl", "letternumber"], [.letterNumber]),
    (["no", "othernumber"], [.otherNumber]),
    (["n", "number"], [.decimalNumber, .letterNumber, .otherNumber]),
    (["pc", "connectorpunctuation"], [.connectorPunctuation]),
    (["pd", "dashpunctuation"], [.dashPunctuation]),
    (["ps", "openpunctuation"], [.openPunctuation]),
    (["pe", "closepunctuation"], [.closePunctuation]),
    (["pi", "initialpunctuation"], [.initialPunctuation]),
    (["pf", "finalpunctuation"], [.finalPunctuation]),
    (["po", "otherpunctuation"], [.otherPunctuation]),
    (["p", "punctuation", "punct"],
      [.connectorPunctuation, .dashPunctuation, .openPunctuation, .closePunctuation,
        .initialPunctuation, .finalPunctuation, .otherPunctuation]),
    (["sm", "mathsymbol"], [.mathSymbol]),
    (["sc", "currencysymbol"], [.currencySymbol]),
    (["sk", "modifiersymbol"], [.modifierSymbol]),
    (["so", "othersymbol"], [.otherSymbol]),
    (["s", "symbol"], [.mathSymbol, .currencySymbol, .modifierSymbol, .otherSymbol]),
    (["zs", "spaceseparator"], [.spaceSeparator]),
    (["zl", "lineseparator"], [.lineSeparator]),
    (["zp", "paragraphseparator"], [.paragraphSeparator]),
    (["z", "separator"], [.spaceSeparator, .lineSeparator, .paragraphSeparator]),
    (["cc", "control", "cntrl"], [.control]),
    (["cf", "format"], [.format]),
    (["co", "privateuse"], [.privateUse])]

/-- The characters without a category. -/
def unassignedSet : CharSet :=
  .compl (.runs assignedRuns)

/-- The categories that are not unions of tables. -/
def specialCategories : List (List String × CharSet) :=
  [
    (["any"], .range 0 0x10FFFF),
    (["ascii"], .range 0 127),
    (["assigned"], .runs assignedRuns),
    (["cn", "unassigned"], unassignedSet),
    (["c", "other"], .union unassignedSet (.categories [.control, .format, .privateUse]))]

/-- The properties that a character has or has not. -/
def binaryProperties : List (List String × CharSet) :=
  [
    (["alphabetic", "alpha"], letterSet),
    (["lowercase", "lower"], .union (.range 97 122) (.runs lowerRuns)),
    (["uppercase", "upper"], .union (.range 65 90) (.runs upperRuns)),
    (["whitespace", "wspace", "space"], blankSet),
    (["cased"],
      .union (.ranges [(65, 90), (97, 122)])
        (.union (.runs upperRuns) (.union (.runs lowerRuns) (.ranges titleRanges)))),
    (["caseignorable", "ci"], .ranges caseIgnorableRanges),
    (["asciihexdigit", "ahex"], .ranges [(48, 57), (65, 70), (97, 102)]),
    (["hexdigit", "hex"],
      .ranges [(48, 57), (65, 70), (97, 102), (0xFF10, 0xFF19), (0xFF21, 0xFF26),
        (0xFF41, 0xFF46)]),
    (["joincontrol", "joinc"], .range 0x200C 0x200D)]

/-- The first entry of a table with a name. -/
def named? (table : List (List String × α)) (name : String) : Option α :=
  (table.find? fun entry => entry.1.contains name).map Prod.snd

/-! ## Sets -/

/-- The set of a category with a plain name. -/
def categorySet? (name : String) : Option CharSet :=
  (named? categoryNames name).map CharSet.categories <|> named? specialCategories name

/-- The set that a name denotes. -/
def propertySet? (name : List Char) : Option CharSet :=
  let plain := plainName name
  named? binaryProperties plain <|> categorySet? plain <|> (scriptRuns? plain).map CharSet.runs

/-- The set of the characters whose property `name` has a value. -/
def propertyValueSet? (name value : List Char) : Option CharSet :=
  let property := plainName name
  let plain := plainName value
  if property = "gc" ∨ property = "generalcategory" then categorySet? plain
  else if property = "sc" ∨ property = "script" then (scriptRuns? plain).map CharSet.runs
  else none

end GatedPredicate.Regex
