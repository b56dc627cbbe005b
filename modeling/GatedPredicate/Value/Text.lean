import GatedPredicate.Json.Printer
import GatedPredicate.Value.Basic

/-!
# The text of a value

What concatenation and conversion to text give. Null has no characters; text and characters
stand for themselves, also inside a list.
-/

namespace GatedPredicate.Value

open GatedPredicate.Number

/-- Joins two texts by a comma and a space, unless the second is missing. -/
def listed (item : List Char) (others : Option (List Char)) : List Char :=
  match others with
  | none => item
  | some others => item ++ ',' :: ' ' :: others

mutual

/-- The characters of a value. -/
def chars : Value → List Char
  | .null => []
  | .bool true => ['T', 'r', 'u', 'e']
  | .bool false => ['F', 'a', 'l', 's', 'e']
  | .int n => (toString n.toInt).toList
  | .uint n => (toString n.toNat).toList
  | .float x => doubleChars x "NaN" "Infinity" "-Infinity"
  | .decimal d => d.text.toList
  | .char c => [c]
  | .string s => s.toList
  | .dateTime t => t.text
  | .guid g => g.text.toList
  | .list items => '[' :: (charsAll? items).getD [] ++ [']']
  | .json (.string s) => s.toList
  | .json j => j.chars

/-- The characters of the items of a list, with separators; nothing for no items. -/
def charsAll? : List Value → Option (List Char)
  | [] => none
  | v :: rest => some (listed v.chars (charsAll? rest))

end

def text (v : Value) : String :=
  String.ofList v.chars

end GatedPredicate.Value
