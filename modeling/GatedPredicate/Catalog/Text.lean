import GatedPredicate.Catalog.Module
import GatedPredicate.Catalog.Object
import GatedPredicate.Text.Blank
import GatedPredicate.Text.Case
import GatedPredicate.Text.Letter
import GatedPredicate.Text.Search

/-!
# Texts and characters

Positions and lengths count characters. Searching takes a text or a single character, and the
classes of characters take a character or a text that is one character long.
-/

namespace GatedPredicate.Catalog

open GatedPredicate.Number GatedPredicate.Text

/-- The tag of the functions and members of texts. -/
def stringTag : String := "System.String"

/-- The tag of the functions on characters. -/
def charTag : String := "System.Char"

/-! ## Static functions -/

/-- Whether a text is null or satisfies `test`. -/
def nullOr (name : String) (test : String → Bool) (v : Value) : Outcome Value :=
  match v with
  | .null => .ok (.bool true)
  | .string s => .ok (.bool (test s))
  | other => .error (.expected name "string" other.type)

/-- The texts of all arguments, joined. -/
def concat (args : List Value) : Outcome Value :=
  .ok (.string (String.ofList (args.flatMap Value.chars)))

/-- Equality of texts, of which either may be null. -/
def textEquals (a b : Value) : Outcome Value :=
  match a, b with
  | .null, .null => .ok (.bool true)
  | .string x, .string y => .ok (.bool (x == y))
  | .null, .string _ => .ok (.bool false)
  | .string _, .null => .ok (.bool false)
  | a, b => .error (.typeMismatch "String.Equals" (.expectedTwo "strings" a.type b.type))

/-- The module of texts. -/
def stringModule : Module where
  tag := stringTag
  aliases := ["String", "string"]
  imported := false
  functions :=
    [⟨"IsNullOrEmpty", [.unary (.fixed .bool) (nullOr "String.IsNullOrEmpty" String.isEmpty)]⟩,
      ⟨"IsNullOrWhiteSpace", [.unary (.fixed .bool)
        (nullOr "String.IsNullOrWhiteSpace" fun s => s.toList.all isBlank)]⟩,
      ⟨"Concat", [⟨2, .fixed .string, concat⟩, ⟨3, .fixed .string, concat⟩,
        ⟨4, .fixed .string, concat⟩]⟩,
      ⟨"Equals", [.binary (.fixed .bool) textEquals]⟩]
  constants := []

/-! ## Classes of characters -/

/-- A character, or a text that is one character long. -/
def charArgument (name : String) (v : Value) : Outcome Char :=
  match v with
  | .char c => .ok c
  | .string s =>
    match s.toList with
    | [c] => .ok c
    | _ => .error (.functionFailed name .notOneCharacter)
  | other => .error (.expected name "char" other.type)

/-- A function that tells whether a character is in a class. -/
def charClass (name : String) (test : Char → Bool) : Function :=
  ⟨name, [.unary (.fixed .bool) fun v =>
    (charArgument ("Char." ++ name) v).map fun c => .bool (test c)]⟩

/-- The module of characters. -/
def charModule : Module where
  tag := charTag
  aliases := ["Char", "char"]
  imported := false
  functions :=
    [charClass "IsDigit" Char.isDigit, charClass "IsLetter" isLetter,
      charClass "IsUpper" isUpper, charClass "IsLower" isLower,
      charClass "IsWhiteSpace" isBlank]
  constants := []

/-! ## Members -/

/-- The text that receives a member. -/
def textReceiver (v : Value) : Outcome String :=
  match v with
  | .string s => .ok s
  | other => .error (.expected "string member" "string" other.type)

/-- A text or a character to search for. -/
def needle (name : String) (v : Value) : Outcome (List Char) :=
  match v with
  | .string s => .ok s.toList
  | .char c => .ok [c]
  | .null => .error (.functionFailed name .nullArgument)
  | other => .error (.expected name "string" other.type)

/-- A position or length. -/
def positionArgument (name : String) (v : Value) : Outcome Int :=
  match v.int? with
  | some n => .ok n.toInt
  | none => .error (.expected name "long" v.type)

/-- A position that must not be negative nor greater than `limit`. -/
def positionUpTo (limit : Nat) (name : String) (v : Value) : Outcome Nat :=
  (positionArgument name v).bind fun n =>
    if 0 ≤ n ∧ n ≤ limit then .ok n.toNat else .error (.functionFailed name .outsideText)

/-- A method that searches a text. -/
def searching (name : String) (result : ValueType)
    (search : List Char → List Char → Outcome Value) : Member :=
  let qualified := "String." ++ name
  ⟨name, stringTag, .string, false, [.method1 result fun v w =>
    (textReceiver v).bind fun s => (needle qualified w).bind fun n => search n s.toList]⟩

/-- The first position of a needle, or -1. Its place in bytes is found first, and the characters
before that are counted. -/
def positionOf (needle cs : List Char) : Outcome Value :=
  match byteIndex? needle cs with
  | none => .ok (.int (-1))
  | some place =>
    match takeBytes? place cs with
    | some front => .ok (.ofNat front.length)
    -- a needle begins where a character does, so there is no such place
    | none => .error (.unexpected .outOfBounds)

/-- A method without arguments or a property of texts. -/
def textMember (name : String) (isProperty : Bool) (result : ValueType)
    (read : List Char → Value) : Member :=
  ⟨name, stringTag, .string, isProperty,
    [.getter result fun v => (textReceiver v).map fun s => read s.toList]⟩

/-- A text value with the given characters. -/
def textOf (cs : List Char) : Value :=
  .string (String.ofList cs)

/-- The `n` characters from place `i` on, which must all be there. -/
def slice (cs : List Char) (i n : Nat) : Outcome Value :=
  if i + n ≤ cs.length then .ok (textOf ((cs.drop i).take n))
  else .error (.unexpected .outOfBounds)

/-- The characters from a position on. -/
def substringFrom (v start : Value) : Outcome Value :=
  (textReceiver v).bind fun s =>
    let cs := s.toList
    (positionUpTo cs.length "String.Substring" start).bind fun i => slice cs i (cs.length - i)

/-- A number of characters from a position on. -/
def substring (v start length : Value) : Outcome Value :=
  (textReceiver v).bind fun s =>
    let cs := s.toList
    (positionUpTo cs.length "String.Substring" start).bind fun i =>
      (positionUpTo (cs.length - i) "String.Substring" length).bind fun n => slice cs i n

/-- The members of texts. -/
def stringMembers : List Member :=
  [textMember "Length" true .int fun cs => .ofNat cs.length,
    textMember "IsEmpty" true .bool fun cs => .bool cs.isEmpty,
    searching "Contains" .bool fun n cs => .ok (.bool (occursIn n cs)),
    searching "StartsWith" .bool fun n cs => .ok (.bool (n.isPrefixOf cs)),
    searching "EndsWith" .bool fun n cs => .ok (.bool (n.isSuffixOf cs)),
    searching "IndexOf" .int positionOf,
    textMember "ToUpper" false .string fun cs => textOf (upperCase cs),
    textMember "ToLower" false .string fun cs => textOf (lowerCase cs),
    textMember "Trim" false .string fun cs => textOf (trimChars cs),
    ⟨"Substring", stringTag, .string, false,
      [.method1 .string substringFrom, .method2 .string substring]⟩]

end GatedPredicate.Catalog
