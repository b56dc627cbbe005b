import GatedPredicate.Decimal.Double
import GatedPredicate.Decimal.Reader
import GatedPredicate.Number.DoubleText
import GatedPredicate.Text.Blank
import GatedPredicate.Time.Reader
import GatedPredicate.Value.Basic

/-!
# Coercion of raw input

Raw input is text, a calendar date, a value or a list of these. Text becomes the first of the
following that accepts it: a truth value, a signed integer, an unsigned one, a single, a double,
a decimal, a character, a date-time, an identifier. Text that none of them accepts stays text.
All but the character ignore blanks around the text.

- `Raw`, `CoercionOptions`
- `cascade`: the stages in order
- `coerceText`, `Raw.coerce`
-/

namespace GatedPredicate

open GatedPredicate.Number GatedPredicate.Text

/-- How coercion treats texts of one character. -/
structure CoercionOptions where
  /-- Whether a text of one character becomes a character. -/
  singleCharAsChar : Bool
deriving DecidableEq

/-- A text of one character becomes a character. -/
def CoercionOptions.standard : CoercionOptions := ⟨true⟩

/-- Input that has not been coerced yet. -/
inductive Raw where
  /-- A value that is kept as it is. -/
  | value (v : Value)
  | text (s : String)
  | date (d : Date)
  | list (items : List Raw)

/-! ## Stages -/

/-- Tries to read a text as one kind of value. -/
abbrev Stage := List Char → Option Value

/-- Reads `true` or `false` in any case. -/
def readBool? (cs : List Char) : Option Bool :=
  let word := cs.map Char.toLower
  if word = ['t', 'r', 'u', 'e'] then some true
  else if word = ['f', 'a', 'l', 's', 'e'] then some false
  else none

/-- A truth value. -/
def boolStage : Stage := fun cs =>
  (readBool? (trimChars cs)).map .bool

/-- An unsigned integer below 256, as a signed one. -/
def byteStage : Stage := fun cs =>
  (readUInt64? (trimChars cs)).bind fun n =>
    if n.toNat < 2 ^ 8 then some (.int (Int64.ofNat n.toNat)) else none

/-- A signed integer of 32 bits. -/
def int32Stage : Stage := fun cs =>
  (readInt64? (trimChars cs)).bind fun n =>
    if -2 ^ 31 ≤ n.toInt ∧ n.toInt < 2 ^ 31 then some (.int n) else none

/-- A signed integer of 64 bits. -/
def int64Stage : Stage := fun cs =>
  (readInt64? (trimChars cs)).map .int

/-- An unsigned integer of 64 bits. -/
def uint64Stage : Stage := fun cs =>
  (readUInt64? (trimChars cs)).map .uint

/-- Whether a text may denote a double: after any signs a digit or a point, or one of the two
names of special values in their usual spelling. -/
def looksLikeDouble (cs : List Char) : Bool :=
  let body := cs.dropWhile fun c => c == '+' || c == '-'
  (body.head?.any fun c => c.isDigit || c == '.') || body == "NaN".toList ||
    body == "Infinity".toList

/-- Whether a text ends in the name of the infinite value. -/
def namesInfinity (cs : List Char) : Bool :=
  "Infinity".toList.isSuffixOf cs

/-- Whether a double loses nothing of its text: the text is no decimal at all, or every
digit of the double that a decimal holds makes that decimal. -/
def isExactFor (x : Float) (cs : List Char) : Bool :=
  match Decimal.read? cs with
  | none => true
  | some exact => (Decimal.retain? x).any fun kept => kept.sameValue exact

/-- A double that a reader finds in a text, if it loses nothing. -/
def exactDouble? (read? : List Char → Option Float) (cs : List Char) : Option Float :=
  if looksLikeDouble cs then
    (read? cs).bind fun x =>
      if x.isInf && !namesInfinity cs then none
      else if isExactFor x cs then some x
      else none
  else none

/-- A number of single precision. -/
def singleStage : Stage := fun cs =>
  (exactDouble? readSingle? (trimChars cs)).map .float

/-- A number of double precision. -/
def doubleStage : Stage := fun cs =>
  (exactDouble? readDouble? (trimChars cs)).map .float

def decimalStage : Stage := fun cs =>
  (Decimal.read? (trimChars cs)).map .decimal

/-- A text that is one character. -/
def charStage : Stage := fun cs =>
  match cs with
  | [c] => some (.char c)
  | _ => none

def dateTimeStage : Stage := fun cs =>
  (Time.read? (String.ofList cs)).map .dateTime

/-- A unique identifier. -/
def guidStage : Stage := fun cs =>
  (Guid.read? (trimChars cs)).map .guid

/-- The stages in the order in which they are tried. -/
def cascade (options : CoercionOptions) : List Stage :=
  [boolStage, byteStage, int32Stage, int64Stage, uint64Stage, singleStage, doubleStage,
    decimalStage] ++
    (if options.singleCharAsChar then [charStage] else []) ++ [dateTimeStage, guidStage]

/-! ## Coercion -/

/-- The value of a text: that of the first stage that accepts it, else the text itself. -/
def coerceText (options : CoercionOptions) (s : String) : Value :=
  ((cascade options).findSome? fun stage => stage s.toList).getD (.string s)

mutual

/-- The value of raw input. A date goes through its text. -/
def Raw.coerce (options : CoercionOptions) : Raw → Value
  | .value v => v
  | .text s => coerceText options s
  | .date d => coerceText options (String.ofList d.text)
  | .list items => .list (coerceAll options items)

/-- The values of a list of raw inputs. -/
def coerceAll (options : CoercionOptions) : List Raw → List Value
  | [] => []
  | r :: rest => r.coerce options :: coerceAll options rest

end

end GatedPredicate
