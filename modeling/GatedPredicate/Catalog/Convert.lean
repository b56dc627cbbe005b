import GatedPredicate.Catalog.Module
import GatedPredicate.Decimal.Reader
import GatedPredicate.Number.DoubleText
import GatedPredicate.Text.Blank
import GatedPredicate.Value.Numeric
import GatedPredicate.Value.Text

/-!
# Conversions

Functions that turn values of most kinds into one kind. Null becomes zero, false or the empty
text. Texts are read without the blanks around them.
-/

namespace GatedPredicate.Catalog

open GatedPredicate.Number GatedPredicate.Text

/-- The tag of the module. -/
def convertTag : String := "System.Convert"

/-- A value that cannot be converted at all. -/
def notConvertible {α : Type} (name : String) (v : Value) : Outcome α :=
  .error (.functionFailed name (.notConvertible v.type))

/-- What a text denotes, or the error of a text that denotes nothing. -/
def orMalformed {α : Type} (name : String) (found : Option α) : Outcome α :=
  match found with
  | some x => .ok x
  | none => .error (.functionFailed name .malformedText)

/-- Converts to a signed integer. Numbers are rounded half to even. -/
def toInt64 (v : Value) : Outcome Int64 :=
  let name := "Convert.ToInt64"
  match v with
  | .null => .ok 0
  | .int n => .ok n
  | .uint n => orOverflow (int64? n.toNat)
  | .bool b => .ok (if b then 1 else 0)
  | .char c => .ok (Int64.ofNat c.toNat)
  | .float x => orOverflow ((wholeDouble? (roundHalfEven x)).bind int64?)
  | .decimal d => orOverflow (int64? d.round.toInt)
  | .string s => orMalformed name (readInt64? (trimChars s.toList))
  | other => notConvertible name other

def toDouble (v : Value) : Outcome Float :=
  let name := "Convert.ToDouble"
  match v with
  | .null => .ok 0
  | .bool b => .ok (if b then 1 else 0)
  | .string s => orMalformed name (readDouble? (trimChars s.toList))
  | other =>
    match other.toDouble? with
    | some x => .ok x
    | none => notConvertible name other

def toDecimal (v : Value) : Outcome Decimal :=
  let name := "Convert.ToDecimal"
  match v with
  | .null => .ok Decimal.zero
  | .bool b => .ok (if b then Decimal.one else Decimal.zero)
  | .int n => .ok (Decimal.ofInt64 n)
  | .uint n => .ok (Decimal.ofUInt64 n)
  | .decimal d => .ok d
  | .float x => orOverflow (Decimal.ofDouble? x)
  | .string s => orMalformed name (Decimal.read? (trimChars s.toList))
  | other => notConvertible name other

/-- Converts to a truth value: numbers other than zero are true. Texts are the two words in any
case. -/
def toBool (v : Value) : Outcome Bool :=
  let name := "Convert.ToBoolean"
  match v with
  | .null => .ok false
  | .bool b => .ok b
  | .int n => .ok (n.toInt != 0)
  | .uint n => .ok (n.toNat != 0)
  | .float x => .ok (x != 0)
  | .decimal d => .ok !d.isZero
  | .string s =>
    let word := String.ofList (trimChars s.toList)
    if sameName word "true" then .ok true
    else if sameName word "false" then .ok false
    else .error (.functionFailed name .malformedText)
  | other => notConvertible name other

/-- The module of conversions. -/
def convertModule : Module where
  tag := convertTag
  aliases := ["Convert"]
  imported := false
  functions :=
    [⟨"ToInt64", [.unary (.fixed .int) fun v => (toInt64 v).map .int]⟩,
      ⟨"ToDouble", [.unary (.fixed .float) fun v => (toDouble v).map .float]⟩,
      ⟨"ToDecimal", [.unary (.fixed .decimal) fun v => (toDecimal v).map .decimal]⟩,
      ⟨"ToString", [.unary (.fixed .string) fun v => .ok (.string v.text)]⟩,
      ⟨"ToBoolean", [.unary (.fixed .bool) fun v => (toBool v).map .bool]⟩]
  constants := []

end GatedPredicate.Catalog
