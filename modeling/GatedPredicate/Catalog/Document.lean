import GatedPredicate.Catalog.Module
import GatedPredicate.Catalog.Object
import GatedPredicate.Decimal.Reader
import GatedPredicate.Json.Printer
import GatedPredicate.Json.Reader

/-!
# JSON documents

Reading a text as a JSON document and asking for its parts. A getter fails on an element of
another kind instead of converting it.
-/

namespace GatedPredicate.Catalog

open GatedPredicate.Number

/-- The tag of the members of JSON values. -/
def jsonTag : String := "System.Text.Json"

/-- The tag of the module of documents. -/
def documentTag : String := "System.Text.Json.JsonDocument"

/-- Reads a document. Its fields are put into canonical order. -/
def parseDocument (v : Value) : Outcome Value :=
  (textArgument "JsonDocument.Parse" v).bind fun s =>
    match Json.read? s with
    | some j => .ok (.json j.canonical)
    | none => .error (.functionFailed "JsonDocument.Parse" .malformedJson)

def documentModule : Module where
  tag := documentTag
  aliases := ["JsonDocument"]
  imported := false
  functions := [⟨"Parse", [.unary (.fixed .json) parseDocument]⟩]
  constants := []

/-! ## Elements -/

/-- The name of the kind of an element. -/
def elementKind : Json → String
  | .null => "Null"
  | .bool true => "True"
  | .bool false => "False"
  | .number _ => "Number"
  | .string _ => "String"
  | .array _ => "Array"
  | .object _ => "Object"

/-- The element that receives a member. -/
def elementReceiver (v : Value) : Outcome Json :=
  match v with
  | .json j => .ok j
  | other => .error (.expected "JSON member" "JsonElement" other.type)

/-- The value of a field. -/
def getProperty (v key : Value) : Outcome Value :=
  let name := "JsonElement.GetProperty"
  (elementReceiver v).bind fun j =>
    (textArgument name key).bind fun k =>
      match j with
      | .object fields =>
        match Json.field? k fields with
        | some x => .ok (.json x)
        | none => .error (.functionFailed name .keyNotPresent)
      | other => .error (.functionFailed name (.notAnObject (elementKind other)))

/-- An element as a signed integer. -/
def elementInt64? : Json → Option Int64
  | .number (.natural n) => int64? n.toNat
  | .number (.negative n) => some n
  | _ => none

/-- An element as a signed integer of 32 bits. -/
def elementInt32? (j : Json) : Option Int64 :=
  (elementInt64? j).bind fun n =>
    if -2 ^ 31 ≤ n.toInt ∧ n.toInt < 2 ^ 31 then some n else none

def elementDouble? : Json → Option Float
  | .number (.natural n) => some (doubleOfInt n.toNat)
  | .number (.negative n) => some (doubleOfInt n.toInt)
  | .number (.double x _) => some x
  | _ => none

/-- A number element as the decimal that its text denotes. -/
def elementDecimal? : Json → Option Decimal
  | .number n => Decimal.read? n.text
  | _ => none

/-- A text element, or null. -/
def elementText? : Json → Option Value
  | .string s => some (.string s)
  | .null => some .null
  | _ => none

/-- A truth value. -/
def elementBool? : Json → Option Bool
  | .bool b => some b
  | _ => none

/-- The number of items of an array. -/
def elementLength? : Json → Option Nat
  | .array items => some items.length
  | _ => none

/-- A method that reads an element of a suitable kind. -/
def elementGetter (name : String) (result : ValueType) (read? : Json → Option Value) : Member :=
  ⟨name, jsonTag, .json, false, [.getter result fun v =>
    (elementReceiver v).bind fun j =>
      match read? j with
      | some x => .ok x
      | none =>
        .error (.functionFailed ("JsonElement." ++ name) (.notReadable (elementKind j)))]⟩

/-- The members of JSON values. -/
def jsonMembers : List Member :=
  [⟨"RootElement", jsonTag, .json, true, [.getter .json fun v => .ok v]⟩,
    ⟨"ValueKind", jsonTag, .json, true, [.getter .string fun v =>
      (elementReceiver v).map fun j => .string (elementKind j)]⟩,
    ⟨"GetProperty", jsonTag, .json, false, [.method1 .json getProperty]⟩,
    elementGetter "GetBoolean" .bool fun j => (elementBool? j).map .bool,
    elementGetter "GetString" .string elementText?,
    elementGetter "GetInt32" .int fun j => (elementInt32? j).map .int,
    elementGetter "GetInt64" .int fun j => (elementInt64? j).map .int,
    elementGetter "GetDouble" .float fun j => (elementDouble? j).map .float,
    elementGetter "GetDecimal" .decimal fun j => (elementDecimal? j).map .decimal,
    elementGetter "GetArrayLength" .int fun j => (elementLength? j).map .ofNat]

end GatedPredicate.Catalog
