import GatedPredicate.Decimal.Basic
import GatedPredicate.Guid
import GatedPredicate.Json.Basic
import GatedPredicate.Number.Word
import GatedPredicate.Time.DateTime
import GatedPredicate.Value.Type

/-!
# Values

Everything an expression can observe while it runs.

- `Value`, `Value.type`
- `Value.int?`: an integer of either kind as a signed one
-/

namespace GatedPredicate

inductive Value where
  | null
  | bool (b : Bool)
  /-- A signed integer; narrower integers are widened to it. -/
  | int (n : Int64)
  | uint (n : UInt64)
  | float (x : Float)
  | decimal (d : Decimal)
  | char (c : Char)
  | string (s : String)
  | dateTime (t : DateTime)
  | guid (g : Guid)
  | list (items : List Value)
  /-- A JSON document or a part of one, in canonical order. -/
  | json (j : Json)

namespace Value

instance : Inhabited Value := ⟨.null⟩

def type : Value → ValueType
  | .null => .null
  | .bool _ => .bool
  | .int _ => .int
  | .uint _ => .uint
  | .float _ => .float
  | .decimal _ => .decimal
  | .char _ => .char
  | .string _ => .string
  | .dateTime _ => .dateTime
  | .guid _ => .guid
  | .list _ => .list
  | .json _ => .json

/-- A count as a value. -/
def ofNat (n : Nat) : Value :=
  .int (Int64.ofNat n)

/-- An integer of either kind that a signed one can hold. -/
def int? : Value → Option Int64
  | .int n => some n
  | .uint n => Number.int64? n.toNat
  | _ => none

/-- No value is dynamic: its type is known. -/
theorem type_ne_dynamic (v : Value) : v.type ≠ .dynamic := by
  cases v <;> simp [type]

end Value

end GatedPredicate
