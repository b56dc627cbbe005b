/-!
# JSON values

The tree of a JSON text. Integers that fit 64 bits are kept apart from all other numbers, which
are doubles. Fields stand in the order of the text until `canonical` sorts them.

- `Json`, `Json.Number`, `Json.Number.ofDouble?`
- `Json.same`: equality of trees, numbers of different kinds being different
- `Json.canonical`: fields sorted by name, of a repeated name the last field only
- `Json.field?`
-/

namespace GatedPredicate

/-- A number of a JSON text. -/
inductive Json.Number where
  | natural (n : UInt64)
  /-- An integer below zero. -/
  | negative (n : Int64)
  /-- Any other number. No text denotes a double that is infinite or not a number. -/
  | double (x : Float) (finite : x.isFinite = true)

/-- A JSON value. -/
inductive Json where
  | null
  | bool (value : Bool)
  | number (n : Json.Number)
  | string (value : String)
  | array (items : List Json)
  | object (fields : List (String × Json))

namespace Json

instance : Inhabited Json := ⟨.null⟩

/-- A finite double as a number of a text. -/
def Number.ofDouble? (x : Float) : Option Number :=
  if h : x.isFinite = true then some (.double x h) else none

/-! ## Equality -/

/-- Equality of numbers of the same kind. Doubles compare by value. -/
def Number.same : Number → Number → Bool
  | .natural a, .natural b => a == b
  | .negative a, .negative b => a == b
  | .double a _, .double b _ => a == b
  | _, _ => false

mutual

/-- Equality of trees with the same order of fields. -/
def same : Json → Json → Bool
  | .null, .null => true
  | .bool a, .bool b => a == b
  | .number a, .number b => a.same b
  | .string a, .string b => a == b
  | .array xs, .array ys => sameAll xs ys
  | .object xs, .object ys => sameFields xs ys
  | _, _ => false

/-- Equality of lists of trees. -/
def sameAll : List Json → List Json → Bool
  | [], [] => true
  | x :: xs, y :: ys => x.same y && sameAll xs ys
  | _, _ => false

/-- Equality of lists of fields. -/
def sameFields : List (String × Json) → List (String × Json) → Bool
  | [], [] => true
  | (j, x) :: xs, (k, y) :: ys => j == k && x.same y && sameFields xs ys
  | _, _ => false

end

/-! ## Canonical order of fields -/

/-- Puts a field in its place among sorted ones, in place of one of the same name. -/
def putField (name : String) (value : Json) :
    List (String × Json) → List (String × Json)
  | [] => [(name, value)]
  | (k, v) :: rest =>
    if name < k then (name, value) :: (k, v) :: rest
    else if name = k then (name, value) :: rest
    else (k, v) :: putField name value rest

mutual

/-- The tree with the fields of every object sorted by name. Of fields with one name the last
stays. -/
def canonical : Json → Json
  | .array xs => .array (canonicalAll xs)
  | .object fields => .object (canonicalFields [] fields)
  | .null => .null
  | .bool b => .bool b
  | .number n => .number n
  | .string s => .string s

/-- Puts every tree of a list into canonical order. -/
def canonicalAll : List Json → List Json
  | [] => []
  | x :: xs => x.canonical :: canonicalAll xs

/-- Adds fields, from the first to the last, to those that are sorted already. -/
def canonicalFields (sorted : List (String × Json)) :
    List (String × Json) → List (String × Json)
  | [] => sorted
  | (k, x) :: rest => canonicalFields (putField k x.canonical sorted) rest

end

/-- The value of the field `name`. -/
def field? (name : String) (fields : List (String × Json)) : Option Json :=
  (fields.find? fun f => f.1 == name).map Prod.snd

end Json

end GatedPredicate
