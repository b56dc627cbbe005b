import GatedPredicate.Catalog.Overload

/-!
# Members

A member is a method or property of values. Several members may share a name; the kind of the
receiver decides which one is meant.

- `Receiver`: the kinds of receivers, `accepts` for values and `acceptsType` for types
- `Member`
-/

namespace GatedPredicate

/-- The kinds of values that a member can belong to. -/
inductive Receiver where
  | string | dateTime | json
  /-- Lists, texts as their characters, and JSON arrays. -/
  | sequence
  /-- Every value, also null. -/
  | any
deriving DecidableEq, Repr

namespace Receiver

/-- The name of the owner in messages. -/
def name : Receiver → String
  | .string => "String"
  | .dateTime => "DateTime"
  | .json => "JsonElement"
  | .sequence => "Enumerable"
  | .any => "Object"

/-- Whether a value can receive the member. -/
def accepts (r : Receiver) (v : Value) : Bool :=
  match r, v with
  | .any, _ => true
  | .string, .string _ => true
  | .dateTime, .dateTime _ => true
  | .json, .json _ => true
  | .sequence, .list _ => true
  | .sequence, .string _ => true
  | .sequence, .json (.array _) => true
  | _, _ => false

/-- Whether some value of a type might receive the member. -/
def acceptsType (r : Receiver) (t : ValueType) : Bool :=
  match r, t with
  | .any, _ => true
  | _, .dynamic => true
  | .string, .string => true
  | .dateTime, .dateTime => true
  | .json, .json => true
  | .sequence, .list => true
  | .sequence, .string => true
  | .sequence, .json => true
  | _, _ => false

/-- A type that rules a member out has no value that could receive it. -/
theorem acceptsType_of_accepts {r : Receiver} {v : Value} (h : r.accepts v) :
    r.acceptsType v.type := by
  cases r <;> cases v <;> simp_all [accepts, acceptsType, Value.type]

end Receiver

/-- A method or property of values. -/
structure Member where
  name : String
  /-- The tag of the module that it belongs to. -/
  module : String
  receiver : Receiver
  /-- Properties are read without parentheses. -/
  isProperty : Bool
  overloads : List Overload

namespace Member

/-- The name with the name of the owner in front. -/
def qualifiedName (m : Member) : String :=
  m.receiver.name ++ "." ++ m.name

end Member

end GatedPredicate
