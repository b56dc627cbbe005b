import GatedPredicate.Catalog.Member
import GatedPredicate.Value.Compare

/-!
# Sequences

A sequence is a list, a text as its characters, or a JSON array. It is always finite.

- `elements`: what quantifiers run over
- `sequenceMembers`
-/

namespace GatedPredicate.Catalog

/-- The tag of the members of sequences, quantifiers included. -/
def sequenceTag : String := "System.Linq"

/-- The error of a value that is no sequence. -/
def notSequence {α : Type} (v : Value) : Outcome α :=
  .error (.expected "sequence operation" "a sequence" v.type)

/-- The elements of a sequence, in order. -/
def elements (v : Value) : Outcome (List Value) :=
  match v with
  | .list items => .ok items
  | .string s => .ok (s.toList.map .char)
  | .json (.array items) => .ok (items.map .json)
  | other => notSequence other

/-- The number of elements of a sequence. -/
def elementCount (v : Value) : Outcome Nat :=
  match v with
  | .list items => .ok items.length
  | .string s => .ok s.length
  | .json (.array items) => .ok items.length
  | other => notSequence other

/-- A member that depends on the number of elements only. -/
def counting (name : String) (isProperty : Bool) (result : ValueType) (read : Nat → Value) :
    Member :=
  ⟨name, sequenceTag, .sequence, isProperty,
    [.getter result fun v => (elementCount v).map read]⟩

def sequenceMembers : List Member :=
  [counting "Any" false .bool fun n => .bool (0 < n),
    counting "Count" false .int fun n => .ofNat n,
    counting "Length" true .int fun n => .ofNat n,
    ⟨"Contains", sequenceTag, .sequence, false, [.method1 .bool fun v w =>
      (elements v).map fun items => .bool (items.any fun item => item.equals w)]⟩]

end GatedPredicate.Catalog
