import GatedPredicate.Bag.Bags
import GatedPredicate.Error

/-!
# Activations

Where a running expression finds its data: fields of bags, and the elements that quantifiers
have bound to slots.
-/

namespace GatedPredicate

/-- The data of a running expression. -/
structure Activation where
  field : String → String → Outcome Value
  slot : Nat → Option Value

namespace Activation

/-- The data in bags, with no slot bound. -/
def ofBags (bags : Bags) : Activation where
  field bag name :=
    match bags.field? bag name with
    | some v => .ok v
    | none => .error (.propertyNotFound bag name)
  slot _ := none

/-- The same data with one more slot bound, which hides an earlier binding of that slot. -/
def bindSlot (a : Activation) (slot : Nat) (v : Value) : Activation where
  field := a.field
  slot s := if s = slot then some v else a.slot s

end Activation

end GatedPredicate
