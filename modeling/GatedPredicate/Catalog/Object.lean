import GatedPredicate.Catalog.Member
import GatedPredicate.Value.Compare

/-!
# Members of every value, and checks of arguments

- `textArgument`: an argument that must be a text
- `objectMembers`: the text of a value and its equality with another
-/

namespace GatedPredicate.Catalog

/-- The tag of the members that every value has. -/
def objectTag : String := "System.Object"

/-- An argument that must be a text; null is refused with an error of its own. -/
def textArgument (name : String) (v : Value) : Outcome String :=
  match v with
  | .null => .error (.functionFailed name .nullArgument)
  | .string s => .ok s
  | other => .error (.expected name "string" other.type)

/-- The members of every value. -/
def objectMembers : List Member :=
  [⟨"ToString", objectTag, .any, false, [.getter .string fun v => .ok (.string v.text)]⟩,
    ⟨"Equals", objectTag, .any, false, [.method1 .bool fun v w => .ok (.bool (v.equals w))]⟩]

end GatedPredicate.Catalog
