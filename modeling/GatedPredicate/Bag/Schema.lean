import GatedPredicate.Text.Ascii
import GatedPredicate.Text.NameSet

/-!
# Bag schemas

A schema declares the bags that expressions may read. Names of bags ignore the case of ASCII
letters, names of fields do not.

- `BagDecl`, `BagDecl.declares`
- `Schema`, `Schema.withBag`, `Schema.get?`, `Schema.isBag`
- `Schema.standard`
-/

namespace GatedPredicate

open GatedPredicate.Text

/-- The declaration of a bag. -/
structure BagDecl where
  name : String
  /-- The fields of the bag; any field at all where there is no set. -/
  fields : Option NameSet
deriving DecidableEq

/-- Whether a field is declared. -/
def BagDecl.declares (b : BagDecl) (field : String) : Bool :=
  match b.fields with
  | none => true
  | some fields => fields.contains field

/-- The declared bags. -/
structure Schema where
  bags : List BagDecl
deriving DecidableEq

namespace Schema

/-- A schema without bags. -/
def empty : Schema := ⟨[]⟩

/-- Declares a bag, in place of one of the same name. -/
def withBag (s : Schema) (b : BagDecl) : Schema :=
  ⟨s.bags.filter (fun old => !sameName old.name b.name) ++ [b]⟩

/-- The declaration of the bag of the given name. -/
def get? (s : Schema) (name : String) : Option BagDecl :=
  s.bags.find? fun b => sameName b.name name

/-- Whether a bag of the given name is declared. -/
def isBag (s : Schema) (name : String) : Bool :=
  (s.get? name).isSome

/-- The bags `item` and `claims`, each with any fields. -/
def standard : Schema :=
  (empty.withBag ⟨"item", none⟩).withBag ⟨"claims", none⟩

end Schema

end GatedPredicate
