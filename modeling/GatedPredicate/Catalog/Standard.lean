import GatedPredicate.Catalog.Calendar
import GatedPredicate.Catalog.Convert
import GatedPredicate.Catalog.Document
import GatedPredicate.Catalog.Math
import GatedPredicate.Catalog.Pattern
import GatedPredicate.Catalog.Registry
import GatedPredicate.Catalog.Sequence
import GatedPredicate.Catalog.Text

/-!
# The standard catalog

All modules and members that are there before a host adds its own. Members of special receivers
come before those of every value, so that they are tried first.
-/

namespace GatedPredicate

namespace Catalog

/-- The standard modules, in order of registration. -/
def standardModules : List Module :=
  [mathModule, stringModule, charModule, convertModule, patternModule, patternOptionsModule,
    documentModule, dateTimeModule, dayOfWeekModule]

/-- The standard members, in order of registration. -/
def standardMembers : List Member :=
  stringMembers ++ dateTimeMembers ++ jsonMembers ++ sequenceMembers ++ objectMembers

/-- The tags of modules that belong to kinds of values and are allowed under every policy. -/
def intrinsicTags : List String :=
  [objectTag, dateTimeTag, dayOfWeekTag]

end Catalog

def Registry.standard : Registry :=
  let withModules := Catalog.standardModules.foldl Registry.addModule .empty
  Catalog.standardMembers.foldl Registry.addMember withModules

end GatedPredicate
