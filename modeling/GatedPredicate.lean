import GatedPredicate.Cache
import GatedPredicate.Proofs.Bound.Agreement
import GatedPredicate.Proofs.Policy.Mentioned
import GatedPredicate.Proofs.Syntax.Completeness
import GatedPredicate.Proofs.Syntax.Height
import GatedPredicate.Proofs.Syntax.Exactness
import GatedPredicate.Proofs.Typing.TruthValues
import GatedPredicate.Proofs.Bound.Confined
import GatedPredicate.Proofs.Bound.Congruence
import GatedPredicate.Proofs.Policy.Growth
import GatedPredicate.Proofs.Bound.Nodes
import GatedPredicate.Proofs.Bound.Safety
import GatedPredicate.Proofs.Bound.Fields
import GatedPredicate.Proofs.Cache
import GatedPredicate.Proofs.Syntax.Numbering
import GatedPredicate.Proofs.Syntax.Ranges
import GatedPredicate.Proofs.Syntax.Reports
import GatedPredicate.Proofs.Bound.Declared
import GatedPredicate.Proofs.Number.Integers
import GatedPredicate.Proofs.Typing.Mixtures
import GatedPredicate.Proofs.Syntax.RoundTrip
import GatedPredicate.Proofs.Number.Quotients
import GatedPredicate.Proofs.Value.Equality
import GatedPredicate.Proofs.Policy.Aliases
import GatedPredicate.Proofs.Value.Conversions
import GatedPredicate.Proofs.Value.ReadBack
import GatedPredicate.Proofs.Decimal.Retained
import GatedPredicate.Proofs.Number.Nearest
import GatedPredicate.Proofs.Number.Scientific
import GatedPredicate.Proofs.Value.Precision
import GatedPredicate.Proofs.Syntax.DepthLimit
import GatedPredicate.Proofs.Syntax.TextLiterals
import GatedPredicate.Proofs.Value.Characters
import GatedPredicate.Proofs.Value.IntegerText
import GatedPredicate.Proofs.Bound.Duality
import GatedPredicate.Proofs.Bound.Uses
import GatedPredicate.Proofs.Text.Search
import GatedPredicate.Proofs.Catalog.Sequences
import GatedPredicate.Proofs.Catalog.Positions
import GatedPredicate.Proofs.Catalog.Choice
import GatedPredicate.Proofs.Bound.Renaming
import GatedPredicate.Proofs.Bag.LastWrite
import GatedPredicate.Proofs.Json.RoundTrip
import GatedPredicate.Proofs.Policy.Configured
import GatedPredicate.Proofs.Bag.Declarations
import GatedPredicate.Proofs.Bag.Redeclaration
import GatedPredicate.Proofs.Catalog.Registrations
import GatedPredicate.Proofs.Policy.SourceOrder
import GatedPredicate.Proofs.Policy.Namespaces
import GatedPredicate.Proofs.Syntax.Visits
import GatedPredicate.Proofs.Syntax.Offending
