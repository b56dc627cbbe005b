import GatedPredicate.Syntax.Parser
import GatedPredicate.Value.Coercion

/-!
# Options

Limits on source text and switches for its resolution and for the data it runs over.
-/

namespace GatedPredicate

/-- Limits and switches. -/
structure Options where
  /-- The greatest number of bytes of a source text. -/
  maxLength : UInt64
  /-- The deepest nesting of an expression. -/
  maxDepth : UInt64
  /-- Whether fields that a bag does not declare are refused. -/
  strictFields : Bool
  coercion : CoercionOptions
deriving DecidableEq

/-- 4096 bytes, 64 levels, and fields as they come. -/
def Options.standard : Options where
  maxLength := 4096
  maxDepth := UInt64.ofNat Syntax.defaultMaxDepth
  strictFields := false
  coercion := .standard

end GatedPredicate
