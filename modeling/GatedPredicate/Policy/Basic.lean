import GatedPredicate.Catalog.Standard
import GatedPredicate.Policy.Denied
import GatedPredicate.Text.NameSet

/-!
# Policies

A policy says which namespaces expressions may reach, which names they may not mention, and which
functions there are. It starts from a standard and only ever grows: there is no way to take back
an allowed namespace or a denied name.

- `Policy`, `Policy.standard`
- `Policy.allowNamespace`, `Policy.denyName`, `Policy.withModule`, `Policy.withMember`
- `Policy.isAllowed`, `Policy.isDenied`
-/

namespace GatedPredicate

/-- What expressions may do. -/
structure Policy where
  allowed : NameSet
  denied : NameSet
  registry : Registry
  reflectionAllowed : Bool
  iterationAllowed : Bool

/-- The namespaces that every policy allows. -/
def standardNamespaces : List String :=
  ["System.Math", "System.String", "System.Char", "System.Text", "System.Linq", "System.Convert"]

/-- Whether `path` is `entry` or lies below it: what follows the entry is nothing, or starts with
a dot. -/
def isBelow (entry path : String) : Bool :=
  entry.toList.isPrefixOf path.toList &&
    ((path.toList.drop entry.toList.length).head?.all (· == '.'))

namespace Policy

def standard : Policy where
  allowed := NameSet.ofList standardNamespaces
  denied := NameSet.ofList standardDenied
  registry := Registry.standard
  reflectionAllowed := false
  iterationAllowed := false

/-- Allows a namespace and all below it. -/
def allowNamespace (p : Policy) (namespaceName : String) : Policy :=
  { p with allowed := p.allowed.insert namespaceName }

def denyName (p : Policy) (name : String) : Policy :=
  { p with denied := p.denied.insert name }

/-- Registers a module and allows its namespace. -/
def withModule (p : Policy) (m : Module) : Policy :=
  { p with allowed := p.allowed.insert m.tag, registry := p.registry.addModule m }

/-- Registers a member and allows the namespace of its module. -/
def withMember (p : Policy) (m : Member) : Policy :=
  { p with allowed := p.allowed.insert m.module, registry := p.registry.addMember m }

/-- Whether a namespace is an allowed one, lies below one, or belongs to a kind of values. -/
def isAllowed (p : Policy) (path : String) : Bool :=
  (p.allowed.names ++ Catalog.intrinsicTags).any fun entry => isBelow entry path

/-- Whether a name must not be mentioned. -/
def isDenied (p : Policy) (name : String) : Bool :=
  p.denied.contains name

end Policy

end GatedPredicate
