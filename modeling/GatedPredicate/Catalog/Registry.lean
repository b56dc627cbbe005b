import GatedPredicate.Catalog.Member
import GatedPredicate.Catalog.Module

/-!
# The registry

All modules and members that expressions can reach. Modules keep the order of their first
registration, and a later module with the tag of an earlier one is merged into it; members keep
the order of registration, in which they are tried.

- `Registry`, `Registry.addModule`, `Registry.addMember`
- `Registry.module?`, `Registry.members`
- `Registry.importedFunction?`, `Registry.importedConstant?`
- `Registry.expandAlias`
-/

namespace GatedPredicate

/-- The modules and members, in order of registration. -/
structure Registry where
  modules : List Module
  allMembers : List Member

namespace Registry

/-- No modules and no members. -/
def empty : Registry := ⟨[], []⟩

/-- Puts a module at the end, or merges it into the one with its tag. -/
def insertModule (m : Module) : List Module → List Module
  | [] => [m]
  | n :: rest => if n.tag == m.tag then n.merge m :: rest else n :: insertModule m rest

/-- Registers a module. -/
def addModule (r : Registry) (m : Module) : Registry :=
  { r with modules := insertModule m r.modules }

/-- Registers a member. -/
def addMember (r : Registry) (m : Member) : Registry :=
  { r with allMembers := r.allMembers ++ [m] }

/-! ## Lookups -/

/-- The first module with the given tag or alias. -/
def module? (r : Registry) (name : String) : Option Module :=
  r.modules.find? fun m => m.isNamed name

def members (r : Registry) (name : String) : List Member :=
  r.allMembers.filter fun m => m.name == name

/-- The modules whose functions and constants need no name in front. -/
def importedModules (r : Registry) : List Module :=
  r.modules.filter Module.imported

/-- The function of an imported module, and that module. -/
def importedFunction? (r : Registry) (name : String) : Option (Module × Function) :=
  r.importedModules.findSome? fun m => (m.function? name).map (m, ·)

/-- The constant of an imported module, and that module. -/
def importedConstant? (r : Registry) (name : String) : Option (Module × Value) :=
  r.importedModules.findSome? fun m => (m.constant? name).map (m, ·)

/-- A dotted path with an alias in its first segment replaced by the tag. -/
def expandAlias (r : Registry) (path : String) : String :=
  let first := path.toList.takeWhile (· != '.')
  let rest := path.toList.dropWhile (· != '.')
  match r.modules.find? fun m => m.aliases.contains (String.ofList first) with
  | some m => m.tag ++ String.ofList rest
  | none => path

end Registry

end GatedPredicate
