import GatedPredicate.Catalog.Overload

/-!
# Modules

A module is a namespace of functions and constants. Its tag is its full name; aliases are short
names for it, and the functions and constants of an imported module need no name in front at all.

- `Module`, `Module.function?`, `Module.constant?`, `Module.isNamed`
- `Module.merge`: a later module of the same tag
-/

namespace GatedPredicate

/-- A namespace of static functions and constants. Of several entries with one name the first
counts. -/
structure Module where
  tag : String
  aliases : List String
  /-- Whether its functions and constants can be used without naming the module. -/
  imported : Bool
  functions : List Function
  constants : List (String × Value)

namespace Module

/-- A module without functions, constants or aliases. -/
def empty (tag : String) : Module :=
  ⟨tag, [], false, [], []⟩

/-- The name of a module in messages: its first alias, or else its tag. -/
def displayName (m : Module) : String :=
  m.aliases.head?.getD m.tag

def function? (m : Module) (name : String) : Option Function :=
  m.functions.find? fun f => f.name == name

def constant? (m : Module) (name : String) : Option Value :=
  (m.constants.find? fun c => c.1 == name).map Prod.snd

/-- Whether `name` is the tag or an alias. -/
def isNamed (m : Module) (name : String) : Bool :=
  m.tag == name || m.aliases.contains name

/-- Adds an alias that is not there yet. -/
def addAlias (aliases : List String) (name : String) : List String :=
  if aliases.contains name then aliases else aliases ++ [name]

/-- `m` extended by a later module. Functions and constants of the later one replace those of the
same name as a whole; aliases are collected. -/
def merge (m later : Module) : Module where
  tag := m.tag
  aliases := later.aliases.foldl addAlias m.aliases
  imported := m.imported || later.imported
  functions := later.functions ++ m.functions
  constants := later.constants ++ m.constants

end Module

end GatedPredicate
