import GatedPredicate.Gate

/-!
# A cache of named predicates

Predicates by name, compiled by the gate of the cache. Registering a name again replaces its
predicate; a text that does not compile changes nothing. Every compilation has a number of its
own, which copies of its predicate share.

- `Cache`, `Cache.register`, `Cache.registerUnder`, `Cache.insert`, `Cache.remove`
- `Cache.get?`, `Cache.contains`, `Cache.size`, `Cache.names`
- `Cache.evaluate`
-/

namespace GatedPredicate

/-- A predicate with the number of its compilation. -/
structure Compiled where
  number : Nat
  predicate : Predicate

/-- Why a named predicate has no truth value. -/
inductive CacheError where
  | notFound (name : String)
  | runtime (e : RuntimeError)

def CacheError.message : CacheError → String
  | .notFound name => "predicate '" ++ name ++ "' not found"
  | .runtime e => e.message

/-- Named predicates. -/
structure Cache where
  gate : Gate
  /-- The number of the next compilation. -/
  next : Nat
  /-- The entries, in increasing order of names. -/
  entries : List (String × Compiled)

namespace Cache

/-- A cache without entries. -/
def empty (g : Gate) : Cache := ⟨g, 0, []⟩

/-- Puts an entry in its place among sorted ones, in place of one of the same name. -/
def putEntry (name : String) (c : Compiled) : List (String × Compiled) → List (String × Compiled)
  | [] => [(name, c)]
  | e :: rest =>
    if name < e.1 then (name, c) :: e :: rest
    else if name = e.1 then (name, c) :: rest
    else e :: putEntry name c rest

/-- Stores a compiled predicate under a name. -/
def insert (k : Cache) (name : String) (c : Compiled) : Cache :=
  { k with entries := putEntry name c k.entries }

/-- The predicate under a name. -/
def get? (k : Cache) (name : String) : Option Compiled :=
  (k.entries.find? fun e => e.1 == name).map Prod.snd

/-- Compiles a text by a gate and stores it under a name. -/
def registerBy (k : Cache) (g : Gate) (name text : String) : Except CompileError Cache :=
  (g.compile text).map fun p => { k with next := k.next + 1 }.insert name ⟨k.next, p⟩

/-- Compiles a text and stores it under a name. -/
def register (k : Cache) (name text : String) : Except CompileError Cache :=
  k.registerBy k.gate name text

/-- Compiles a text under another policy and stores it under a name. -/
def registerUnder (k : Cache) (policy : Policy) (name text : String) :
    Except CompileError Cache :=
  k.registerBy (k.gate.withPolicy policy) name text

/-- Removes the entry under a name. -/
def remove (k : Cache) (name : String) : Cache :=
  { k with entries := k.entries.filter fun e => e.1 != name }

/-- Whether there is an entry under a name. -/
def contains (k : Cache) (name : String) : Bool :=
  k.entries.any fun e => e.1 == name

/-- The number of entries. -/
def size (k : Cache) : Nat :=
  k.entries.length

/-- The names of the entries, in increasing order. -/
def names (k : Cache) : List String :=
  k.entries.map Prod.fst

/-- The truth value of the predicate under a name. -/
def evaluate (k : Cache) (name : String) (bags : Bags) : Except CacheError Bool :=
  match k.get? name with
  | none => .error (.notFound name)
  | some c =>
    match c.predicate.evaluate bags with
    | .ok b => .ok b
    | .error e => .error (.runtime e)

end Cache

end GatedPredicate
