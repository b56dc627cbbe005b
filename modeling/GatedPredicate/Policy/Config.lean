import GatedPredicate.Bag.Schema
import GatedPredicate.Json.Printer
import GatedPredicate.Json.Reader
import GatedPredicate.Options
import GatedPredicate.Policy.Basic

/-!
# Configuration

What a host adds to the standard policy, its bags and its options, as JSON text. A structure is
an object with fields by name or an array of its fields in order; what is missing has its
standard value. Only the outermost structure refuses fields that it does not know.

- `Config`, `Config.standard`
- `Config.ofJson?`, `Config.toJson`
- `Config.load`: reading with a check of all names
- `Policy.ofConfig`
-/

namespace GatedPredicate

open GatedPredicate.Text

/-- What a host configures. -/
structure Config where
  allowedNamespaces : List String
  deniedNames : List String
  /-- The declared bags, in place of the standard ones. -/
  bags : Option Schema
  options : Options
deriving DecidableEq

/-- Why a configuration is refused. -/
inductive ConfigError where
  | malformed
  | invalidNamespace (name : String)
  | invalidName (name : String)
  | invalidBag (name : String)
deriving DecidableEq

def ConfigError.message : ConfigError → String
  | .malformed => "invalid configuration"
  | .invalidNamespace name => "invalid namespace '" ++ name ++ "'"
  | .invalidName name => "invalid identifier '" ++ name ++ "'"
  | .invalidBag name => "invalid bag name '" ++ name ++ "'"

namespace Config

/-- Nothing beyond the standard. -/
def standard : Config := ⟨[], [], none, .standard⟩

/-! ## Reading structures -/

/-- The value of a field that occurs at most once: `some none` if it does not occur. -/
def once? (fields : List (String × Json)) (name : String) : Option (Option Json) :=
  match fields.filter fun f => f.1 == name with
  | [] => some none
  | [f] => some (some f.2)
  | _ => none

/-- The values given for the fields of a structure, in the order of `names`. -/
def slots? (names : List String) (refuseOthers : Bool) : Json → Option (List (Option Json))
  | .object fields =>
    if refuseOthers && fields.any fun f => !names.contains f.1 then none
    else names.mapM (once? fields)
  | .array items =>
    if items.length ≤ names.length then
      some (items.map some ++ List.replicate (names.length - items.length) none)
    else none
  | _ => none

/-- Reads a value that is given, or takes the standard one. -/
def given? {α : Type} (standard : α) (read? : Json → Option α) (slot : Option Json) : Option α :=
  match slot with
  | none => some standard
  | some j => read? j

/-- A value that may be null. -/
def orNull? {α : Type} (read? : Json → Option α) : Json → Option (Option α)
  | .null => some none
  | j => (read? j).map some

def string? : Json → Option String
  | .string s => some s
  | _ => none

/-- A truth value. -/
def flag? : Json → Option Bool
  | .bool b => some b
  | _ => none

/-- A natural number of 64 bits. -/
def limit? : Json → Option UInt64
  | .number (.natural n) => some n
  | _ => none

/-- An array of values. -/
def listOf? {α : Type} (read? : Json → Option α) : Json → Option (List α)
  | .array items => items.mapM read?
  | _ => none

/-! ## Reading a configuration -/

/-- Reads the options of coercion. -/
def coercion? (j : Json) : Option CoercionOptions :=
  match slots? ["single_char_as_char"] false j with
  | some [single] =>
    (given? CoercionOptions.standard.singleCharAsChar flag? single).map fun b => ⟨b⟩
  | _ => none

/-- Reads the options. -/
def options? (j : Json) : Option Options :=
  match slots? ["max_snippet_len", "max_depth", "strict_fields", "coercion"] false j with
  | some [length, depth, strict, coercion] => do
    let length ← given? Options.standard.maxLength limit? length
    let depth ← given? Options.standard.maxDepth limit? depth
    let strict ← given? Options.standard.strictFields flag? strict
    let coercion ← given? Options.standard.coercion coercion? coercion
    some ⟨length, depth, strict, coercion⟩
  | _ => none

/-- Reads the declaration of a bag, whose name is mandatory. -/
def bag? (j : Json) : Option BagDecl :=
  match slots? ["name", "fields"] false j with
  | some [some name, fields] => do
    let name ← string? name
    let fields ← given? none (orNull? (listOf? string?)) fields
    some ⟨name, fields.map NameSet.ofList⟩
  | _ => none

/-- Reads declarations of bags. They are kept as they are, also where names repeat. -/
def schema? (j : Json) : Option Schema :=
  (listOf? bag? j).map Schema.mk

/-- The names of the outermost fields. -/
def fieldNames : List String :=
  ["allowed_namespaces", "denied_identifiers", "bags", "options"]

/-- Reads a configuration. -/
def ofJson? (j : Json) : Option Config :=
  match slots? fieldNames true j with
  | some [allowed, denied, bags, options] => do
    let allowed ← given? [] (listOf? string?) allowed
    let denied ← given? [] (listOf? string?) denied
    let bags ← given? none (orNull? schema?) bags
    let options ← given? .standard options? options
    some ⟨allowed, denied, bags, options⟩
  | _ => none

/-! ## Writing a configuration -/

/-- An array of strings. -/
def stringsJson (names : List String) : Json :=
  .array (names.map .string)

/-- A declaration of a bag. Fields that are not declared are left out. -/
def bagJson (b : BagDecl) : Json :=
  match b.fields with
  | none => .object [("name", .string b.name)]
  | some fields => .object [("name", .string b.name), ("fields", stringsJson fields.names)]

def optionsJson (o : Options) : Json :=
  .object
    [("max_snippet_len", .number (.natural o.maxLength)),
      ("max_depth", .number (.natural o.maxDepth)),
      ("strict_fields", .bool o.strictFields),
      ("coercion", .object [("single_char_as_char", .bool o.coercion.singleCharAsChar)])]

def toJson (c : Config) : Json :=
  .object
    [("allowed_namespaces", stringsJson c.allowedNamespaces),
      ("denied_identifiers", stringsJson c.deniedNames),
      ("bags", (c.bags.map fun s => Json.array (s.bags.map bagJson)).getD .null),
      ("options", optionsJson c.options)]

/-! ## Checking names -/

/-- Whether a name is a letter or underscore followed by letters, digits and underscores. -/
def isWellFormed (name : String) : Bool :=
  isName name.toList

/-- Whether every segment of a dotted name is well formed. -/
def isWellFormedPath (path : String) : Bool :=
  (segments path).all isWellFormed

/-- The bags that a configuration declares. -/
def declaredBags (c : Config) : List BagDecl :=
  (c.bags.map Schema.bags).getD []

/-- The first name that is not well formed: of the namespaces, then of the denied names, then of
the bags. -/
def fault? (c : Config) : Option ConfigError :=
  ((c.allowedNamespaces.find? (!isWellFormedPath ·)).map .invalidNamespace).orElse fun _ =>
    ((c.deniedNames.find? (!isWellFormed ·)).map .invalidName).orElse fun _ =>
      (c.declaredBags.find? fun b => !isWellFormed b.name).map fun b => .invalidBag b.name

/-- Reads a configuration and checks its names. -/
def load (text : String) : Except ConfigError Config :=
  match (Json.read? text).bind ofJson? with
  | none => .error .malformed
  | some c =>
    match c.fault? with
    | some e => .error e
    | none => .ok c

end Config

/-- The standard policy with what a configuration adds. -/
def Policy.ofConfig (c : Config) : Policy :=
  c.deniedNames.foldl Policy.denyName (c.allowedNamespaces.foldl Policy.allowNamespace .standard)

end GatedPredicate
