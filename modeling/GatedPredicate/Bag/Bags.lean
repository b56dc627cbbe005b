import GatedPredicate.Text.Ascii
import GatedPredicate.Value.Coercion

/-!
# Bags of values

The data that an expression runs over: named bags of named values. Raw input is coerced when it
is put into a bag and never again.

- `Bag`, `Bag.get?`, `Bag.put`
- `Bags`, `Bags.get?`, `Bags.field?`, `Bags.names`
- `Bags.insertField`, `Bags.insertBag`
-/

namespace GatedPredicate

open GatedPredicate.Text

/-- Named values. -/
structure Bag where
  fields : List (String × Value)

namespace Bag

/-- A bag without fields. -/
def empty : Bag := ⟨[]⟩

def get? (b : Bag) (field : String) : Option Value :=
  (b.fields.find? fun f => f.1 == field).map Prod.snd

/-- Sets the value of a field in a list, at its place or at the end. -/
def putField (field : String) (v : Value) : List (String × Value) → List (String × Value)
  | [] => [(field, v)]
  | f :: rest => if f.1 == field then (field, v) :: rest else f :: putField field v rest

/-- Sets the value of a field. -/
def put (b : Bag) (field : String) (v : Value) : Bag :=
  ⟨putField field v b.fields⟩

end Bag

/-- Bags by name, in the order in which their names were first used. -/
structure Bags where
  options : CoercionOptions
  entries : List (String × Bag)

namespace Bags

/-- No bags yet. -/
def empty (options : CoercionOptions) : Bags := ⟨options, []⟩

def get? (b : Bags) (name : String) : Option Bag :=
  (b.entries.find? fun e => sameName e.1 name).map Prod.snd

/-- The value of a field of a bag. A bag that is not there is like an empty one. -/
def field? (b : Bags) (bag name : String) : Option Value :=
  (b.get? bag).bind fun fields => fields.get? name

/-- The names of the bags, each as it was spelled first. -/
def names (b : Bags) : List String :=
  b.entries.map Prod.fst

/-- Changes the bag of the given name, or a new one at the end. -/
def updateEntry (name : String) (change : Bag → Bag) : List (String × Bag) → List (String × Bag)
  | [] => [(name, change .empty)]
  | e :: rest =>
    if sameName e.1 name then (e.1, change e.2) :: rest
    else e :: updateEntry name change rest

/-- Puts one field into a bag. -/
def insertField (b : Bags) (name field : String) (raw : Raw) : Bags :=
  let v := raw.coerce b.options
  { b with entries := updateEntry name (fun bag => bag.put field v) b.entries }

/-- Puts fields into a bag, from the first to the last. The bag exists afterwards even if there
are no fields. -/
def insertBag (b : Bags) (name : String) (fields : List (String × Raw)) : Bags :=
  let fill (bag : Bag) :=
    fields.foldl (fun bag f => bag.put f.1 (f.2.coerce b.options)) bag
  { b with entries := updateEntry name fill b.entries }

end Bags

end GatedPredicate
