import GatedPredicate.Bag.Bags

/-!
# Bags filled by insertions

Bags come from a run of insertions, of single fields or of whole bags. Looking a field up finds what
was put there last: an insertion answers for the fields that it writes and leaves all others as they
were. Names of bags match up to the case of ASCII letters throughout, names of fields exactly.

- `Bags.Insertion`, `Bags.Insertion.written?`: what one insertion writes to a field
- `Bags.field?_insert`: lookups after one insertion
- `Bags.field?_insertAll`: lookups after a run of insertions
-/

namespace GatedPredicate

open GatedPredicate.Text

/-! ## Names of bags -/

theorem sameName_iff {a b : String} :
    sameName a b = true ↔ a.toList.map Char.toLower = b.toList.map Char.toLower := by
  simp [sameName]

theorem sameName_comm (a b : String) : sameName a b = sameName b a := by
  rw [Bool.eq_iff_iff, sameName_iff, sameName_iff]
  exact eq_comm

/-- A name may be replaced by one that differs in case only. -/
theorem sameName_left {a b : String} (h : sameName a b = true) (c : String) :
    sameName a c = sameName b c := by
  rw [Bool.eq_iff_iff, sameName_iff, sameName_iff, sameName_iff.1 h]

theorem sameName_right {a b : String} (h : sameName a b = true) (c : String) :
    sameName c a = sameName c b := by
  rw [sameName_comm c a, sameName_comm c b, sameName_left h]

/-! ## One bag -/

namespace Bag

theorem find?_putField (field name : String) (v : Value) (fields : List (String × Value)) :
    ((putField field v fields).find? fun f => f.1 == name).map Prod.snd =
      if field = name then some v else (fields.find? fun f => f.1 == name).map Prod.snd := by
  induction fields with
  | nil => by_cases h : field = name <;> simp [putField, h]
  | cons f rest ih =>
    rw [putField]
    by_cases hfield : f.1 = field
    · -- the field is there already
      subst hfield
      by_cases hname : f.1 = name <;> simp [hname]
    · rw [if_neg (by simpa using hfield)]
      by_cases hname : f.1 = name
      · have hother : field ≠ name := fun h => hfield (hname.trans h.symm)
        simp [hname, hother]
      · simpa [hname] using ih

theorem get?_put (b : Bag) (field name : String) (v : Value) :
    (b.put field v).get? name = if field = name then some v else b.get? name :=
  find?_putField field name v b.fields

/-- The last raw value that a list has for a field. -/
def lastRaw? (name : String) : List (String × Raw) → Option Raw
  | [] => none
  | f :: rest => (lastRaw? name rest).or (if f.1 = name then some f.2 else none)

/-- A bag into which fields are put has the last value of each, and what it had of all others. -/
theorem get?_foldl_put (options : CoercionOptions) (fields : List (String × Raw)) (b : Bag)
    (name : String) :
    (fields.foldl (fun bag f => bag.put f.1 (f.2.coerce options)) b).get? name =
      ((lastRaw? name fields).map (·.coerce options)).or (b.get? name) := by
  induction fields generalizing b with
  | nil => rfl
  | cons f rest ih =>
    rw [List.foldl_cons, ih, get?_put, lastRaw?]
    cases lastRaw? name rest with
    | some raw => rfl
    | none => by_cases h : f.1 = name <;> simp [h]

end Bag

/-! ## All bags -/

namespace Bags

theorem find?_updateEntry (name other : String) (change : Bag → Bag)
    (entries : List (String × Bag)) :
    ((updateEntry name change entries).find? fun e => sameName e.1 other).map Prod.snd =
      if sameName name other then
        some (change (((entries.find? fun e => sameName e.1 name).map Prod.snd).getD .empty))
      else (entries.find? fun e => sameName e.1 other).map Prod.snd := by
  induction entries with
  | nil =>
    by_cases h : sameName name other = true
    · simp [updateEntry, h]
    · simp [updateEntry, h]
  | cons e rest ih =>
    rw [updateEntry]
    by_cases hname : sameName e.1 name = true
    · -- the entry that is changed is found under the names that match the inserted one
      by_cases hother : sameName name other = true
      · have hfound : sameName e.1 other = true := (sameName_left hname other).trans hother
        simp [hname, hother, hfound]
      · have hmissed : ¬ sameName e.1 other = true := sameName_left hname other ▸ hother
        simp [hname, hother, hmissed]
    · -- any other entry stays, and a name that finds it does not match the inserted one
      by_cases hother : sameName e.1 other = true
      · have hdiffer : ¬ sameName name other = true := by
          rw [sameName_comm, ← sameName_left hother]
          exact hname
        simp [hname, hother, hdiffer]
      · simpa [hname, hother] using ih

/-- An insertion of a single field or of the fields of a bag. -/
inductive Insertion where
  | field (bag name : String) (raw : Raw)
  | bag (name : String) (fields : List (String × Raw))

/-- The raw value that an insertion leaves in a field. -/
def Insertion.written? : Insertion → String → String → Option Raw
  | .field filled f raw, other, name =>
    if sameName filled other then if f = name then some raw else none else none
  | .bag filled fs, other, name => if sameName filled other then Bag.lastRaw? name fs else none

/-- Carries out an insertion. -/
def insert (b : Bags) : Insertion → Bags
  | .field bag name raw => b.insertField bag name raw
  | .bag name fields => b.insertBag name fields

/-- Carries out insertions from the first to the last. -/
def insertAll (b : Bags) (insertions : List Insertion) : Bags :=
  insertions.foldl insert b

@[simp]
theorem insert_options (b : Bags) (i : Insertion) : (b.insert i).options = b.options := by
  cases i <;> rfl

/-- A change of one bag shows in the lookups under names that match its name. -/
theorem field?_updateEntry (b : Bags) {changed bag name : String} {change : Bag → Bag}
    {written : Option Value} (h : ∀ old, (change old).get? name = written.or (old.get? name)) :
    field? { b with entries := updateEntry changed change b.entries } bag name =
      if sameName changed bag then written.or (b.field? bag name) else b.field? bag name := by
  unfold field? get?
  dsimp only
  rw [find?_updateEntry]
  by_cases hbag : sameName changed bag = true
  · have hsame : (fun e : String × Bag => sameName e.1 changed) = fun e => sameName e.1 bag :=
      funext fun e => sameName_right hbag e.1
    rw [if_pos hbag, if_pos hbag, hsame, Option.bind_some, h]
    -- a bag that is not there is like an empty one
    cases b.entries.find? fun e => sameName e.1 bag <;> rfl
  · rw [if_neg hbag, if_neg hbag]

/-- After an insertion a field has the value that it writes there, or else the one from before. -/
theorem field?_insert (b : Bags) (i : Insertion) (bag name : String) :
    (b.insert i).field? bag name =
      ((i.written? bag name).map (·.coerce b.options)).or (b.field? bag name) := by
  cases i with
  | field changed field raw =>
    have hput (old : Bag) : (old.put field (raw.coerce b.options)).get? name =
        (if field = name then some (raw.coerce b.options) else none).or (old.get? name) := by
      rw [Bag.get?_put]
      by_cases hfield : field = name <;> simp [hfield]
    refine (field?_updateEntry b hput).trans ?_
    by_cases hbag : sameName changed bag = true <;> by_cases hfield : field = name <;>
      simp [Insertion.written?, hbag, hfield]
  | bag changed fields =>
    have hfill := fun old => Bag.get?_foldl_put b.options fields old name
    refine (field?_updateEntry b hfill).trans ?_
    by_cases hbag : sameName changed bag = true <;> simp [Insertion.written?, hbag]

/-- After a run of insertions a field has the last value that was written there. -/
theorem field?_insertAll (b : Bags) (insertions : List Insertion) (bag name : String) :
    (b.insertAll insertions).field? bag name =
      ((insertions.reverse.findSome? fun i => i.written? bag name).map (·.coerce b.options)).or
        (b.field? bag name) := by
  induction insertions generalizing b with
  | nil => rfl
  | cons i rest ih =>
    rw [insertAll, List.foldl_cons, ← insertAll, ih, field?_insert, insert_options,
      List.reverse_cons, List.findSome?_append]
    cases rest.reverse.findSome? fun i => i.written? bag name with
    | some raw => rfl
    | none => cases h : i.written? bag name <;> simp [h]

end Bags

end GatedPredicate
