import GatedPredicate.Proofs.Bag.Insertions
import GatedPredicate.Proofs.FirstOccurrences

/-!
# Bags remember the last write

A run of insertions, of single fields and of whole bags, is a sequence of writes of raw values to
fields. Of all writes to a field the bags keep the last one, coerced; of all spellings of the name
of a bag they keep the first one.

- `Bags.Write`, `Bags.Insertion.writes`: the writes of an insertion
- `Bags.lastWrite?`: the last write to a field
- `Bags.addName`: what an insertion does to the names
- `Bags.insertions_keep_last_write`: what can be seen of bags after a run of insertions
-/

namespace GatedPredicate

open GatedPredicate.Text

namespace Bags

/-! ## Writes -/

/-- A raw value on its way to a field. -/
structure Write where
  bag : String
  name : String
  raw : Raw

/-- Whether a write goes to a field of a bag, which may be spelled in another case. -/
def Write.goesTo (w : Write) (bag name : String) : Bool :=
  sameName w.bag bag && w.name == name

/-- The writes of an insertion, in order. -/
def Insertion.writes : Insertion → List Write
  | .field filled name raw => [⟨filled, name, raw⟩]
  | .bag filled fields => fields.map fun f => ⟨filled, f.1, f.2⟩

/-- The last write to a field in a run of insertions. -/
def lastWrite? (insertions : List Insertion) (bag name : String) : Option Write :=
  ((insertions.flatMap Insertion.writes).filter (·.goesTo bag name)).getLast?

theorem lastRaw?_eq (name : String) (fields : List (String × Raw)) :
    Bag.lastRaw? name fields = ((fields.filter (·.1 == name)).getLast?).map Prod.snd := by
  induction fields with
  | nil => rfl
  | cons f rest ih =>
    rw [Bag.lastRaw?, ih]
    by_cases h : f.1 = name
    · cases hlast : (rest.filter (·.1 == name)).getLast? with
      | none => simp [h, List.getLast?_cons, hlast]
      | some g => simp [h, List.getLast?_cons, hlast]
    · simp [h]

/-- What one insertion leaves in a field is the last of its own writes there. -/
theorem Insertion.written?_eq (i : Insertion) (bag name : String) :
    i.written? bag name = ((i.writes.filter (·.goesTo bag name)).getLast?).map Write.raw := by
  cases i with
  | field filled f raw =>
    by_cases hbag : sameName filled bag = true <;> by_cases hname : f = name <;>
      simp [written?, writes, Write.goesTo, hbag, hname]
  | bag filled fields =>
    rw [written?, writes, List.filter_map, List.getLast?_map, Option.map_map, lastRaw?_eq]
    by_cases hbag : sameName filled bag = true
    · simp [Write.goesTo, hbag, Function.comp_def]
    · have hnever : ((·.goesTo bag name) ∘ fun f : String × Raw => (⟨filled, f.1, f.2⟩ : Write)) =
          fun _ => false := by
        funext f
        simp [Write.goesTo, hbag]
      rw [hnever, List.filter_false, if_neg hbag]
      rfl

/-- After a run of insertions a field has the value of the last write to it. -/
theorem field?_eq_lastWrite (options : CoercionOptions) (insertions : List Insertion)
    (bag name : String) :
    ((empty options).insertAll insertions).field? bag name =
      (lastWrite? insertions bag name).map fun w => w.raw.coerce options := by
  have hempty : (empty options).field? bag name = none := rfl
  have hlast : (insertions.reverse.findSome? fun i => i.written? bag name) =
      (lastWrite? insertions bag name).map Write.raw := by
    rw [lastWrite?, List.filter_flatMap, List.getLast?_flatMap, List.map_findSome?]
    simp only [Insertion.written?_eq, Function.comp_def]
  rw [field?_insertAll, hempty, Option.or_none, hlast, Option.map_map]
  rfl

/-! ## Names -/

/-- The bag that an insertion goes to. -/
def Insertion.bagName : Insertion → String
  | .field filled _ _ => filled
  | .bag filled _ => filled

/-- A name is added to those in use unless it differs from one of them in case only. -/
def addName (names : List String) (name : String) : List String :=
  if names.any (sameName · name) then names else names ++ [name]

theorem map_updateEntry (name : String) (change : Bag → Bag) (entries : List (String × Bag)) :
    (updateEntry name change entries).map Prod.fst = addName (entries.map Prod.fst) name := by
  induction entries with
  | nil => rfl
  | cons e rest ih =>
    rw [updateEntry]
    by_cases h : sameName e.1 name = true
    · simp [addName, h]
    · rw [if_neg h, List.map_cons, ih, addName, addName, List.map_cons, List.any_cons]
      simp only [h, Bool.false_or]
      split
      · rfl
      · rfl

/-- An insertion adds the name of its bag, and a bag without fields counts. -/
theorem names_insert (b : Bags) (i : Insertion) :
    (b.insert i).names = addName b.names i.bagName := by
  cases i <;> exact map_updateEntry _ _ _

theorem names_insertAll (b : Bags) (insertions : List Insertion) :
    (b.insertAll insertions).names = (insertions.map Insertion.bagName).foldl addName b.names := by
  induction insertions generalizing b with
  | nil => rfl
  | cons i rest ih =>
    rw [insertAll, List.foldl_cons, ← insertAll, ih, names_insert, List.map_cons, List.foldl_cons]

/-- Names that are added one after the other are kept at their first use. -/
theorem foldl_addName (used names : List String) :
    used.foldl addName names =
      names ++ (used.filter fun n => !names.any (sameName · n)).eraseDupsBy sameName :=
  foldl_addNew sameName_comm used names

/-- Adding a name keeps names different. -/
theorem addName_distinct {names : List String} (name : String)
    (h : names.Pairwise fun a b => sameName a b = false) :
    (addName names name).Pairwise fun a b => sameName a b = false := by
  unfold addName
  split
  · exact h
  · rename_i hfresh
    rw [List.pairwise_append]
    refine ⟨h, List.pairwise_singleton _ _, fun a ha b hb => ?_⟩
    rw [List.mem_singleton.1 hb]
    simp only [List.any_eq_true, not_exists, not_and, Bool.not_eq_true] at hfresh
    exact hfresh a ha

theorem names_insertAll_distinct {b : Bags} (insertions : List Insertion)
    (h : b.names.Pairwise fun x y => sameName x y = false) :
    (b.insertAll insertions).names.Pairwise fun x y => sameName x y = false := by
  induction insertions generalizing b with
  | nil => exact h
  | cons i rest ih => exact ih (by rw [names_insert]; exact addName_distinct _ h)

/-! ## What an insertion leaves alone -/

/-- A bag of another name stays as it is. -/
theorem get?_insert_of_other (b : Bags) {i : Insertion} {bag : String}
    (h : sameName i.bagName bag = false) : (b.insert i).get? bag = b.get? bag := by
  have hother {name : String} (change : Bag → Bag) (hname : sameName name bag = false) :
      get? { b with entries := updateEntry name change b.entries } bag = b.get? bag := by
    unfold get?
    rw [find?_updateEntry, if_neg (by simp [hname])]
  cases i with
  | field => exact hother _ h
  | bag => exact hother _ h

/-- So does a field to which nothing is written. -/
theorem field?_insert_of_unwritten (b : Bags) {i : Insertion} {bag name : String}
    (h : ∀ w ∈ i.writes, w.goesTo bag name = false) :
    (b.insert i).field? bag name = b.field? bag name := by
  have hnone : i.written? bag name = none := by
    rw [Insertion.written?_eq, List.filter_eq_nil_iff.2 (by simpa using h)]
    rfl
  rw [field?_insert, hnone]
  rfl

/-! ## Runs of insertions -/

/-- Whatever is inserted into empty bags, and in whatever order: each field has the value of the
last write to it and no other field has a value, the names of the bags are those that were used,
each as it was spelled first and in the order of first use, and a further insertion leaves alone all
bags and fields but its own. -/
theorem insertions_keep_last_write (options : CoercionOptions) (insertions : List Insertion) :
    let b := (empty options).insertAll insertions
    (∀ bag name, b.field? bag name =
      (lastWrite? insertions bag name).map fun w => w.raw.coerce options) ∧
    b.names.Pairwise (fun x y => sameName x y = false) ∧
    b.names = (insertions.map Insertion.bagName).eraseDupsBy sameName ∧
    (∀ i bag, sameName i.bagName bag = false → (b.insert i).get? bag = b.get? bag) ∧
    ∀ i bag name, (∀ w ∈ i.writes, w.goesTo bag name = false) →
      (b.insert i).field? bag name = b.field? bag name := by
  intro b
  refine ⟨field?_eq_lastWrite options insertions, names_insertAll_distinct insertions .nil, ?_,
    fun _ _ => b.get?_insert_of_other, fun _ _ _ => b.field?_insert_of_unwritten⟩
  have hall : ((insertions.map Insertion.bagName).filter fun n =>
      !(empty options).names.any (sameName · n)) = insertions.map Insertion.bagName :=
    List.filter_eq_self.2 fun _ _ => rfl
  rw [names_insertAll, foldl_addName, hall]
  rfl

/-- `ITEM` is filled under its first spelling `Item`, where its field `Id` is overwritten, and
`claims` is there without fields. Another field of `item` is put in afterwards. -/
theorem insertions_keep_last_write_spelled :
    let int (n : Int64) : Raw := .value (.int n)
    let insertions : List Insertion := [.field "Item" "Id" (int 1), .bag "claims" [],
      .bag "ITEM" [("Id", int 2), ("id", int 3)]]
    let b := (empty .standard).insertAll insertions
    let i : Insertion := .field "item" "Name" (int 4)
    b.names = ["Item", "claims"] ∧ b.field? "item" "Id" = some (.int 2) ∧
      b.field? "claims" "Id" = none ∧ sameName i.bagName "claims" = false ∧
      (b.insert i).get? "claims" = b.get? "claims" ∧
      (∀ w ∈ i.writes, w.goesTo "ITEM" "id" = false) ∧
      (b.insert i).field? "ITEM" "id" = b.field? "ITEM" "id" := by
  intro int insertions b i
  have hother : sameName i.bagName "claims" = false := by decide
  have hunwritten : ∀ w ∈ i.writes, w.goesTo "ITEM" "id" = false :=
    List.forall_mem_singleton.2 (by decide)
  obtain ⟨hfields, -, hnames, hbags, hframe⟩ := insertions_keep_last_write .standard insertions
  refine ⟨hnames.trans (by decide), ?_, ?_, hother, hbags i _ hother, hunwritten,
    hframe i _ _ hunwritten⟩
  · have hlast : lastWrite? insertions "item" "Id" = some ⟨"ITEM", "Id", int 2⟩ := by
      simp [lastWrite?, insertions, Insertion.writes, Write.goesTo, sameName]
    rw [hfields, hlast]
    rfl
  · have hnone : lastWrite? insertions "claims" "Id" = none := by
      simp [lastWrite?, insertions, Insertion.writes, Write.goesTo, sameName]
    rw [hfields, hnone]
    rfl

end Bags

end GatedPredicate
