import GatedPredicate.Bag.Schema
import GatedPredicate.Proofs.Bag.Insertions
import GatedPredicate.Proofs.Policy.Configured

/-!
# Declared bags

There are two ways to a schema. A host declares one bag after the other, and a declaration takes
the place of an earlier one of the same name. Or it loads a configuration, which keeps the list of
declarations as it is, repeated names included. Lookups take the first declaration that matches, so
the two ways part where a bag is declared twice: the last declaration counts on the one, the first
on the other.

- `Schema.get?_withBag`, `Schema.get?_foldl_withBag`: lookups after one declaration and after a run
- `Schema.declared`: the schema of a run of declarations
- `Schema.FirstNamed`, `Schema.LastNamed`: the declarations that count
- `Schema.declared_or_loaded`: what both ways have in common, and where they part
-/

namespace GatedPredicate.Schema

open GatedPredicate.Text

/-! ## One declaration after the other -/

/-- A declaration answers for all spellings of its name and changes no other lookup. -/
theorem get?_withBag (s : Schema) (b : BagDecl) (name : String) :
    (s.withBag b).get? name = if sameName b.name name then some b else s.get? name := by
  rw [get?, withBag, List.find?_append, List.find?_filter, get?]
  by_cases hname : sameName b.name name = true
  · -- what is left in the list has none of the spellings of the name
    have hgone : ∀ old ∈ s.bags, ¬ decide ((!sameName old.name b.name) = true ∧
        sameName old.name name = true) = true := fun old _ => by
      rw [sameName_right hname]
      simp
    rw [List.find?_eq_none.2 hgone, if_pos hname, Option.none_or]
    exact List.find?_cons_of_pos hname
  · have hkept : (fun old : BagDecl => decide ((!sameName old.name b.name) = true ∧
        sameName old.name name = true)) = fun old => sameName old.name name := by
      funext old
      by_cases hold : sameName old.name name = true
      · have hdiffer : ¬ sameName old.name b.name = true := by
          rw [sameName_left hold, sameName_comm]
          exact hname
        simp [hold, hdiffer]
      · simp [hold]
    have hmissed : [b].find? (fun d => sameName d.name name) = none :=
      List.find?_cons_of_neg hname
    rw [hkept, if_neg hname, hmissed, Option.or_none]

/-- After a run of declarations the last one of a name counts, or else what was there before. -/
theorem get?_foldl_withBag (ds : List BagDecl) (s : Schema) (name : String) :
    (ds.foldl withBag s).get? name =
      (ds.reverse.find? fun d => sameName d.name name).or (s.get? name) := by
  induction ds generalizing s with
  | nil => rfl
  | cons d rest ih =>
    rw [List.foldl_cons, ih, get?_withBag, List.reverse_cons, List.find?_append, Option.or_assoc]
    congr 1
    by_cases hname : sameName d.name name = true
    · simp [hname]
    · simp [hname]

/-- The schema of bags that are declared one after the other. -/
def declared (ds : List BagDecl) : Schema :=
  ds.foldl withBag empty

theorem get?_declared (ds : List BagDecl) (name : String) :
    (declared ds).get? name = ds.reverse.find? fun d => sameName d.name name := by
  rw [declared, get?_foldl_withBag]
  exact Option.or_none

/-! ## The declarations that count -/

section Named

variable {ds : List BagDecl} {name : String} {d : BagDecl}

/-- `d` is the first declaration of the bag `name`. -/
def FirstNamed (ds : List BagDecl) (name : String) (d : BagDecl) : Prop :=
  sameName d.name name = true ∧ ∃ before after, ds = before ++ d :: after ∧
    ∀ e ∈ before, sameName e.name name = false

/-- `d` is the last declaration of the bag `name`. -/
def LastNamed (ds : List BagDecl) (name : String) (d : BagDecl) : Prop :=
  sameName d.name name = true ∧ ∃ before after, ds = before ++ d :: after ∧
    ∀ e ∈ after, sameName e.name name = false

/-- A list of declarations that is taken as it is answers with the first. -/
theorem get?_mk_eq_some : (Schema.mk ds).get? name = some d ↔ FirstNamed ds name d := by
  rw [get?, List.find?_eq_some_iff_append, FirstNamed]
  simp only [Bool.not_eq_true']

/-- Declared one after the other, they answer with the last. -/
theorem get?_declared_eq_some : (declared ds).get? name = some d ↔ LastNamed ds name d := by
  rw [get?_declared, List.find?_eq_some_iff_append, LastNamed]
  simp only [Bool.not_eq_true', List.reverse_eq_append_iff, List.reverse_cons]
  refine and_congr_right fun _ => ⟨?_, ?_⟩
  · rintro ⟨after, before, hds, hafter⟩
    refine ⟨before.reverse, after.reverse, by simpa using hds, ?_⟩
    exact fun e he => hafter e (List.mem_reverse.1 he)
  · rintro ⟨before, after, rfl, hafter⟩
    refine ⟨after.reverse, before.reverse, by simp, ?_⟩
    exact fun e he => hafter e (List.mem_reverse.1 he)

/-- Both know the same bags. -/
theorem isBag_mk (ds : List BagDecl) (name : String) :
    (Schema.mk ds).isBag name = (declared ds).isBag name := by
  rw [isBag, isBag, get?_declared, get?, Bool.eq_iff_iff, List.find?_isSome, List.find?_isSome]
  simp only [List.mem_reverse]

/-- Both answer alike for a bag that is not declared in two different ways. -/
theorem get?_mk (h : ∀ a ∈ ds, ∀ b ∈ ds, sameName a.name name = true →
      sameName b.name name = true → a = b) :
    (Schema.mk ds).get? name = (declared ds).get? name := by
  have hbag := isBag_mk ds name
  rw [isBag, isBag] at hbag
  cases hfirst : (Schema.mk ds).get? name with
  | none =>
    rw [hfirst] at hbag
    have hnone : ((declared ds).get? name).isSome = false := hbag.symm
    rw [Option.isSome_eq_false_iff, Option.isNone_iff_eq_none] at hnone
    exact hnone.symm
  | some first =>
    rw [hfirst] at hbag
    obtain ⟨last, hlast⟩ := Option.isSome_iff_exists.1 hbag.symm
    obtain ⟨hfirstName, before, after, rfl, -⟩ := get?_mk_eq_some.1 hfirst
    obtain ⟨hlastName, before', after', hds, -⟩ := get?_declared_eq_some.1 hlast
    have hmem : last ∈ before ++ first :: after := by
      rw [hds]
      exact List.mem_append_right _ List.mem_cons_self
    rw [hlast, h first (List.mem_append_right _ List.mem_cons_self) last hmem hfirstName hlastName]

end Named

/-! ## Loaded and declared schemas -/

/-- The schema that is loaded from a configuration with the declarations `ds`, beside the schema of
declaring them one after the other. Both know the same bags, but the first declaration of a bag
counts in the loaded schema and the last one in the other. So they answer alike for all bags that
are not declared in two different ways. -/
theorem declared_or_loaded (c : Config) (ds : List BagDecl) (hbags : c.bags = some ⟨ds⟩)
    (hnames : c.WellFormed) :
    ∃ loaded s, Config.load c.toJson.text = .ok loaded ∧ loaded.bags = some s ∧
      (∀ name d, s.get? name = some d ↔ FirstNamed ds name d) ∧
      (∀ name d, (declared ds).get? name = some d ↔ LastNamed ds name d) ∧
      (∀ name, s.isBag name = (declared ds).isBag name) ∧
      ∀ name, (∀ a ∈ ds, ∀ b ∈ ds, sameName a.name name = true → sameName b.name name = true →
          a = b) →
        s.get? name = (declared ds).get? name ∧
        ∀ field, (s.get? name).map (·.declares field) =
          ((declared ds).get? name).map (·.declares field) := by
  refine ⟨c, ⟨ds⟩, Config.load_text_ok.2 ⟨hnames, rfl⟩, hbags, fun _ _ => get?_mk_eq_some,
    fun _ _ => get?_declared_eq_some, isBag_mk ds, fun name hagree => ?_⟩
  have hget := get?_mk hagree
  exact ⟨hget, fun field => by rw [hget]⟩

/-- A configuration that declares one bag twice, in two spellings, and another bag once. -/
def itemTwice : Config :=
  { Config.standard with
    bags := some ⟨[⟨"item", some (NameSet.ofList ["Id"])⟩, ⟨"order", none⟩,
      ⟨"Item", some (NameSet.ofList ["Total"])⟩]⟩ }

theorem declared_or_loaded_itemTwice :
    ∃ loaded s, Config.load itemTwice.toJson.text = .ok loaded ∧ loaded.bags = some s ∧
      FirstNamed itemTwice.declaredBags "ITEM" ⟨"item", some (NameSet.ofList ["Id"])⟩ ∧
      s.get? "ITEM" = some ⟨"item", some (NameSet.ofList ["Id"])⟩ ∧
      s.isBag "ITEM" = (declared itemTwice.declaredBags).isBag "ITEM" ∧
      s.get? "Order" = (declared itemTwice.declaredBags).get? "Order" := by
  have hnames : itemTwice.WellFormed :=
    ⟨by decide +kernel, by decide +kernel, by decide +kernel⟩
  obtain ⟨loaded, s, hload, hbags, hfirst, -, hbag, hagree⟩ :=
    declared_or_loaded itemTwice itemTwice.declaredBags rfl hnames
  have hitem : FirstNamed itemTwice.declaredBags "ITEM" ⟨"item", some (NameSet.ofList ["Id"])⟩ :=
    ⟨by decide +kernel, [], _, rfl, nofun⟩
  exact ⟨loaded, s, hload, hbags, hitem, (hfirst _ _).2 hitem, hbag _,
    (hagree "Order" (by decide +kernel)).1⟩

/-- The two ways part: a field of the second declaration is missing in what is loaded. -/
theorem field_of_second_declaration :
    ∃ loaded s, Config.load itemTwice.toJson.text = .ok loaded ∧ loaded.bags = some s ∧
      (s.get? "item").map (·.declares "Total") = some false ∧
      ((declared itemTwice.declaredBags).get? "item").map (·.declares "Total") = some true := by
  have hnames : itemTwice.WellFormed :=
    ⟨by decide +kernel, by decide +kernel, by decide +kernel⟩
  exact ⟨itemTwice, _, Config.load_text_ok.2 ⟨hnames, rfl⟩, rfl, by decide +kernel,
    by decide +kernel⟩

end GatedPredicate.Schema
