import GatedPredicate.Proofs.Bag.Declarations

/-!
# Bags that are declared again

A declaration of a bag takes the place of an earlier one of the same name, in whatever case the two
are spelled, and moves the bag to the end. After any run of declarations the schema holds those that
no later one has replaced, in the order in which they were made.

- `Schema.survivors`: the declarations that no later one replaces
- `Schema.Distinct`, `Schema.withBag_distinct`: no two bags of a schema share a name
- `Schema.bags_declared`: what a run of declarations leaves
- `Schema.redeclared_bags_replaced`: all that can be seen of a schema after a run
-/

namespace GatedPredicate.Schema

open GatedPredicate.Text

/-! ## Surviving declarations -/

/-- The declarations that no later one replaces, in order. -/
def survivors : List BagDecl → List BagDecl
  | [] => []
  | d :: rest =>
    if rest.any fun later => sameName later.name d.name then survivors rest
    else d :: survivors rest

/-- One more declaration stands last, and those of its name are gone. -/
theorem survivors_concat (ds : List BagDecl) (d : BagDecl) :
    survivors (ds ++ [d]) =
      (survivors ds).filter (fun old => !sameName old.name d.name) ++ [d] := by
  induction ds with
  | nil => rfl
  | cons e rest ih =>
    rw [List.cons_append, survivors, survivors, ih]
    by_cases hlater : (rest.any fun later => sameName later.name e.name) = true
    · -- `e` is replaced before `d` comes
      simp [hlater]
    · by_cases hreplaced : sameName d.name e.name = true
      · have hold : sameName e.name d.name = true := sameName_comm e.name d.name ▸ hreplaced
        simp [hlater, hreplaced, hold]
      · have hold : ¬ sameName e.name d.name = true := sameName_comm e.name d.name ▸ hreplaced
        simp [hlater, hreplaced, hold]

theorem bags_declared (ds : List BagDecl) : (declared ds).bags = survivors ds := by
  induction ds using List.reverseRecOn with
  | nil => rfl
  | append_singleton ds d ih =>
    rw [declared, List.foldl_append, ← declared, survivors_concat, ← ih]
    rfl

/-! ## Different names -/

/-- No two bags share a name, up to case. -/
def Distinct (s : Schema) : Prop :=
  s.bags.Pairwise fun a b => sameName a.name b.name = false

variable {s : Schema}

theorem withBag_distinct (h : s.Distinct) (b : BagDecl) : (s.withBag b).Distinct := by
  refine List.pairwise_append.2 ⟨h.filter _, List.pairwise_singleton _ _, fun old hold d hd => ?_⟩
  obtain rfl := List.mem_singleton.1 hd
  exact Bool.not_eq_true' _ ▸ (List.mem_filter.1 hold).2

theorem foldl_withBag_distinct (h : s.Distinct) (ds : List BagDecl) :
    (ds.foldl withBag s).Distinct := by
  induction ds generalizing s with
  | nil => exact h
  | cons d rest ih => exact ih (withBag_distinct h d)

/-- Where names are different, every bag is the one that is found under its name. -/
theorem Distinct.get?_of_mem (h : s.Distinct) {b : BagDecl} (hb : b ∈ s.bags) :
    s.get? b.name = some b := by
  obtain ⟨before, after, hbags⟩ := List.append_of_mem hb
  rw [Distinct, hbags, List.pairwise_append] at h
  refine List.find?_eq_some_iff_append.2 ⟨sameName_iff.2 rfl, before, after, hbags, ?_⟩
  intro a ha
  rw [h.2.2 a ha b List.mem_cons_self]
  rfl

/-- A run of declarations leaves a bag alone that is not among them. -/
theorem mem_foldl_withBag (h : s.Distinct) {b : BagDecl} (hb : b ∈ s.bags) {ds : List BagDecl}
    (hother : ∀ d ∈ ds, sameName d.name b.name = false) :
    b ∈ (ds.foldl withBag s).bags := by
  have hnone : (ds.reverse.find? fun d => sameName d.name b.name) = none := by
    rw [List.find?_eq_none]
    intro d hd
    rw [hother d (List.mem_reverse.1 hd)]
    exact Bool.false_ne_true
  have hget : (ds.foldl withBag s).get? b.name = some b := by
    rw [get?_foldl_withBag, hnone, h.get?_of_mem hb]
    rfl
  exact List.mem_of_find?_eq_some hget

/-! ## Runs of declarations -/

theorem empty_distinct : empty.Distinct := .nil

theorem standard_distinct : standard.Distinct :=
  withBag_distinct (withBag_distinct empty_distinct _) _

/-- Whatever is declared beyond no bags or the standard ones, in any order and any spelling: names
stay different; a name finds the last declaration that spells it in any case, as that was made; the
schema holds the declarations that survive, in the order in which they were made; and a bag that is
there at some point and not declared again later stays as it is. -/
theorem redeclared_bags_replaced {start : Schema} (hstart : start = empty ∨ start = standard)
    (ds : List BagDecl) :
    let s := ds.foldl withBag start
    s.Distinct ∧
    (∀ name d, s.get? name = some d ↔ LastNamed (start.bags ++ ds) name d) ∧
    s.bags = survivors (start.bags ++ ds) ∧
    ∀ before after, ds = before ++ after → ∀ b ∈ (before.foldl withBag start).bags,
      (∀ d ∈ after, sameName d.name b.name = false) → b ∈ s.bags ∧ s.get? b.name = some b := by
  intro s
  have hdistinct : start.Distinct := by
    rcases hstart with rfl | rfl
    · exact empty_distinct
    · exact standard_distinct
  -- both starting points come from declaring their own bags
  have hdeclared : s = declared (start.bags ++ ds) := by
    rw [declared, List.foldl_append]
    rcases hstart with rfl | rfl <;> rfl
  have hs : s.Distinct := foldl_withBag_distinct hdistinct ds
  refine ⟨hs, fun name d => ?_, ?_, fun before after hds b hb hother => ?_⟩
  · rw [hdeclared]
    exact get?_declared_eq_some
  · rw [hdeclared]
    exact bags_declared _
  · have hmem : b ∈ s.bags := by
      have hrun : s = after.foldl withBag (before.foldl withBag start) := by
        rw [← List.foldl_append, ← hds]
      rw [hrun]
      exact mem_foldl_withBag (foldl_withBag_distinct hdistinct before) hb hother
    exact ⟨hmem, hs.get?_of_mem hmem⟩

/-- `Item` is declared twice beyond the standard bags, in two spellings, with another bag in
between. -/
theorem redeclared_bags_replaced_item :
    let first : BagDecl := ⟨"Item", some (NameSet.ofList ["Id"])⟩
    let last : BagDecl := ⟨"ITEM", some (NameSet.ofList ["Total"])⟩
    let s := [first, ⟨"order", none⟩, last].foldl withBag standard
    s.bags = [⟨"claims", none⟩, ⟨"order", none⟩, last] ∧ s.get? "item" = some last ∧
      ⟨"claims", none⟩ ∈ (([] : List BagDecl).foldl withBag standard).bags ∧
      (∀ d ∈ [first, ⟨"order", none⟩, last], sameName d.name "claims" = false) ∧
      s.get? "claims" = some ⟨"claims", none⟩ := by
  intro first last s
  obtain ⟨-, hget, hbags, hkept⟩ :=
    redeclared_bags_replaced (.inr rfl) [first, ⟨"order", none⟩, last]
  have hlast : LastNamed (standard.bags ++ [first, ⟨"order", none⟩, last]) "item" last :=
    ⟨by decide, standard.bags ++ [first, ⟨"order", none⟩], [], rfl, nofun⟩
  have hmem : ⟨"claims", none⟩ ∈ (([] : List BagDecl).foldl withBag standard).bags := by decide
  have hother : ∀ d ∈ [first, ⟨"order", none⟩, last], sameName d.name "claims" = false := by
    decide +kernel
  exact ⟨hbags.trans (by decide +kernel), (hget _ _).2 hlast, hmem, hother,
    (hkept [] _ rfl _ hmem hother).2⟩

end GatedPredicate.Schema
