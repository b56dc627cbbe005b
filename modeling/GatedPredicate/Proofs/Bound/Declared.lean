import GatedPredicate.Proofs.Bag.Insertions
import GatedPredicate.Proofs.Bound.Fields

/-!
# Declared fields are there

Where fields are resolved strictly, every field node of a bound tree names a declared field, under
the name that its bag has in the schema. So bags that are filled with all declared fields, under
names in any case, have every field that evaluation asks for. Lambda parameters that hide a bag make
no difference: what they stand for are no field nodes.

- `Env.Declares`, `Env.Binds.declared`: the field nodes of what is resolved
- `Bags.Supply`: insertions that fill all declared fields
- `Gate.strict_fields_found`
-/

namespace GatedPredicate

open GatedPredicate.Syntax GatedPredicate.Text

/-! ## Field nodes -/

/-- A declaration is also found under the name that it gives the bag. -/
theorem Schema.get?_name {s : Schema} {name : String} {d : BagDecl} (h : s.get? name = some d) :
    s.get? d.name = some d := by
  have hname : sameName d.name name = true := by simpa using List.find?_some h
  have hsame : (fun b : BagDecl => sameName b.name d.name) = fun b => sameName b.name name :=
    funext fun b => sameName_right hname b.name
  rw [Schema.get?, hsame]
  exact h

/-- A field node names a bag as the schema spells it and, where fields are resolved strictly, one of
the fields that the bag declares. -/
def Env.Declares (env : Env) : Bound → Prop
  | .field bag name => ∃ d, env.schema.get? bag = some d ∧ d.name = bag ∧
      (env.strictFields = true → d.declares name = true)
  | _ => True

namespace Env

open GatedPredicate.Bound

variable {env : Env} {slots : List Nat}

section Calls

variable {receiver t : Typed} {ts : List Typed}

theorem bindStatic_declared {callee : Callee} (h : bindStatic callee ts = .ok t)
    (hargs : ∀ n ∈ nodesAllUnder slots (ts.map Typed.tree), env.Declares n.2) :
    ∀ n ∈ t.tree.nodesUnder slots, env.Declares n.2 := by
  obtain ⟨o, type, -, -, rfl⟩ := bindStatic_eq_ok h
  rw [nodesUnder, List.forall_mem_append]
  exact ⟨hargs, List.forall_mem_singleton.2 trivial⟩

theorem bindInstance_declared {name : String} {isProperty : Bool}
    (h : env.bindInstance receiver name isProperty ts = .ok t)
    (hr : ∀ n ∈ receiver.tree.nodesUnder slots, env.Declares n.2)
    (hargs : ∀ n ∈ nodesAllUnder slots (ts.map Typed.tree), env.Declares n.2) :
    ∀ n ∈ t.tree.nodesUnder slots, env.Declares n.2 := by
  obtain ⟨type, -, rfl⟩ := bindInstance_eq_ok h
  rw [nodesUnder, List.forall_mem_append, List.forall_mem_append]
  exact ⟨hr, hargs, List.forall_mem_singleton.2 trivial⟩

end Calls

/-- What a target stands for as a bag is a declaration of the schema. -/
theorem get?_of_bagFor? {scope : Scope} {target : Expr Mark} {d : BagDecl}
    (h : env.bagFor? scope target = some d) : ∃ name, env.schema.get? name = some d := by
  unfold bagFor? at h
  split at h
  · rename_i root
    split at h
    · cases h
    · exact ⟨root, h⟩
  · cases h

theorem declares_field {scope : Scope} {target : Expr Mark} {name : String} {d : BagDecl}
    (hbag : env.bagFor? scope target = some d)
    (hdeclared : (env.strictFields && !d.declares name) = false) :
    env.Declares (.field d.name name) := by
  obtain ⟨written, hget⟩ := get?_of_bagFor? hbag
  refine ⟨d, Schema.get?_name hget, rfl, fun hstrict => ?_⟩
  simpa [hstrict] using hdeclared

mutual

/-- What resolves has field nodes for declared fields only. -/
theorem Binds.declared {scope : Scope} {next after : Nat} {e : Expr Mark} {t : Typed}
    (h : env.Binds scope next e t after) (slots : List Nat) :
    ∀ n ∈ t.tree.nodesUnder slots, env.Declares n.2 := by
  match h with
  | .literal _ | .param _ | .imported _ _ _ _ | .constant _ _ _ _ =>
    exact List.forall_mem_singleton.2 trivial
  | .field hbag hstrict => exact List.forall_mem_singleton.2 (declares_field hbag hstrict)
  | .property _ _ hr ht => exact bindInstance_declared ht (hr.declared slots) nofun
  | .importedCall _ _ _ hargs ht => exact bindStatic_declared ht (hargs.declared slots)
  | .moduleCall _ _ _ hargs ht => exact bindStatic_declared ht (hargs.declared slots)
  | .quantifier _ _ _ hr _ hbody _ =>
    -- the parameter is one more slot for the body, where it is no field node either
    rw [nodesUnder, List.forall_mem_append, List.forall_mem_cons]
    exact ⟨hr.declared slots, trivial, hbody.declared _⟩
  | .method _ _ hr hargs ht =>
    exact bindInstance_declared ht (hr.declared slots) (hargs.declared slots)
  | .index ht hp _ =>
    simp only [nodesUnder, List.forall_mem_append, List.forall_mem_singleton]
    exact ⟨ht.declared slots, hp.declared slots, trivial⟩
  | .unary ht _ =>
    simp only [nodesUnder, List.forall_mem_append, List.forall_mem_singleton]
    exact ⟨ht.declared slots, trivial⟩
  | .binary hl hr _ =>
    simp only [nodesUnder, List.forall_mem_append, List.forall_mem_singleton]
    exact ⟨hl.declared slots, hr.declared slots, trivial⟩
  | .conditional hc _ hTrue hFalse _ =>
    simp only [nodesUnder, List.forall_mem_append, List.forall_mem_singleton]
    exact ⟨hc.declared slots, hTrue.declared slots, hFalse.declared slots, trivial⟩
  | .array hitems =>
    simp only [nodesUnder, List.forall_mem_append, List.forall_mem_singleton]
    exact ⟨hitems.declared slots, trivial⟩

theorem BindsAll.declared {scope : Scope} {next after : Nat} {es : List (Expr Mark)}
    {ts : List Typed} (h : env.BindsAll scope next es ts after) (slots : List Nat) :
    ∀ n ∈ nodesAllUnder slots (ts.map Typed.tree), env.Declares n.2 := by
  match h with
  | .nil => exact List.forall_mem_nil _
  | .cons hhead hrest =>
    rw [List.map_cons, nodesAllUnder, List.forall_mem_append]
    exact ⟨hhead.declared slots, hrest.declared slots⟩

end

end Env

/-! ## Bags that have all declared fields -/

/-- Each declared field is written by one of the insertions, to a bag of that name in any case. -/
def Bags.Supply (s : Schema) (insertions : List Insertion) : Prop :=
  ∀ d ∈ s.bags, ∀ fields, d.fields = some fields → ∀ name ∈ fields.names,
    ∃ i ∈ insertions, (i.written? d.name name).isSome = true

/-- A field that an insertion writes is there afterwards. -/
theorem Bags.field?_of_written (b : Bags) {insertions : List Insertion} {i : Insertion}
    (hi : i ∈ insertions) {bag name : String} (h : (i.written? bag name).isSome = true) :
    ((b.insertAll insertions).field? bag name).isSome = true := by
  have hfound : (insertions.reverse.findSome? fun i => i.written? bag name).isSome = true :=
    List.findSome?_isSome_iff.2 ⟨i, List.mem_reverse.2 hi, h⟩
  rw [Bags.field?_insertAll, Option.isSome_or, Option.isSome_map, hfound, Bool.true_or]

/-- Over the standard catalog, where each bag of the schema has a list of fields and these are
resolved strictly, the field nodes of a predicate name declared bags as the schema spells them and
fields in their lists. So over bags into which all declared fields have been put, under names in any
case, evaluation never reports that a field is missing. -/
theorem Gate.strict_fields_found (g : Gate) (hstandard : g.policy.registry = .standard)
    (hlisted : ∀ d ∈ g.schema.bags, d.fields.isSome = true)
    (hstrict : g.options.strictFields = true) (text : String) (p : Predicate)
    (hcompile : g.compile text = .ok p) :
    (∀ bag name, .field bag name ∈ p.bound.nodes → ∃ d ∈ g.schema.bags, ∃ fields,
      g.schema.get? bag = some d ∧ d.name = bag ∧ d.fields = some fields ∧ name ∈ fields.names) ∧
      ∀ options insertions, Bags.Supply g.schema insertions → ∀ bag name,
        p.evaluate ((Bags.empty options).insertAll insertions) ≠
          .error (.propertyNotFound bag name) := by
  have hpasses := Gate.compile_eq_ok.1 hcompile
  have hordinary : g.policy.registry.Ordinary := hstandard ▸ Registry.standard_ordinary
  have hnodes : ∀ bag name, .field bag name ∈ p.bound.nodes → ∃ d ∈ g.schema.bags, ∃ fields,
      g.schema.get? bag = some d ∧ d.name = bag ∧ d.fields = some fields ∧
        name ∈ fields.names := by
    intro bag name hnode
    obtain ⟨after, hbinds⟩ := Env.binds_of_bind hpasses.resolved
    obtain ⟨n, hn, heq⟩ := List.mem_map.1 hnode
    have hdeclares : g.env.Declares n.2 := hbinds.declared [] n hn
    rw [heq] at hdeclares
    obtain ⟨d, hget, hname, hdeclared⟩ := hdeclares
    have hmem : d ∈ g.schema.bags := List.mem_of_find?_eq_some hget
    obtain ⟨fields, hfields⟩ := Option.isSome_iff_exists.1 (hlisted d hmem)
    have hfield : d.declares name = true := hdeclared hstrict
    rw [BagDecl.declares, hfields] at hfield
    exact ⟨d, hmem, fields, hget, hname, hfields, by simpa [NameSet.contains] using hfield⟩
  refine ⟨hnodes, fun options insertions hsupply bag name hmissing => ?_⟩
  -- the field that is reported is one of the tree, so it is declared and has been put in
  obtain ⟨hnode, hnone⟩ := Gate.evaluate_propertyNotFound hordinary hcompile hmissing
  obtain ⟨d, hmem, fields, -, rfl, hfields, hfield⟩ := hnodes bag name hnode
  obtain ⟨i, hi, hwritten⟩ := hsupply d hmem fields hfields name hfield
  have hfound := (Bags.empty options).field?_of_written hi hwritten
  rw [hnone] at hfound
  cases hfound

/-- A gate whose only bag has a field `A`, under which `!@ITEM.A` compiles. An insertion that spells
the bag in another way fills it. -/
theorem Gate.strict_fields_found_item :
    let g : Gate := ⟨.standard, ⟨[⟨"item", some ⟨["A"], List.pairwise_singleton _ _⟩⟩]⟩,
      { Options.standard with strictFields := true }⟩
    let insertions : List Bags.Insertion := [.field "Item" "A" (.value (.bool true))]
    ∃ p, g.policy.registry = .standard ∧ (∀ d ∈ g.schema.bags, d.fields.isSome = true) ∧
      g.options.strictFields = true ∧ g.compile "!@ITEM.A" = .ok p ∧
      .field "item" "A" ∈ p.bound.nodes ∧ Bags.Supply g.schema insertions ∧
      (∀ bag name, p.evaluate ((Bags.empty .standard).insertAll insertions) ≠
        .error (.propertyNotFound bag name)) ∧
      p.evaluate ((Bags.empty .standard).insertAll insertions) = .ok false ∧
      p.evaluate (.empty .standard) = .error (.propertyNotFound "item" "A") := by
  intro g insertions
  let ls : List Lexeme := [⟨.symbol .bang, ⟨0, 1⟩⟩, ⟨.ident "ITEM", ⟨1, 6⟩⟩,
    ⟨.symbol .dot, ⟨6, 7⟩⟩, ⟨.ident "A", ⟨7, 8⟩⟩]
  let tree : Expr Mark :=
    .unary ⟨3, 0, 8⟩ .not (.member ⟨2, 1, 8⟩ (.ident ⟨1, 1, 6⟩ "ITEM") "A")
  let bound : Bound := .unary .not (.field "item" "A")
  have hlex : lex "!@ITEM.A" = .ok ls := by decide +kernel
  have hparse : parseLexemes 64 ls = .complete tree :=
    (parseLexemes_of_parseNested rfl rfl).trans rfl
  have hfindings : (Policy.standard.findings g.schema [] tree).isEmpty = true := by
    have hbag : Policy.standard.nameViolations "ITEM" = [] :=
      Policy.standard_nameViolations (by decide +kernel)
    have hfield : Policy.standard.nameViolations "A" = [] :=
      Policy.standard_nameViolations (by decide +kernel)
    have hdata : Policy.standard.isDataRoot g.schema [] "ITEM" = true := rfl
    simp [tree, Policy.findings, Expr.dottedPath?, Policy.chainViolations, Policy.found, hbag,
      hfield, hdata]
  have hbind : g.env.bind tree = .ok ⟨bound, .bool⟩ := by rfl
  have hcompile : g.compile "!@ITEM.A" = .ok ⟨_, tree, bound, .bool, g.schema, .standard⟩ :=
    Gate.compile_of_stages (g := g) (by decide) (by decide) (by decide) hlex hparse hfindings hbind
      rfl
  have hlisted : ∀ d ∈ g.schema.bags, d.fields.isSome = true := List.forall_mem_singleton.2 rfl
  have hsupply : Bags.Supply g.schema insertions := by
    refine List.forall_mem_singleton.2 fun fields hfields => ?_
    cases hfields
    exact List.forall_mem_singleton.2 ⟨_, List.mem_singleton_self _, rfl⟩
  obtain ⟨-, hfound⟩ := Gate.strict_fields_found g rfl hlisted rfl _ _ hcompile
  exact ⟨_, rfl, hlisted, rfl, hcompile, List.mem_cons_self, hsupply,
    hfound .standard insertions hsupply, rfl, rfl⟩

end GatedPredicate
