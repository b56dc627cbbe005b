import GatedPredicate.Gate
import GatedPredicate.Proofs.Outcome

/-!
# What compiles

A source text becomes a predicate in stages, each of which can refuse it. A predicate is what it is
because every stage let it through, and these are all the conditions there are.

- `Gate.Passes`: a text passes every stage and becomes a predicate
- `Gate.compile_eq_ok`: exactly these texts compile
- `Gate.compile_of_stages`: what a given text compiles to
-/

namespace GatedPredicate

open GatedPredicate.Syntax GatedPredicate.Text

/-- A text passes the stages of a gate one after the other and becomes `p`. -/
structure Gate.Passes (g : Gate) (text : String) (p : Predicate) : Prop where
  source : p.source = trim text
  nonempty : p.source.isEmpty = false
  short : p.source.utf8ByteSize ≤ g.options.maxLength.toNat
  parsed : g.parse p.source = .ok p.tree
  checked : g.policy.check g.schema p.tree = []
  resolved : g.env.bind p.tree = .ok ⟨p.bound, p.type⟩
  truth : p.type.maybeBool = true
  schema : p.schema = g.schema
  policy : p.policy = g.policy

variable {g : Gate} {text : String} {p : Predicate}

theorem Gate.check_eq_ok (g : Gate) (tree : Expr Mark) :
    g.check tree = .ok () ↔ g.policy.check g.schema tree = [] := by
  unfold Gate.check
  split
  · rename_i hnone
    simp [hnone]
  · rename_i hsome
    exact ⟨nofun, fun hnone => absurd hnone hsome⟩

theorem Gate.bindPredicate_eq_ok {tree : Expr Mark} {t : Typed} :
    g.bindPredicate tree = .ok t ↔ g.env.bind tree = .ok t ∧ t.type.maybeBool = true := by
  unfold Gate.bindPredicate
  cases g.env.bind tree with
  | error e => simp
  | ok s =>
    by_cases hbool : s.type.maybeBool = true
    · simp only [hbool, if_true, Except.ok.injEq]
      exact ⟨fun heq => ⟨heq, heq ▸ hbool⟩, And.left⟩
    · simp only [hbool, Bool.false_eq_true, if_false, reduceCtorEq, Except.ok.injEq, false_iff]
      rintro ⟨rfl, htruth⟩
      exact hbool htruth

/-- A text compiles if and only if it passes every stage. -/
theorem Gate.compile_eq_ok : g.compile text = .ok p ↔ g.Passes text p := by
  constructor
  · intro h
    unfold Gate.compile at h
    dsimp only at h
    split at h
    · cases h
    rename_i hempty
    split at h
    · cases h
    rename_i hshort
    split at h
    · cases h
    rename_i tree hparse
    obtain ⟨⟨⟩, hcheck, h⟩ := except_seq_eq_ok.1 h
    obtain ⟨t, hbind, h⟩ := except_seq_eq_ok.1 h
    obtain rfl := Except.ok.inj h
    obtain ⟨hresolved, htruth⟩ := Gate.bindPredicate_eq_ok.1 hbind
    exact {
      source := rfl
      nonempty := Bool.not_eq_true _ ▸ hempty
      short := Nat.le_of_not_lt hshort
      parsed := hparse
      checked := (g.check_eq_ok tree).1 hcheck
      resolved := hresolved
      truth := htruth
      schema := rfl
      policy := rfl }
  · intro h
    obtain ⟨source, tree, bound, type, schema, policy⟩ := p
    obtain ⟨hsource, hempty, hshort, hparse, hcheck, hresolved, htruth, hschema, hpolicy⟩ := h
    dsimp only at *
    subst hsource hschema hpolicy
    have hcheck' : g.check tree = .ok () := (g.check_eq_ok tree).2 hcheck
    have hbind : g.bindPredicate tree = .ok ⟨bound, type⟩ :=
      Gate.bindPredicate_eq_ok.2 ⟨hresolved, htruth⟩
    unfold Gate.compile
    simp only [hempty, Bool.false_eq_true, if_false, Nat.not_lt.2 hshort, hparse, hcheck', hbind,
      except_ok_seq]

/-- A text without blanks around it compiles if its lexemes and its tree are known and nothing is
found in the tree. -/
theorem Gate.compile_of_stages {ls : List Lexeme} {tree : Expr Mark} {t : Typed}
    (htrim : trim text = text) (hempty : text.isEmpty = false)
    (hshort : text.utf8ByteSize ≤ g.options.maxLength.toNat) (hlex : lex text = .ok ls)
    (hparse : parseLexemes g.options.maxDepth.toNat ls = .complete tree)
    (hfindings : (g.policy.findings g.schema [] tree).isEmpty = true)
    (hbind : g.env.bind tree = .ok t) (htruth : t.type.maybeBool = true) :
    g.compile text = .ok ⟨text, tree, t.tree, t.type, g.schema, g.policy⟩ := by
  have hparsed : g.parse text = .ok tree := by
    simp only [Gate.parse, Syntax.parse, hlex, hparse, Parsed.toExcept]
  have hchecked : g.policy.check g.schema tree = [] := by
    simp [Policy.check, List.isEmpty_iff.1 hfindings]
  exact Gate.compile_eq_ok.2
    ⟨htrim.symm, hempty, hshort, hparsed, hchecked, hbind, htruth, rfl, rfl⟩

end GatedPredicate
