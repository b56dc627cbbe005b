import GatedPredicate.Proofs.Outcome
import GatedPredicate.Proofs.Policy.Built
import GatedPredicate.Proofs.Text.Search
import GatedPredicate.Catalog.Standard
import GatedPredicate.Value.Compare
import Mathlib.Data.List.Basic

/-!
# How the standard catalog fails

A function or an operator may refuse the values it is given. That is an ordinary failure. It is not
ordinary that a field is missing, which only bags can be the cause of, nor that there is an anomaly:
an operator where it does not belong, a wrong number of arguments, a character or an element that
is not there. The operators on values fail in ordinary ways only, and the overloads of the standard
catalog do so whenever they get as many arguments as they take.

- `Outcome.FailsOnly`: computations that fail in certain ways only
- `RuntimeError.Ordinary`
- `applyBinary_ordinary`, `negate_ordinary`: operators
- `Overload.Ordinary`, `Registry.standard_ordinary`: overloads
-/

namespace GatedPredicate

open GatedPredicate.Syntax

/-! ## Ways to fail -/

/-- Every error of the computation is one that `P` describes. -/
def Outcome.FailsOnly {α : Type} (P : RuntimeError → Prop) (x : Outcome α) : Prop :=
  ∀ e, x = .error e → P e

namespace Outcome.FailsOnly

variable {α β : Type} {P Q : RuntimeError → Prop}

theorem ok {v : α} : Outcome.FailsOnly P (.ok v) := nofun

theorem error {e : RuntimeError} (h : P e) : Outcome.FailsOnly P (.error e : Outcome α) :=
  fun _ he => Except.error.inj he ▸ h

theorem map {x : Outcome α} {f : α → β} (h : x.FailsOnly P) : Outcome.FailsOnly P (x.map f) := by
  intro e he
  cases x with
  | error e' => exact h e (by simpa [Except.map] using he)
  | ok v => cases he

/-- A sequence fails like its first part, or like the second one on what the first part gives. -/
theorem bind {x : Outcome α} {f : α → Outcome β} (hx : x.FailsOnly P)
    (hf : ∀ a, x = .ok a → (f a).FailsOnly P) : Outcome.FailsOnly P (x.bind f) := by
  cases x with
  | error e' => exact error (hx e' rfl)
  | ok v => exact hf v rfl

theorem mono {x : Outcome α} (h : ∀ e, P e → Q e) (hx : x.FailsOnly P) : x.FailsOnly Q :=
  fun e he => h e (hx e he)

end Outcome.FailsOnly

/-- An error that is about the values at hand. -/
def RuntimeError.Ordinary : RuntimeError → Prop
  | .propertyNotFound _ _ | .unexpected _ => False
  | _ => True

/-- A computation that fails in ordinary ways only. -/
abbrev Outcome.Ordinary {α : Type} (x : Outcome α) : Prop :=
  x.FailsOnly RuntimeError.Ordinary

/-- Arithmetic that has no result. -/
def RuntimeError.IsFault : RuntimeError → Prop
  | .arithmetic _ => True
  | _ => False

theorem RuntimeError.IsFault.ordinary {e : RuntimeError} (h : e.IsFault) : e.Ordinary := by
  cases e with
  | arithmetic fault => exact trivial
  | _ => exact h.elim

open Outcome.FailsOnly

/-! ## Operators -/

theorem orOverflow_faults {α : Type} (x : Option α) :
    (orOverflow x).FailsOnly RuntimeError.IsFault := by
  unfold orOverflow
  split
  · exact ok
  · exact error trivial

theorem orOverflow_ordinary {α : Type} (x : Option α) : (orOverflow x).Ordinary :=
  (orOverflow_faults x).mono fun _ => RuntimeError.IsFault.ordinary

theorem negate_ordinary (v : Value) : v.negate.Ordinary := by
  unfold Value.negate
  split
  · exact map (orOverflow_ordinary _)
  · exact map (orOverflow_ordinary _)
  · exact ok
  · exact ok
  · exact error trivial

section Binary

variable {op : BinaryOp}

/-- The operators that do arithmetic. -/
def IsArithmetic (op : BinaryOp) : Prop :=
  op = .add ∨ op = .sub ∨ op = .mul ∨ op = .div ∨ op = .mod

/-- An operator that does arithmetic has its place in the arithmetic of every kind of numbers. -/
theorem Operations.apply_faults {α : Type} (ops : Operations α) (hop : IsArithmetic op)
    (x y : α) : (ops.apply op x y).FailsOnly RuntimeError.IsFault := by
  rcases hop with rfl | rfl | rfl | rfl | rfl
  · exact orOverflow_faults _
  · exact orOverflow_faults _
  · exact orOverflow_faults _
  · simp only [Operations.apply]
    split
    · exact error trivial
    · exact orOverflow_faults _
  · simp only [Operations.apply]
    split
    · exact error trivial
    · exact orOverflow_faults _

/-- Two numbers that have met fail for no other reason than that there is no result. -/
theorem NumericPair.apply_faults (hop : IsArithmetic op) (p : NumericPair) :
    (p.apply op).FailsOnly RuntimeError.IsFault := by
  cases p with
  | int a b => exact map (Operations.apply_faults _ hop a b)
  | uint a b => exact map (Operations.apply_faults _ hop a b)
  | float a b => exact map (Operations.apply_faults _ hop a b)
  | decimal a b => exact map (Operations.apply_faults _ hop a b)

theorem applyArithmetic_ordinary (hop : IsArithmetic op) (l r : Value) :
    (applyArithmetic op l r).Ordinary := by
  unfold applyArithmetic arithmetic?
  cases promote? l r with
  | none => exact error trivial
  | some p => exact (NumericPair.apply_faults hop p).mono fun _ => RuntimeError.IsFault.ordinary

theorem applyRelational_ordinary (l r : Value) : (applyRelational op l r).Ordinary := by
  unfold applyRelational
  split
  · exact ok
  · split
    · exact ok
    · exact error trivial

theorem applyAdd_ordinary (l r : Value) : (applyAdd l r).Ordinary := by
  unfold applyAdd
  split
  · exact ok
  · exact ok
  · exact applyArithmetic_ordinary (.inl rfl) _ _

/-- Only `&&` and `||` must not come here. -/
theorem applyBinary_ordinary (hand : op ≠ .and) (hor : op ≠ .or) (l r : Value) :
    (applyBinary op l r).Ordinary := by
  cases op with
  | and => exact absurd rfl hand
  | or => exact absurd rfl hor
  | eq | ne => exact ok
  | lt | le | gt | ge => exact applyRelational_ordinary l r
  | add => exact applyAdd_ordinary l r
  | sub | mul | div | mod => exact applyArithmetic_ordinary (by simp [IsArithmetic]) l r

end Binary

/-! ## Overloads -/

/-- With `count` arguments the overload fails in ordinary ways only. -/
def Overload.Ordinary (o : Overload) (count : Nat) : Prop :=
  ∀ args, args.length = count → (o.run args).Ordinary

/-- Overloads fail in ordinary ways only when they get as many arguments as they take; those of
members get their receiver on top. -/
structure Registry.Ordinary (r : Registry) : Prop where
  functions : ∀ m ∈ r.modules, ∀ f ∈ m.functions, ∀ o ∈ f.overloads, o.Ordinary o.arity
  members : ∀ m ∈ r.allMembers, ∀ o ∈ m.overloads, o.Ordinary (o.arity + 1)

namespace Overload

variable {arity : Nat} {result : ResultType}

theorem ordinary_run1 {f : Value → Outcome Value} (h : ∀ x, (f x).Ordinary) :
    Ordinary ⟨arity, result, run1 f⟩ 1 := by
  intro args hargs
  obtain ⟨x, rfl⟩ := List.length_eq_one_iff.1 hargs
  exact h x

theorem ordinary_run2 {f : Value → Value → Outcome Value} (h : ∀ x y, (f x y).Ordinary) :
    Ordinary ⟨arity, result, run2 f⟩ 2 := by
  intro args hargs
  obtain ⟨x, y, rfl⟩ := List.length_eq_two.1 hargs
  exact h x y

theorem ordinary_run3 {f : Value → Value → Value → Outcome Value}
    (h : ∀ x y z, (f x y z).Ordinary) : Ordinary ⟨arity, result, run3 f⟩ 3 := by
  intro args hargs
  obtain ⟨x, y, z, rfl⟩ := List.length_eq_three.1 hargs
  exact h x y z

end Overload

/-! ## The standard catalog -/

namespace Catalog

open Overload

/-! ### Arguments -/

theorem doubleArgument_ordinary (name : String) (v : Value) : (doubleArgument name v).Ordinary := by
  unfold doubleArgument
  split
  · exact ok
  · exact error trivial

theorem charArgument_ordinary (name : String) (v : Value) : (charArgument name v).Ordinary := by
  unfold charArgument
  split
  · exact ok
  · split
    · exact ok
    · exact error trivial
  · exact error trivial

theorem textArgument_ordinary (name : String) (v : Value) : (textArgument name v).Ordinary := by
  unfold textArgument
  split
  · exact error trivial
  · exact ok
  · exact error trivial

theorem textReceiver_ordinary (v : Value) : (textReceiver v).Ordinary := by
  unfold textReceiver
  split
  · exact ok
  · exact error trivial

theorem elementReceiver_ordinary (v : Value) : (elementReceiver v).Ordinary := by
  unfold elementReceiver
  split
  · exact ok
  · exact error trivial

theorem momentReceiver_ordinary (v : Value) : (momentReceiver v).Ordinary := by
  unfold momentReceiver
  split
  · exact ok
  · exact error trivial

theorem needle_ordinary (name : String) (v : Value) : (needle name v).Ordinary := by
  unfold needle
  split
  · exact ok
  · exact ok
  · exact error trivial
  · exact error trivial

theorem elements_ordinary (v : Value) : (elements v).Ordinary := by
  unfold elements
  split
  · exact ok
  · exact ok
  · exact ok
  · exact error trivial

theorem elementCount_ordinary (v : Value) : (elementCount v).Ordinary := by
  unfold elementCount
  split
  · exact ok
  · exact ok
  · exact ok
  · exact error trivial

/-! ### The mathematical functions -/

theorem abs_ordinary (x : Value) : (abs x).Ordinary := by
  unfold abs
  split
  · exact map (orOverflow_ordinary _)
  · exact ok
  · exact ok
  · exact ok
  · exact error trivial

theorem sign_ordinary (x : Value) : (sign x).Ordinary := by
  unfold sign
  split
  · exact ok
  · exact ok
  · split
    · exact error trivial
    · exact ok
    · exact ok
    · exact ok
  · exact ok
  · exact error trivial

theorem choose_ordinary (name : String) (pick : NumericPair → Value) (x y : Value) :
    (choose name pick x y).Ordinary := by
  unfold choose
  split
  · exact ok
  · exact error trivial

theorem clamp_ordinary (v low high : Value) : (clamp v low high).Ordinary := by
  unfold clamp
  split
  · exact error trivial
  · split
    · exact error trivial
    · exact bind (choose_ordinary _ _ _ _) fun raised _ => choose_ordinary _ _ _ _

theorem roundWith_ordinary (name : String) (onDouble : Float → Float)
    (onDecimal : Decimal → Decimal) (x : Value) :
    (roundWith name onDouble onDecimal x).Ordinary := by
  unfold roundWith
  split
  · exact ok
  · exact ok
  · exact ok
  · exact ok
  · exact error trivial

theorem roundTo_ordinary (x places : Value) : (roundTo x places).Ordinary := by
  unfold roundTo
  split
  · split
    · exact roundWith_ordinary _ _ _ _
    · exact error trivial
  · exact error trivial

theorem power_ordinary (x y : Value) : (power x y).Ordinary :=
  bind (doubleArgument_ordinary _ _) fun _ _ => map (doubleArgument_ordinary _ _)

theorem squareRoot_ordinary (x : Value) : (squareRoot x).Ordinary :=
  map (doubleArgument_ordinary _ _)

theorem mathModule_ordinary :
    ∀ f ∈ mathModule.functions, ∀ o ∈ f.overloads, o.Ordinary o.arity := by
  have hround (name : String) (onDouble : Float → Float) (onDecimal : Decimal → Decimal) :
      ∀ o ∈ (rounding name onDouble onDecimal).overloads, o.Ordinary o.arity :=
    List.forall_mem_singleton.2 (ordinary_run1 (roundWith_ordinary _ _ _))
  simp only [mathModule, List.forall_mem_cons]
  exact ⟨⟨ordinary_run1 abs_ordinary, List.forall_mem_nil _⟩,
    ⟨ordinary_run2 (choose_ordinary _ _), List.forall_mem_nil _⟩,
    ⟨ordinary_run2 (choose_ordinary _ _), List.forall_mem_nil _⟩,
    ⟨ordinary_run3 clamp_ordinary, List.forall_mem_nil _⟩,
    ⟨ordinary_run1 (roundWith_ordinary _ _ _), ordinary_run2 roundTo_ordinary,
      List.forall_mem_nil _⟩,
    hround _ _ _, hround _ _ _, hround _ _ _,
    ⟨ordinary_run2 power_ordinary, List.forall_mem_nil _⟩,
    ⟨ordinary_run1 squareRoot_ordinary, List.forall_mem_nil _⟩,
    ⟨ordinary_run1 sign_ordinary, List.forall_mem_nil _⟩, List.forall_mem_nil _⟩

/-! ### Texts and characters -/

theorem nullOr_ordinary (name : String) (test : String → Bool) (x : Value) :
    (nullOr name test x).Ordinary := by
  unfold nullOr
  split
  · exact ok
  · exact ok
  · exact error trivial

theorem textEquals_ordinary (x y : Value) : (textEquals x y).Ordinary := by
  unfold textEquals
  split
  · exact ok
  · exact ok
  · exact ok
  · exact ok
  · exact error trivial

theorem stringModule_ordinary :
    ∀ f ∈ stringModule.functions, ∀ o ∈ f.overloads, o.Ordinary o.arity := by
  have hconcat (arity : Nat) (result : ResultType) :
      Overload.Ordinary ⟨arity, result, concat⟩ arity :=
    fun _ _ => ok
  simp only [stringModule, List.forall_mem_cons]
  exact ⟨⟨ordinary_run1 (nullOr_ordinary _ _), List.forall_mem_nil _⟩,
    ⟨ordinary_run1 (nullOr_ordinary _ _), List.forall_mem_nil _⟩,
    ⟨hconcat _ _, hconcat _ _, hconcat _ _, List.forall_mem_nil _⟩,
    ⟨ordinary_run2 textEquals_ordinary, List.forall_mem_nil _⟩, List.forall_mem_nil _⟩

theorem charModule_ordinary :
    ∀ f ∈ charModule.functions, ∀ o ∈ f.overloads, o.Ordinary o.arity := by
  have hclass (name : String) (test : Char → Bool) :
      ∀ o ∈ (charClass name test).overloads, o.Ordinary o.arity :=
    List.forall_mem_singleton.2 (ordinary_run1 fun _ => map (charArgument_ordinary _ _))
  simp only [charModule, List.forall_mem_cons]
  exact ⟨hclass _ _, hclass _ _, hclass _ _, hclass _ _, hclass _ _, List.forall_mem_nil _⟩

theorem positionUpTo_ordinary (limit : Nat) (name : String) (v : Value) :
    (positionUpTo limit name v).Ordinary := by
  have hnumber : (positionArgument name v).Ordinary := by
    unfold positionArgument
    split
    · exact ok
    · exact error trivial
  refine bind hnumber fun n _ => ?_
  split
  · exact ok
  · exact error trivial

theorem le_of_positionUpTo {limit : Nat} {name : String} {v : Value} {i : Nat}
    (h : positionUpTo limit name v = .ok i) : i ≤ limit := by
  obtain ⟨n, -, h⟩ := except_bind_eq_ok.1 h
  split at h
  · rename_i hn
    have hi : n.toNat = i := Except.ok.inj h
    omega
  · cases h

/-- What lies within a text can be cut out of it. -/
theorem slice_ordinary {cs : List Char} {i n : Nat} (h : i + n ≤ cs.length) :
    (slice cs i n).Ordinary := by
  rw [slice, if_pos h]
  exact ok

/-- Whatever the position is, no character is asked for that is not there. -/
theorem substringFrom_ordinary (v start : Value) : (substringFrom v start).Ordinary := by
  refine bind (textReceiver_ordinary v) fun s _ => ?_
  refine bind (positionUpTo_ordinary _ _ _) fun i hi => ?_
  have hle : i ≤ s.toList.length := le_of_positionUpTo hi
  exact slice_ordinary (by omega)

theorem substring_ordinary (v start length : Value) : (substring v start length).Ordinary := by
  refine bind (textReceiver_ordinary v) fun s _ => ?_
  refine bind (positionUpTo_ordinary _ _ _) fun i hi => ?_
  refine bind (positionUpTo_ordinary _ _ _) fun n hn => ?_
  have hstart : i ≤ s.toList.length := le_of_positionUpTo hi
  have hlength : n ≤ s.toList.length - i := le_of_positionUpTo hn
  exact slice_ordinary (by omega)

/-- What is found in a text can be cut off in front of it. -/
theorem positionOf_ordinary (n cs : List Char) : (positionOf n cs).Ordinary := by
  unfold positionOf
  split
  · exact ok
  · rename_i place hplace
    obtain ⟨i, -, hfront⟩ := Text.takeBytes?_of_byteIndex? hplace
    rw [hfront]
    exact ok

theorem stringMembers_ordinary :
    ∀ m ∈ stringMembers, ∀ o ∈ m.overloads, o.Ordinary (o.arity + 1) := by
  have hread (name : String) (isProperty : Bool) (t : ValueType) (read : List Char → Value) :
      ∀ o ∈ (textMember name isProperty t read).overloads, o.Ordinary (o.arity + 1) :=
    List.forall_mem_singleton.2 (ordinary_run1 fun v => map (textReceiver_ordinary v))
  have hsearch (name : String) (t : ValueType) (search : List Char → List Char → Outcome Value)
      (h : ∀ n cs, (search n cs).Ordinary) :
      ∀ o ∈ (searching name t search).overloads, o.Ordinary (o.arity + 1) :=
    List.forall_mem_singleton.2 (ordinary_run2 fun v w =>
      bind (textReceiver_ordinary v) fun _ _ => bind (needle_ordinary _ w) fun _ _ => h _ _)
  simp only [stringMembers, List.forall_mem_cons]
  exact ⟨hread _ _ _ _, hread _ _ _ _, hsearch _ _ _ fun _ _ => ok, hsearch _ _ _ fun _ _ => ok,
    hsearch _ _ _ fun _ _ => ok, hsearch _ _ _ positionOf_ordinary, hread _ _ _ _,
    hread _ _ _ _, hread _ _ _ _,
    ⟨ordinary_run2 substringFrom_ordinary, ordinary_run3 substring_ordinary,
      List.forall_mem_nil _⟩, List.forall_mem_nil _⟩

/-! ### Conversions -/

theorem orMalformed_ordinary {α : Type} (name : String) (found : Option α) :
    (orMalformed name found).Ordinary := by
  unfold orMalformed
  split
  · exact ok
  · exact error trivial

theorem toInt64_ordinary (v : Value) : (toInt64 v).Ordinary := by
  unfold toInt64
  split
  · exact ok
  · exact ok
  · exact orOverflow_ordinary _
  · exact ok
  · exact ok
  · exact orOverflow_ordinary _
  · exact orOverflow_ordinary _
  · exact orMalformed_ordinary _ _
  · exact error trivial

theorem toDouble_ordinary (v : Value) : (toDouble v).Ordinary := by
  unfold toDouble
  split
  · exact ok
  · exact ok
  · exact orMalformed_ordinary _ _
  · split
    · exact ok
    · exact error trivial

theorem toDecimal_ordinary (v : Value) : (toDecimal v).Ordinary := by
  unfold toDecimal
  split
  · exact ok
  · exact ok
  · exact ok
  · exact ok
  · exact ok
  · exact orOverflow_ordinary _
  · exact orMalformed_ordinary _ _
  · exact error trivial

theorem toBool_ordinary (v : Value) : (toBool v).Ordinary := by
  unfold toBool
  split
  · exact ok
  · exact ok
  · exact ok
  · exact ok
  · exact ok
  · exact ok
  · dsimp only
    split
    · exact ok
    split
    · exact ok
    · exact error trivial
  · exact error trivial

theorem convertModule_ordinary :
    ∀ f ∈ convertModule.functions, ∀ o ∈ f.overloads, o.Ordinary o.arity := by
  simp only [convertModule, List.forall_mem_cons]
  exact ⟨⟨ordinary_run1 fun v => map (toInt64_ordinary v), List.forall_mem_nil _⟩,
    ⟨ordinary_run1 fun v => map (toDouble_ordinary v), List.forall_mem_nil _⟩,
    ⟨ordinary_run1 fun v => map (toDecimal_ordinary v), List.forall_mem_nil _⟩,
    ⟨ordinary_run1 fun _ => ok, List.forall_mem_nil _⟩,
    ⟨ordinary_run1 fun v => map (toBool_ordinary v), List.forall_mem_nil _⟩,
    List.forall_mem_nil _⟩

/-! ### Patterns, documents, dates and times -/

theorem matchWith_ordinary (sum : Int) (input pattern : Value) :
    (matchWith sum input pattern).Ordinary := by
  refine bind (textArgument_ordinary _ _) fun s _ => ?_
  refine bind (textArgument_ordinary _ _) fun p _ => ?_
  split
  · exact error trivial
  · split
    · exact ok
    · exact error trivial

theorem matchOptions_ordinary (input pattern options : Value) :
    (matchOptions input pattern options).Ordinary := by
  unfold matchOptions
  split
  · exact matchWith_ordinary _ _ _
  · exact error trivial

theorem parseDocument_ordinary (v : Value) : (parseDocument v).Ordinary := by
  refine bind (textArgument_ordinary _ _) fun s _ => ?_
  split
  · exact ok
  · exact error trivial

theorem parseDateTime_ordinary (v : Value) : (parseDateTime v).Ordinary := by
  refine bind (textArgument_ordinary _ _) fun s _ => ?_
  split
  · exact ok
  · exact error trivial

theorem getProperty_ordinary (v key : Value) : (getProperty v key).Ordinary := by
  refine bind (elementReceiver_ordinary _) fun j _ => ?_
  refine bind (textArgument_ordinary _ _) fun k _ => ?_
  split
  · split
    · exact ok
    · exact error trivial
  · exact error trivial

theorem jsonMembers_ordinary :
    ∀ m ∈ jsonMembers, ∀ o ∈ m.overloads, o.Ordinary (o.arity + 1) := by
  have hgetter (name : String) (t : ValueType) (read? : Json → Option Value) :
      ∀ o ∈ (elementGetter name t read?).overloads, o.Ordinary (o.arity + 1) := by
    refine List.forall_mem_singleton.2 (ordinary_run1 fun v => ?_)
    refine bind (elementReceiver_ordinary v) fun j _ => ?_
    split
    · exact ok
    · exact error trivial
  simp only [jsonMembers, List.forall_mem_cons]
  exact ⟨⟨ordinary_run1 fun _ => ok, List.forall_mem_nil _⟩,
    ⟨ordinary_run1 fun v => map (elementReceiver_ordinary v), List.forall_mem_nil _⟩,
    ⟨ordinary_run2 getProperty_ordinary, List.forall_mem_nil _⟩,
    hgetter _ _ _, hgetter _ _ _, hgetter _ _ _, hgetter _ _ _, hgetter _ _ _, hgetter _ _ _,
    hgetter _ _ _, List.forall_mem_nil _⟩

theorem dateTimeMembers_ordinary :
    ∀ m ∈ dateTimeMembers, ∀ o ∈ m.overloads, o.Ordinary (o.arity + 1) := by
  have hcomponent (name : String) (read : DateTime → Int) :
      ∀ o ∈ (component name read).overloads, o.Ordinary (o.arity + 1) :=
    List.forall_mem_singleton.2 (ordinary_run1 fun v => map (momentReceiver_ordinary v))
  simp only [dateTimeMembers, List.forall_mem_cons]
  exact ⟨hcomponent _ _, hcomponent _ _, hcomponent _ _, hcomponent _ _, hcomponent _ _,
    hcomponent _ _, hcomponent _ _, hcomponent _ _,
    ⟨ordinary_run1 fun v => map (momentReceiver_ordinary v), List.forall_mem_nil _⟩,
    List.forall_mem_nil _⟩

/-! ### Sequences and all values -/

theorem sequenceMembers_ordinary :
    ∀ m ∈ sequenceMembers, ∀ o ∈ m.overloads, o.Ordinary (o.arity + 1) := by
  have hcounting (name : String) (isProperty : Bool) (t : ValueType) (read : Nat → Value) :
      ∀ o ∈ (counting name isProperty t read).overloads, o.Ordinary (o.arity + 1) :=
    List.forall_mem_singleton.2 (ordinary_run1 fun v => map (elementCount_ordinary v))
  simp only [sequenceMembers, List.forall_mem_cons]
  exact ⟨hcounting _ _ _ _, hcounting _ _ _ _, hcounting _ _ _ _,
    ⟨ordinary_run2 fun v _ => map (elements_ordinary v), List.forall_mem_nil _⟩,
    List.forall_mem_nil _⟩

theorem objectMembers_ordinary :
    ∀ m ∈ objectMembers, ∀ o ∈ m.overloads, o.Ordinary (o.arity + 1) := by
  simp only [objectMembers, List.forall_mem_cons]
  exact ⟨⟨ordinary_run1 fun _ => ok, List.forall_mem_nil _⟩,
    ⟨ordinary_run2 fun _ _ => ok, List.forall_mem_nil _⟩, List.forall_mem_nil _⟩

end Catalog

/-- The standard catalog fails in ordinary ways only. -/
theorem Registry.standard_ordinary : Registry.standard.Ordinary where
  functions := by
    rw [Policy.standard_modules]
    simp only [Catalog.standardModules, List.forall_mem_cons]
    refine ⟨Catalog.mathModule_ordinary, Catalog.stringModule_ordinary,
      Catalog.charModule_ordinary, Catalog.convertModule_ordinary, ?_, nofun, ?_, ?_, nofun,
      List.forall_mem_nil _⟩
    · simp only [Catalog.patternModule, List.forall_mem_cons]
      exact ⟨⟨Overload.ordinary_run2 (Catalog.matchWith_ordinary 0),
        Overload.ordinary_run3 Catalog.matchOptions_ordinary, List.forall_mem_nil _⟩,
        List.forall_mem_nil _⟩
    · simp only [Catalog.documentModule, List.forall_mem_cons]
      exact ⟨⟨Overload.ordinary_run1 Catalog.parseDocument_ordinary, List.forall_mem_nil _⟩,
        List.forall_mem_nil _⟩
    · simp only [Catalog.dateTimeModule, List.forall_mem_cons]
      exact ⟨⟨Overload.ordinary_run1 Catalog.parseDateTime_ordinary, List.forall_mem_nil _⟩,
        List.forall_mem_nil _⟩
  members := by
    rw [Policy.standard_allMembers]
    simp only [Catalog.standardMembers, List.forall_mem_append]
    exact ⟨⟨⟨⟨Catalog.stringMembers_ordinary, Catalog.dateTimeMembers_ordinary⟩,
      Catalog.jsonMembers_ordinary⟩, Catalog.sequenceMembers_ordinary⟩,
      Catalog.objectMembers_ordinary⟩

end GatedPredicate
