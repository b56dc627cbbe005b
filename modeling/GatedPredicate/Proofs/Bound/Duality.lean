import GatedPredicate.Bound.Eval
import GatedPredicate.Proofs.Outcome

/-!
# Duality of quantifiers and connectives

All connectives of truth values read their operands one after the other and stop at the first that
settles the answer: a false one settles `&&` and `All`, a true one `||` and `Any`. Negating every
operand exchanges the two settling values, so the negated connective reads the same operands of the
dual one, stops at the same place and meets the same error there. Only the operation that a missing
truth value is reported for can tell the two sides apart.

- `Outcome.Alike`: the same value, or the same error but for the name of an operation
- `Bound.truth`, `Outcome.settle`: an operand as a truth value, and how operands are read
- `settle_not`, `quantify_not`: duality for two operands and for the elements of a sequence
- `quantifiers_and_connectives_dual`
-/

namespace GatedPredicate

open GatedPredicate.Syntax

variable {α β : Type}

/-! ## Outcomes that end alike -/

namespace Outcome

/-- The two outcomes are the same value or the same error. If a truth value was missing, they may
report it for different operations. -/
inductive Alike {α : Type} : Outcome α → Outcome α → Prop
  | same (x : Outcome α) : Alike x x
  | noTruthValue (operation operation' : String) (t : ValueType) :
      Alike (.error (.expected operation "bool" t)) (.error (.expected operation' "bool" t))

theorem Alike.seq {x y : Outcome α} {f g : α → Outcome β} (h : Alike x y)
    (hf : ∀ a, Alike (f a) (g a)) : Alike (x >>= f) (y >>= g) := by
  cases h with
  | same =>
    cases x with
    | error e => exact .same _
    | ok a => exact hf a
  | noTruthValue operation operation' t => exact .noTruthValue operation operation' t

theorem Alike.map {x y : Outcome α} (h : Alike x y) (f : α → β) : Alike (x.map f) (y.map f) := by
  cases h with
  | same => exact .same _
  | noTruthValue operation operation' t => exact .noTruthValue operation operation' t

@[simp]
theorem map_not_not (x : Outcome Bool) : (x.map not).map not = x := by
  cases x with
  | error e => rfl
  | ok b => exact congrArg Except.ok (Bool.not_not b)

/-! ## Two operands -/

/-- Reads the second truth value only if the first one does not settle the answer. -/
def settle (settling : Bool) (x y : Outcome Bool) : Outcome Bool := do
  let b ← x
  if b = settling then .ok b else y

/-- The other truth value settles negated operands. -/
theorem settle_not (settling : Bool) (x y : Outcome Bool) :
    (settle settling x y).map not = settle (!settling) (x.map not) (y.map not) := by
  cases x with
  | error e => rfl
  | ok b => cases b <;> cases settling <;> rfl

theorem Alike.settle {settling : Bool} {x y x' y' : Outcome Bool} (hx : Alike x x')
    (hy : Alike y y') : Alike (settle settling x y) (settle settling x' y') := by
  refine hx.seq fun b => ?_
  split
  · exact .same _
  · exact hy

end Outcome

open Outcome

/-! ## The elements of a sequence -/

/-- The quantifier that negation turns a quantifier into. -/
def Quantifier.dual : Quantifier → Quantifier
  | .all => .any
  | .any => .all

/-- The connective that a quantifier repeats. -/
def Quantifier.connective : Quantifier → BinaryOp
  | .all => .and
  | .any => .or

/-- The truth value that settles a quantifier also settles the negation of its dual. -/
theorem Quantifier.settling_dual (kind : Quantifier) : (kind.dual == .any) = !(kind == .any) := by
  cases kind <;> rfl

/-- What one element does: a true one settles `Any` and a false one `All`, else the rest decides. -/
theorem quantify_cons (kind : Quantifier) (test : Value → Outcome Bool) (v : Value)
    (rest : List Value) :
    quantify kind test (v :: rest) = settle (kind == .any) (test v) (quantify kind test rest) := by
  rw [quantify]
  cases test v with
  | error e => rfl
  | ok b => cases b <;> cases kind <;> rfl

/-- A negated quantifier is the dual one with a negated test. -/
theorem quantify_not (kind : Quantifier) (test : Value → Outcome Bool) (items : List Value) :
    (quantify kind test items).map not = quantify kind.dual (fun v => (test v).map not) items := by
  induction items with
  | nil => cases kind <;> rfl
  | cons v rest ih =>
      rw [quantify_cons, quantify_cons, settle_not, ih, kind.settling_dual]

theorem quantify_alike (kind : Quantifier) {test test' : Value → Outcome Bool}
    (h : ∀ v, Alike (test v) (test' v)) (items : List Value) :
    Alike (quantify kind test items) (quantify kind test' items) := by
  induction items with
  | nil => exact .same _
  | cons v rest ih =>
    rw [quantify_cons, quantify_cons]
    exact (h v).settle ih

/-! ## Trees -/

namespace Bound

variable {a : Activation}

/-- The truth value of an operand of `operation`. -/
def truth (a : Activation) (operation : String) (b : Bound) : Outcome Bool := do
  (← b.eval a).asBool operation

/-- Which operation asks for a truth value shows in the error only. -/
theorem truth_alike (operation operation' : String) (b : Bound) :
    Alike (b.truth a operation) (b.truth a operation') := by
  refine (Alike.same (b.eval a)).seq fun v => ?_
  cases v with
  | bool b => exact .same _
  | _ => exact .noTruthValue operation operation' _

/-- A tree that gives truth values is one to every operation. -/
theorem truth_of_eval {operation : String} {b : Bound} {x : Outcome Bool}
    (h : b.eval a = x.map .bool) : b.truth a operation = x := by
  rw [truth, h]
  cases x <;> rfl

theorem eval_not (b : Bound) :
    Bound.eval a (.unary .not b) = ((b.truth a "!").map not).map .bool := by
  have heval : Bound.eval a (.unary .not b) = (do
      let x ← b.truth a "!"
      .ok (.bool !x)) := by
    simp only [eval, truth, bind_assoc]
  rw [heval]
  cases b.truth a "!" <;> rfl

theorem eval_connective (kind : Quantifier) (l r : Bound) :
    Bound.eval a (.binary kind.connective l r) =
      (settle (kind == .any) (l.truth a kind.connective.symbol)
        (r.truth a kind.connective.symbol)).map Value.bool := by
  cases kind with
  | all =>
    have heval : Bound.eval a (.binary .and l r) = (do
        if ← l.truth a "&&" then
          let y ← r.truth a "&&"
          .ok (.bool y)
        else .ok (.bool false)) := by
      simp only [eval, truth, bind_assoc]
    have hsettle (x y : Outcome Bool) : (do
        if ← x then
          let b ← y
          .ok (.bool b)
        else .ok (.bool false)) = (settle false x y).map Value.bool := by
      rcases x with e | b
      · rfl
      · cases b <;> cases y <;> rfl
    exact heval.trans (hsettle _ _)
  | any =>
    have heval : Bound.eval a (.binary .or l r) = (do
        if ← l.truth a "||" then .ok (.bool true)
        else
          let y ← r.truth a "||"
          .ok (.bool y)) := by
      simp only [eval, truth, bind_assoc]
    have hsettle (x y : Outcome Bool) : (do
        if ← x then .ok (.bool true)
        else
          let b ← y
          .ok (.bool b)) = (settle true x y).map Value.bool := by
      rcases x with e | b
      · rfl
      · cases b <;> cases y <;> rfl
    exact heval.trans (hsettle _ _)

/-- Whether the elements of `receiver` make a quantifier true. -/
def holds (a : Activation) (kind : Quantifier) (receiver : Bound) (slot : Nat) (body : Bound) :
    Outcome Bool := do
  let items ← Catalog.elements (← receiver.eval a)
  quantify kind (fun v => body.truth (a.bindSlot slot v) kind.name) items

theorem eval_quantifier (kind : Quantifier) (receiver : Bound) (slot : Nat) (body : Bound) :
    Bound.eval a (.quantifier kind receiver slot body) =
      (holds a kind receiver slot body).map .bool := by
  have heval : Bound.eval a (.quantifier kind receiver slot body) = (do
      let b ← holds a kind receiver slot body
      .ok (.bool b)) := by
    simp only [eval, holds, truth, bind_assoc]
  rw [heval]
  cases holds a kind receiver slot body <;> rfl

theorem truth_not (operation : String) (b : Bound) :
    truth a operation (.unary .not b) = (b.truth a "!").map not :=
  truth_of_eval (eval_not b)

/-! ## Duality -/

/-- A negated connective reads the operands that the dual one reads negated. -/
theorem not_connective_alike (kind : Quantifier) (l r : Bound) :
    Alike (Bound.eval a (.unary .not (.binary kind.connective l r)))
      (Bound.eval a (.binary kind.dual.connective (.unary .not l) (.unary .not r))) := by
  rw [eval_not, truth_of_eval (eval_connective kind l r), settle_not, eval_connective,
    kind.settling_dual, truth_not, truth_not]
  have hleft := (truth_alike (a := a) kind.connective.symbol "!" l).map not
  have hright := (truth_alike (a := a) kind.connective.symbol "!" r).map not
  exact (hleft.settle hright).map Value.bool

/-- The negation of the dual quantifier with a negated body tests with the body itself. -/
theorem holds_dual_not (kind : Quantifier) (receiver : Bound) (slot : Nat) (body : Bound) :
    (holds a kind.dual receiver slot (.unary .not body)).map not = (do
      let items ← Catalog.elements (← receiver.eval a)
      quantify kind (fun v => body.truth (a.bindSlot slot v) "!") items) := by
  have hdual : kind.dual.dual = kind := by cases kind <;> rfl
  rw [holds]
  cases receiver.eval a with
  | error e => rfl
  | ok v =>
    simp only [except_ok_seq]
    cases Catalog.elements v with
    | error e => rfl
    | ok items =>
      simp only [except_ok_seq, quantify_not, hdual, truth_not, map_not_not]

theorem quantifier_alike (kind : Quantifier) (receiver : Bound) (slot : Nat) (body : Bound) :
    Alike (Bound.eval a (.quantifier kind receiver slot body))
      (Bound.eval a (.unary .not (.quantifier kind.dual receiver slot (.unary .not body)))) := by
  rw [eval_not, truth_of_eval (eval_quantifier kind.dual receiver slot _), holds_dual_not,
    eval_quantifier]
  refine Alike.map ?_ Value.bool
  refine (Alike.same (receiver.eval a)).seq fun v => ?_
  refine (Alike.same (Catalog.elements v)).seq fun items => ?_
  exact quantify_alike kind (fun v => truth_alike kind.name "!" body) items

/-- Over no elements a quantifier has its own truth value, whatever its body is. -/
theorem eval_quantifier_empty {receiver : Bound} {v : Value} (hreceiver : receiver.eval a = .ok v)
    (hempty : Catalog.elements v = .ok []) (kind : Quantifier) (slot : Nat) (body : Bound) :
    Bound.eval a (.quantifier kind receiver slot body) = .ok (.bool (kind == .all)) := by
  rw [eval_quantifier, holds, hreceiver, except_ok_seq, hempty]
  rfl

end Bound

/-- Under every activation `All` is the negation of `Any` with a negated body, `!(a && b)` is
`!a || !b`, and `!(a || b)` is `!a && !b`: the two sides give the same value or meet the same error.
Over an empty sequence `All` is true and `Any` false with whatever body, even one that fails. -/
theorem quantifiers_and_connectives_dual (a : Activation) :
    (∀ (s p : Bound) (slot : Nat),
      Alike (Bound.eval a (.quantifier .all s slot p))
        (Bound.eval a (.unary .not (.quantifier .any s slot (.unary .not p))))) ∧
    (∀ l r : Bound,
      Alike (Bound.eval a (.unary .not (.binary .and l r)))
        (Bound.eval a (.binary .or (.unary .not l) (.unary .not r))) ∧
      Alike (Bound.eval a (.unary .not (.binary .or l r)))
        (Bound.eval a (.binary .and (.unary .not l) (.unary .not r)))) ∧
    ∀ (s : Bound) (v : Value), s.eval a = .ok v → Catalog.elements v = .ok [] →
      ∀ (slot : Nat) (p : Bound),
        Bound.eval a (.quantifier .all s slot p) = .ok (.bool true) ∧
        Bound.eval a (.quantifier .any s slot p) = .ok (.bool false) := by
  refine ⟨fun s p slot => Bound.quantifier_alike .all s slot p,
    fun l r => ⟨Bound.not_connective_alike .all l r, Bound.not_connective_alike .any l r⟩,
    fun s v hs hv slot p => ⟨?_, ?_⟩⟩
  · exact Bound.eval_quantifier_empty hs hv .all slot p
  · exact Bound.eval_quantifier_empty hs hv .any slot p

/-- Over no elements a missing field in the body does no harm. -/
theorem quantifiers_and_connectives_dual_empty :
    let a : Activation := .ofBags (.empty .standard)
    let s : Bound := .array []
    let p : Bound := .field "item" "Missing"
    s.eval a = .ok (.list []) ∧ Catalog.elements (.list []) = .ok [] ∧
      p.eval a = .error (.propertyNotFound "item" "Missing") ∧
      Bound.eval a (.quantifier .all s 0 p) = .ok (.bool true) ∧
      Bound.eval a (.quantifier .any s 0 p) = .ok (.bool false) := by
  intro a s p
  obtain ⟨-, -, hempty⟩ := quantifiers_and_connectives_dual a
  have hs : s.eval a = .ok (.list []) := rfl
  have hv : Catalog.elements (.list []) = .ok [] := rfl
  exact ⟨hs, hv, rfl, hempty s (.list []) hs hv 0 p⟩

end GatedPredicate
