import GatedPredicate.Proofs.Failures
import GatedPredicate.Proofs.Typing.Exact
import GatedPredicate.Proofs.Typing.TruthValues
import GatedPredicate.Proofs.Value.Order

/-!
# What the typing of operators rejects

Operators have two tables of rules, one for static types and one for values. They say the same. On
the types of two values an infix operator is rejected precisely if it fails on the values with a
mismatch of types, and a result has the type that the static table gives, if it gives one. Where a
type is not known, a rejection speaks for all values: whatever they are, there is a mismatch.

- `ValueType.Describes`: a static type and the values that it may stand for
- `Outcome.Mismatched`, `Rejected`
- `promote?_isSome`, `isOrderedWith_eq`: which values meet, read off their types
- `applyBinary_mismatched`, `indexInto_mismatched`
- `operator_typing_agrees`
-/

namespace GatedPredicate

open GatedPredicate.Syntax GatedPredicate.ValueType

/-! ## Rejections and mismatches -/

/-- `t.Describes v`: the type `t` is that of the value, or it leaves the value open. -/
def ValueType.Describes (t : ValueType) (v : Value) : Prop :=
  t = .dynamic ∨ v.type = t

/-- The typing of an operation rules it out. -/
def Rejected (typing : Except BindError ValueType) : Prop :=
  ∃ e, typing = .error e

/-- A computation that fails because of the types of its operands. -/
def Outcome.Mismatched {α : Type} (x : Outcome α) : Prop :=
  ∃ operation mismatch, x = .error (.typeMismatch operation mismatch)

section

variable {s t : ValueType} {v x y : Value} {op : BinaryOp}

@[simp]
theorem ValueType.describes_type : v.type.Describes v := .inr rfl

/-- A type that describes a number may be that of a number. -/
theorem ValueType.Describes.maybeNumeric (h : t.Describes v) (hv : v.type.isNumeric = true) :
    t.maybeNumeric = true := by
  rcases h with rfl | rfl
  · rfl
  · simp [ValueType.maybeNumeric, hv]

@[simp]
theorem not_rejected_ok : ¬ Rejected (.ok t) := nofun

@[simp]
theorem rejected_error {e : BindError} : Rejected (.error e) := ⟨e, rfl⟩

@[simp]
theorem rejected_ite {c : Prop} [Decidable c] {e : BindError} :
    Rejected (if c then .ok t else .error e) ↔ ¬ c := by
  split <;> simp [*]

@[simp]
theorem Outcome.not_mismatched_ok {α : Type} {a : α} : ¬ Outcome.Mismatched (.ok a) := nofun

/-- A mismatch is passed on by what would come after it. -/
theorem Outcome.Mismatched.bind {α β : Type} {x : Outcome α} (h : x.Mismatched)
    (f : α → Outcome β) : Outcome.Mismatched (x.bind f) := by
  obtain ⟨operation, mismatch, rfl⟩ := h
  exact ⟨operation, mismatch, rfl⟩

/-! ## Which values meet -/

/-- Two values are brought to a common kind if and only if both are numbers. -/
theorem promote?_isSome (x y : Value) :
    (promote? x y).isSome = (x.type.isNumeric && y.type.isNumeric) := by
  cases x <;> cases y <;> rfl

/-- Two types have a common one if and only if both may be types of numbers. -/
theorem ValueType.promote_isSome (a b : ValueType) :
    (a.promote b).isSome = (a.maybeNumeric && b.maybeNumeric) := by
  cases a <;> cases b <;> rfl

/-- Whether two values have an order is written in their types. -/
theorem isOrderedWith_eq (x y : Value) : x.isOrderedWith y = x.type.areOrdered y.type := by
  cases x <;> cases y <;> rfl

/-- What has an order keeps it when less is known of it. -/
theorem ValueType.areOrdered_of_describes (hs : s.Describes x) (ht : t.Describes y)
    (h : x.type.areOrdered y.type = true) : s.areOrdered t = true := by
  rcases hs with rfl | rfl
  · rfl
  rcases ht with rfl | rfl
  · simp [ValueType.areOrdered]
  · exact h

/-! ## Operators on values -/

/-- A relational operator fails on values without an order, and only on them. -/
theorem applyRelational_mismatched :
    (applyRelational op x y).Mismatched ↔ x.isOrderedWith y = false := by
  constructor
  · intro h
    by_contra hordered
    rw [Bool.not_eq_false] at hordered
    unfold applyRelational at h
    rw [if_pos hordered] at h
    split at h <;> exact Outcome.not_mismatched_ok h
  · intro h
    unfold applyRelational
    rw [Value.compare_eq_none_of_unordered h, h]
    exact ⟨_, _, rfl⟩

/-- An arithmetic operator fails with a mismatch if one of the values is no number. For two numbers
there may be no result, which is another matter. -/
theorem applyArithmetic_mismatched (hop : IsArithmetic op) :
    (applyArithmetic op x y).Mismatched ↔ (x.type.isNumeric && y.type.isNumeric) = false := by
  rw [← promote?_isSome]
  unfold applyArithmetic arithmetic?
  cases promote? x y with
  | none => exact ⟨fun _ => rfl, fun _ => ⟨_, _, rfl⟩⟩
  | some p =>
    refine ⟨fun h => ?_, nofun⟩
    obtain ⟨operation, mismatch, h⟩ := h
    exact (NumericPair.apply_faults hop p _ h).elim

/-- A text can be joined with everything, so only the addition of other values can fail. -/
theorem applyAdd_mismatched :
    (applyAdd x y).Mismatched ↔
      x.type ≠ .string ∧ y.type ≠ .string ∧ (x.type.isNumeric && y.type.isNumeric) = false := by
  unfold applyAdd
  split
  · simp [Value.type]
  · simp [Value.type]
  · rename_i hx hy
    have hxs : x.type ≠ .string := by
      cases x <;> first | exact absurd rfl (hx _) | simp [Value.type]
    have hys : y.type ≠ .string := by
      cases y <;> first | exact absurd rfl (hy _) | simp [Value.type]
    rw [applyArithmetic_mismatched (.inl rfl)]
    exact ⟨fun h => ⟨hxs, hys, h⟩, fun h => h.2.2⟩

/-! ## Operators on types -/

/-- The static table rejects a relational operator on types without an order. -/
theorem binaryType_relational (hop : op = .lt ∨ op = .le ∨ op = .gt ∨ op = .ge) :
    Rejected (binaryType op s t) ↔ s.areOrdered t = false := by
  rcases hop with rfl | rfl | rfl | rfl <;> simp [binaryType]

/-- The static table rejects an arithmetic operator on types that are not both of numbers. -/
theorem binaryType_arithmetic (hop : op = .sub ∨ op = .mul ∨ op = .div ∨ op = .mod) :
    Rejected (binaryType op s t) ↔ (s.maybeNumeric && t.maybeNumeric) = false := by
  rw [← ValueType.promote_isSome]
  rcases hop with rfl | rfl | rfl | rfl <;>
  · simp only [binaryType, arithmeticType, reduceCtorEq, false_and, if_false]
    cases s.promote t <;> simp

/-- The static table rejects an addition of known types that are neither texts nor numbers. -/
theorem binaryType_add :
    Rejected (binaryType .add s t) ↔
      s ≠ .string ∧ t ≠ .string ∧ s ≠ .dynamic ∧ t ≠ .dynamic ∧
        (s.maybeNumeric && t.maybeNumeric) = false := by
  rw [← ValueType.promote_isSome]
  simp only [binaryType, arithmeticType, true_and]
  by_cases hstring : s = .string ∨ t = .string
  · rw [if_pos hstring]
    simp only [not_rejected_ok, false_iff]
    tauto
  rw [if_neg hstring]
  rw [not_or] at hstring
  by_cases hdynamic : s = .dynamic ∨ t = .dynamic
  · rw [if_pos hdynamic]
    simp only [not_rejected_ok, false_iff]
    tauto
  · rw [if_neg hdynamic]
    rw [not_or] at hdynamic
    cases s.promote t <;> simp [hstring, hdynamic]

/-! ## The two tables -/

/-- The type of a value may be that of a number only if it is. -/
@[simp]
theorem maybeNumeric_type (v : Value) : v.type.maybeNumeric = v.type.isNumeric := by
  simp [ValueType.maybeNumeric, Value.type_ne_dynamic]

/-- On the types of two values the static table rejects what fails on the values. -/
theorem applyBinary_mismatched (hand : op ≠ .and) (hor : op ≠ .or) :
    Rejected (binaryType op x.type y.type) ↔ (applyBinary op x y).Mismatched := by
  cases op with
  | and => exact absurd rfl hand
  | or => exact absurd rfl hor
  -- everything can be asked to be equal to everything
  | eq | ne => simp [binaryType, applyBinary]
  | lt | le | gt | ge =>
    rw [binaryType_relational (by simp), ← isOrderedWith_eq]
    exact applyRelational_mismatched.symm
  | sub | mul | div | mod =>
    rw [binaryType_arithmetic (by simp), maybeNumeric_type, maybeNumeric_type]
    exact (applyArithmetic_mismatched (by simp [IsArithmetic])).symm
  | add =>
    rw [binaryType_add, maybeNumeric_type, maybeNumeric_type]
    refine Iff.trans ?_ applyAdd_mismatched.symm
    simp [Value.type_ne_dynamic]

/-- What is rejected where less is known is rejected on the types of all values in question. -/
theorem rejected_of_describes (hand : op ≠ .and) (hor : op ≠ .or) (hs : s.Describes x)
    (ht : t.Describes y) (h : Rejected (binaryType op s t)) :
    Rejected (binaryType op x.type y.type) := by
  have hunordered (h : s.areOrdered t = false) : x.type.areOrdered y.type = false := by
    by_contra hordered
    rw [Bool.not_eq_false] at hordered
    rw [areOrdered_of_describes hs ht hordered] at h
    cases h
  have hnumbers (h : (s.maybeNumeric && t.maybeNumeric) = false) :
      (x.type.maybeNumeric && y.type.maybeNumeric) = false := by
    by_contra hnumeric
    rw [Bool.not_eq_false, Bool.and_eq_true, maybeNumeric_type, maybeNumeric_type] at hnumeric
    rw [hs.maybeNumeric hnumeric.1, ht.maybeNumeric hnumeric.2] at h
    cases h
  cases op with
  | and => exact absurd rfl hand
  | or => exact absurd rfl hor
  | eq | ne => exact absurd h not_rejected_ok
  | lt | le | gt | ge =>
    rw [binaryType_relational (by simp)] at h ⊢
    exact hunordered h
  | sub | mul | div | mod =>
    rw [binaryType_arithmetic (by simp)] at h ⊢
    exact hnumbers h
  | add =>
    -- an unknown operand might be a text, so both types are known here
    rw [binaryType_add] at h
    obtain ⟨-, -, hsknown, htknown, -⟩ := id h
    obtain rfl := hs.resolve_left hsknown
    obtain rfl := ht.resolve_left htknown
    exact binaryType_add.2 h

/-! ## Indexing -/

/-- An index that is no integer is refused. -/
theorem indexNumber_mismatched (h : y.type.isIndex = false) : (indexNumber y).Mismatched := by
  cases y <;> first | exact ⟨_, _, rfl⟩ | cases h

theorem indexNumber_eq_ok (h : y.type.isIndex = true) : ∃ n, indexNumber y = .ok n := by
  cases y <;> first | exact ⟨_, rfl⟩ | cases h

/-- What has no elements is refused. -/
theorem indexable_mismatched (hlist : x.type ≠ .list) (hstring : x.type ≠ .string)
    (hjson : x.type ≠ .json) : (indexable x).Mismatched := by
  cases x <;> first | exact ⟨_, _, rfl⟩ | exact absurd rfl hlist | exact absurd rfl hstring |
    exact absurd rfl hjson

/-- A position that is not a key is looked at before the target is. -/
theorem indexInto_eq (h : x.type ≠ .json ∨ y.type ≠ .string) :
    indexInto x y =
      (indexNumber y).bind fun n => (indexable x).bind fun items => elementAt items n := by
  cases x <;> cases y <;> first | rfl | simp [Value.type] at h

/-- The static table rejects positions that neither count nor name elements, and targets that have
none. -/
theorem indexType_rejected (h : Rejected (indexType s t)) :
    (t.isIndex = false ∧ (s = .json ∨ s = .dynamic → t ≠ .string)) ∨
      (s ≠ .dynamic ∧ s ≠ .list ∧ s ≠ .string ∧ s ≠ .json) := by
  cases s with
  | list | string =>
    simp only [indexType, rejected_ite, Bool.not_eq_true] at h
    exact .inl ⟨h, by simp⟩
  | json | dynamic =>
    simp only [indexType, rejected_ite, Bool.or_eq_true, beq_iff_eq, not_or, Bool.not_eq_true] at h
    exact .inl ⟨h.1, fun _ => h.2⟩
  | _ => exact .inr (by simp)

/-- Whatever the values are, an index that the static table rejects is a mismatch. -/
theorem indexInto_mismatched (hs : s.Describes x) (ht : t.Describes y)
    (h : Rejected (indexType s t)) : (indexInto x y).Mismatched := by
  rcases indexType_rejected h with ⟨hposition, hkey⟩ | ⟨hknown, hlist, hstring, hjson⟩
  · -- the position is known not to be an index, and it is no key of a document either
    have hknown : t ≠ .dynamic := by
      rintro rfl
      cases hposition
    obtain rfl := ht.resolve_left hknown
    have hcounts : x.type ≠ .json ∨ y.type ≠ .string := by
      by_cases hx : x.type = .json
      · rcases hs with rfl | rfl
        · exact .inr (hkey (.inr rfl))
        · exact .inr (hkey (.inl hx))
      · exact .inl hx
    rw [indexInto_eq hcounts]
    exact (indexNumber_mismatched hposition).bind _
  · -- the target is known to have no elements
    obtain rfl := hs.resolve_left hknown
    rw [indexInto_eq (.inl hjson)]
    cases hy : y.type.isIndex with
    | false => exact (indexNumber_mismatched hy).bind _
    | true =>
      obtain ⟨n, hn⟩ := indexNumber_eq_ok hy
      rw [hn]
      exact (indexable_mismatched hlist hstring hjson).bind _

end

/-! ## Agreement -/

/-- The typing of operators agrees with their evaluation. On the types of two values an infix
operator is rejected if and only if it fails on the values with a mismatch of types; a type that the
static table gives, other than the open one, is the type of the result. What is rejected when the
type of an operand is not known fails with a mismatch whatever that operand is, and so does every
index that is rejected. -/
theorem operator_typing_agrees (op : BinaryOp) (hand : op ≠ .and) (hor : op ≠ .or) (x y : Value) :
    (Rejected (binaryType op x.type y.type) ↔ (applyBinary op x y).Mismatched) ∧
      (∀ t v, binaryType op x.type y.type = .ok t → t ≠ .dynamic → applyBinary op x y = .ok v →
        v.type = t) ∧
      (∀ s t : ValueType, s.Describes x → t.Describes y → Rejected (binaryType op s t) →
        (applyBinary op x y).Mismatched) ∧
      ∀ s t : ValueType, s.Describes x → t.Describes y → Rejected (indexType s t) →
        (indexInto x y).Mismatched := by
  refine ⟨applyBinary_mismatched hand hor, fun t v htype hknown hv => ?_,
    fun s t hs ht h => ?_, fun s t hs ht h => indexInto_mismatched hs ht h⟩
  · rcases applyBinary_exact hand hor htype exact_type exact_type hv with hopen | hnull | hresult
    · exact absurd hopen hknown
    · -- operators never give null
      obtain rfl : v = .null := by
        cases v <;> first | rfl | cases hnull
      exact absurd hv (applyBinary_notNull op x y)
    · exact hresult
  · exact (applyBinary_mismatched hand hor).1 (rejected_of_describes hand hor hs ht h)

/-- A text is not taken away from a number, not even from one that is not known; nor does it count
the elements of an array. -/
theorem operator_typing_agrees_text :
    let x : Value := .list [.int 1]
    let y : Value := .string "a"
    Rejected (binaryType .sub .dynamic .string) ∧ (applyBinary .sub x y).Mismatched ∧
      Rejected (indexType .list .string) ∧ (indexInto x y).Mismatched ∧
      binaryType .add x.type y.type = .ok .string ∧
        ∀ v, applyBinary .add x y = .ok v → v.type = .string := by
  intro x y
  obtain ⟨-, -, hsub, hindex⟩ := operator_typing_agrees .sub (by decide) (by decide) x y
  obtain ⟨-, hadd, -, -⟩ := operator_typing_agrees .add (by decide) (by decide) x y
  have hrejected : Rejected (binaryType .sub .dynamic .string) := ⟨_, rfl⟩
  have hunindexed : Rejected (indexType .list .string) := ⟨_, rfl⟩
  exact ⟨hrejected, hsub _ _ (.inl rfl) (.inr rfl) hrejected, hunindexed,
    hindex _ _ (.inr rfl) (.inr rfl) hunindexed, rfl, fun v => hadd .string v rfl (by decide)⟩

end GatedPredicate
