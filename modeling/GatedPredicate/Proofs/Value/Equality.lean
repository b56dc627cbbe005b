import GatedPredicate.Proofs.Typing.Rejections
import GatedPredicate.Proofs.Value.Order

/-!
# Equality of values

The operator `==` is an equivalence as far as numbers allow. It is symmetric on all values; a value
is equal to itself unless it holds a double that is not a number; and it is transitive where no
doubles take part, which as the widest kind would identify different integers. Values of different
kinds are equal only as numbers, and lists are equal position by position. JSON documents compare as
trees, whose numbers are finite, so among themselves they need no exception.

- `isEqv_iff`, `isEqv_comm`, `isEqv_self`, `isEqv_trans`: lists compared position by position
- `Json.same_comm`, `Json.same_self`, `Json.same_trans`: equality of documents
- `Value.Within`: the values in a value and in the lists that it holds
- `Value.equals_comm`, `Value.equals_self`, `Value.equals_trans`
- `equality_equivalence`
-/

namespace GatedPredicate

open GatedPredicate.Number

/-! ## Lists compared position by position -/

section Positions

variable {α : Type} {r : α → α → Bool} {xs ys zs : List α}

theorem isEqv_iff :
    xs.isEqv ys r = true ↔ xs.length = ys.length ∧
      ∀ (i : Nat) (hx : i < xs.length) (hy : i < ys.length), r xs[i] ys[i] = true := by
  rw [List.isEqv_eq_decide]
  by_cases hlength : xs.length = ys.length
  · simp [hlength]
  · simp [hlength]

theorem isEqv_comm (h : ∀ x ∈ xs, ∀ y, r x y = r y x) : xs.isEqv ys r = ys.isEqv xs r := by
  rw [Bool.eq_iff_iff, isEqv_iff, isEqv_iff]
  constructor
  · rintro ⟨hlength, hall⟩
    refine ⟨hlength.symm, fun i hy hx => ?_⟩
    rw [← h _ (List.getElem_mem hx)]
    exact hall i hx hy
  · rintro ⟨hlength, hall⟩
    refine ⟨hlength.symm, fun i hx hy => ?_⟩
    rw [h _ (List.getElem_mem hx)]
    exact hall i hy hx

theorem isEqv_self : xs.isEqv xs r = true ↔ ∀ x ∈ xs, r x x = true := by
  rw [isEqv_iff, List.forall_mem_iff_forall_getElem]
  exact ⟨fun h i hi => h.2 i hi hi, fun h => ⟨rfl, fun i hi _ => h i hi⟩⟩

theorem isEqv_trans
    (h : ∀ x ∈ xs, ∀ y ∈ ys, ∀ z ∈ zs, r x y = true → r y z = true → r x z = true)
    (hxy : xs.isEqv ys r = true) (hyz : ys.isEqv zs r = true) : xs.isEqv zs r = true := by
  rw [isEqv_iff] at hxy hyz ⊢
  obtain ⟨hlength, hall⟩ := hxy
  obtain ⟨hlength', hall'⟩ := hyz
  refine ⟨hlength.trans hlength', fun i hx hz => ?_⟩
  have hy : i < ys.length := hlength ▸ hx
  exact h _ (List.getElem_mem hx) _ (List.getElem_mem hy) _ (List.getElem_mem hz)
    (hall i hx hy) (hall' i hy hz)

end Positions

/-! ## Documents -/

namespace Json

theorem sameAll_eq (xs ys : List Json) : sameAll xs ys = xs.isEqv ys same := by
  induction xs generalizing ys with
  | nil => cases ys <;> rfl
  | cons x xs ih =>
    cases ys with
    | nil => rfl
    | cons y ys => rw [sameAll, List.isEqv_cons_cons, ih]

/-- Equality of two fields: of their names and of their values. -/
def sameField (f g : String × Json) : Bool :=
  f.1 == g.1 && f.2.same g.2

theorem sameFields_eq (xs ys : List (String × Json)) :
    sameFields xs ys = xs.isEqv ys sameField := by
  induction xs generalizing ys with
  | nil => cases ys <;> rfl
  | cons x xs ih =>
    cases ys with
    | nil => rfl
    | cons y ys => rw [sameFields, List.isEqv_cons_cons, ih, sameField]

/-- The trees that a tree is made of. -/
def children : Json → List Json
  | .array items => items
  | .object fields => fields.map Prod.snd
  | _ => []

theorem sizeOf_lt_of_mem_children {c j : Json} (h : c ∈ j.children) : sizeOf c < sizeOf j := by
  cases j with
  | array items =>
    have hlt : sizeOf c < sizeOf items := List.sizeOf_lt_of_mem h
    simp only [array.sizeOf_spec]
    omega
  | object fields =>
    obtain ⟨⟨name, value⟩, hmem, rfl⟩ := List.mem_map.1 h
    have hlt := List.sizeOf_lt_of_mem hmem
    simp only [object.sizeOf_spec, Prod.mk.sizeOf_spec] at hlt ⊢
    omega
  | _ => cases h

/-- What holds of a tree whenever it holds of the trees in it holds of every tree. -/
@[elab_as_elim]
theorem inductionOnChildren {motive : Json → Prop}
    (node : ∀ j : Json, (∀ c ∈ j.children, motive c) → motive j) (j : Json) : motive j :=
  node j fun c hc =>
    have := sizeOf_lt_of_mem_children hc
    c.inductionOnChildren node
termination_by sizeOf j

theorem snd_mem_children {fields : List (String × Json)} {f : String × Json} (h : f ∈ fields) :
    f.2 ∈ (object fields).children :=
  List.mem_map_of_mem h

theorem Number.same_comm (m n : Number) : m.same n = n.same m := by
  cases m <;> cases n <;> first | rfl | exact Bool.beq_comm | exact BEq.comm

theorem Number.same_self (n : Number) : n.same n = true := by
  cases n with
  | natural n => simp [same]
  | negative n => simp [same]
  | double x hx => exact beq_double_self.2 (isNaN_of_isFinite hx)

theorem Number.same_trans {l m n : Number} (h : l.same m = true) (h' : m.same n = true) :
    l.same n = true := by
  cases l <;> cases m <;> first | exact absurd h Bool.false_ne_true | skip
  all_goals cases n <;> first | exact absurd h' Bool.false_ne_true | exact BEq.trans h h'

theorem same_comm (a b : Json) : a.same b = b.same a := by
  induction a using inductionOnChildren generalizing b with
  | node a ih =>
    cases a <;> cases b <;> first | rfl | skip
    case bool x y => exact Bool.beq_comm
    case number m n => exact m.same_comm n
    case string s t => exact Bool.beq_comm
    case array xs ys =>
      rw [same, same, sameAll_eq, sameAll_eq]
      exact isEqv_comm ih
    case object xs ys =>
      rw [same, same, sameFields_eq, sameFields_eq]
      refine isEqv_comm fun f hf g => ?_
      rw [sameField, sameField, Bool.beq_comm, ih _ (snd_mem_children hf)]

theorem same_self (a : Json) : a.same a = true := by
  induction a using inductionOnChildren with
  | node a ih =>
    cases a with
    | null => rfl
    | bool x => simp [same]
    | number n => exact n.same_self
    | string s => simp [same]
    | array xs =>
      rw [same, sameAll_eq]
      exact isEqv_self.2 ih
    | object xs =>
      rw [same, sameFields_eq, isEqv_self]
      intro f hf
      simp [sameField, ih _ (snd_mem_children hf)]

theorem same_trans {a b c : Json} (h : a.same b = true) (h' : b.same c = true) :
    a.same c = true := by
  induction a using inductionOnChildren generalizing b c with
  | node a ih =>
    cases a <;> cases b <;> first | exact absurd h Bool.false_ne_true | skip
    all_goals cases c <;> first | exact absurd h' Bool.false_ne_true | skip
    case null => rfl
    case bool x y z => exact BEq.trans h h'
    case number l m n => exact Number.same_trans h h'
    case string s t u => exact BEq.trans h h'
    case array xs ys zs =>
      rw [same, sameAll_eq] at h h' ⊢
      exact isEqv_trans (fun x hx y _ z _ => ih x hx) h h'
    case object xs ys zs =>
      rw [same, sameFields_eq] at h h' ⊢
      refine isEqv_trans (fun f hf g _ k _ hfg hgk => ?_) h h'
      rw [sameField, Bool.and_eq_true] at hfg hgk ⊢
      exact ⟨BEq.trans hfg.1 hgk.1, ih _ (snd_mem_children hf) hfg.2 hgk.2⟩

end Json

/-! ## Values in lists -/

namespace Value

/-- The items of a list. No other value has any. -/
def items : Value → List Value
  | .list xs => xs
  | _ => []

theorem sizeOf_lt_of_mem_items {c v : Value} (h : c ∈ v.items) : sizeOf c < sizeOf v := by
  cases v with
  | list xs =>
    have hlt : sizeOf c < sizeOf xs := List.sizeOf_lt_of_mem h
    simp only [list.sizeOf_spec]
    omega
  | _ => cases h

/-- What holds of a value whenever it holds of its items holds of every value. -/
@[elab_as_elim]
theorem inductionOnItems {motive : Value → Prop}
    (node : ∀ v : Value, (∀ c ∈ v.items, motive c) → motive v) (v : Value) : motive v :=
  node v fun c hc =>
    have := sizeOf_lt_of_mem_items hc
    c.inductionOnItems node
termination_by sizeOf v

/-- The value `v` is the other one or stands in it, inside lists of any depth. -/
inductive Within (v : Value) : Value → Prop
  | here : Within v v
  | item {x : Value} {xs : List Value} : x ∈ xs → Within v x → Within v (.list xs)

/-- There is a double in the value that is not a number. -/
def HoldsNaN (a : Value) : Prop :=
  ∃ x : Float, x.isNaN = true ∧ Within (.float x) a

/-- There is no double in the value, outside documents. -/
def DoubleFree (a : Value) : Prop :=
  ∀ x : Float, ¬ Within (.float x) a

variable {a b c v : Value} {xs ys : List Value}

theorem within_list : Within v (.list xs) ↔ v = .list xs ∨ ∃ x ∈ xs, Within v x := by
  constructor
  · rintro (_ | ⟨hmem, hwithin⟩)
    · exact .inl rfl
    · exact .inr ⟨_, hmem, hwithin⟩
  · rintro (rfl | ⟨x, hmem, hwithin⟩)
    · exact .here
    · exact .item hmem hwithin

theorem within_leaf (h : a.type ≠ .list) : Within v a ↔ v = a := by
  constructor
  · rintro (_ | ⟨hmem, hwithin⟩)
    · rfl
    · exact absurd rfl h
  · rintro rfl
    exact .here

theorem holdsNaN_list : HoldsNaN (.list xs) ↔ ∃ x ∈ xs, HoldsNaN x := by
  simp only [HoldsNaN, within_list, reduceCtorEq, false_or]
  constructor
  · rintro ⟨u, hu, x, hx, hwithin⟩
    exact ⟨x, hx, u, hu, hwithin⟩
  · rintro ⟨x, hx, u, hu, hwithin⟩
    exact ⟨u, hu, x, hx, hwithin⟩

theorem holdsNaN_leaf (h : a.type ≠ .list) : HoldsNaN a ↔ a.isNaN = true := by
  simp only [HoldsNaN, within_leaf h]
  cases a with
  | float x => simp only [float.injEq, isNaN, exists_eq_right]
  | _ => simp [isNaN]

theorem doubleFree_list : DoubleFree (.list xs) ↔ ∀ x ∈ xs, x.DoubleFree := by
  simp only [DoubleFree, within_list, reduceCtorEq, false_or, not_exists, not_and]
  exact ⟨fun h x hx u => h u x hx, fun h u x hx => h x hx u⟩

theorem doubleFree_leaf (h : a.type ≠ .list) : a.DoubleFree ↔ a.type ≠ .float := by
  simp only [DoubleFree, within_leaf h]
  cases a with
  | float x => simp [Value.type]
  | _ => simp [Value.type]

/-- Without doubles, a number stands for a rational number. -/
theorem DoubleFree.rational (h : a.DoubleFree) (hnumeric : a.type.isNumeric = true) :
    ∃ x, a.rational? = some x := by
  cases a with
  | int n => exact ⟨_, rfl⟩
  | uint n => exact ⟨_, rfl⟩
  | decimal d => exact ⟨_, rfl⟩
  | float u => exact absurd .here (h u)
  | _ => cases hnumeric

/-! ## Lists and other values -/

theorem exists_list (h : a.type = .list) : ∃ xs, a = .list xs := by
  cases a with
  | list xs => exact ⟨xs, rfl⟩
  | _ => cases h

theorem equalsAll_eq (xs ys : List Value) : equalsAll xs ys = xs.isEqv ys equals := by
  induction xs generalizing ys with
  | nil => cases ys <;> rfl
  | cons x xs ih =>
    cases ys with
    | nil => rfl
    | cons y ys => rw [equalsAll, List.isEqv_cons_cons, ih]

theorem equals_list (xs ys : List Value) :
    (Value.list xs).equals (.list ys) = xs.isEqv ys equals := by
  rw [equals, equalsAll_eq]

theorem equals_leaf (h : a.type ≠ .list ∨ b.type ≠ .list) : a.equals b = a.leafEquals b := by
  rw [equals]
  rintro xs ys rfl rfl
  simp [Value.type] at h

theorem promote?_eq_none (h : (a.type.isNumeric && b.type.isNumeric) = false) :
    promote? a b = none := by
  rw [← promote?_isSome] at h
  simpa using h

/-- Two values that are not both numbers are equal within one kind only. -/
theorem equals_of_not_numeric (h : (a.type.isNumeric && b.type.isNumeric) = false)
    (hlist : a.type ≠ .list ∨ b.type ≠ .list) : a.equals b = a.sameKindEquals b := by
  rw [equals_leaf hlist, leafEquals, promote?_eq_none h]

theorem type_of_sameKindEquals (h : a.sameKindEquals b = true) : a.type = b.type := by
  unfold sameKindEquals at h
  split at h <;> first | rfl | cases h

/-- Values of different kinds are not equal, unless they are numbers. -/
theorem equals_of_type_ne (hkind : a.type ≠ b.type)
    (h : (a.type.isNumeric && b.type.isNumeric) = false) : a.equals b = false := by
  have hlist : a.type ≠ .list ∨ b.type ≠ .list := by
    by_contra hboth
    rw [not_or, not_not, not_not] at hboth
    exact hkind (hboth.1.trans hboth.2.symm)
  rw [equals_of_not_numeric h hlist, ← Bool.not_eq_true]
  exact fun hequal => hkind (type_of_sameKindEquals hequal)

/-! ## Symmetry -/

theorem sameKindEquals_comm (a b : Value) : a.sameKindEquals b = b.sameKindEquals a := by
  cases a <;> cases b <;>
    first | rfl | exact Bool.beq_comm | exact Json.same_comm _ _

theorem leafEquals_comm (a b : Value) : a.leafEquals b = b.leafEquals a := by
  unfold leafEquals
  rw [promote?_swap a b]
  cases promote? a b with
  | none => exact sameKindEquals_comm a b
  | some p =>
    dsimp only [Option.map_some]
    rw [NumericPair.compare_swap]
    rcases p.compare with _ | _ | _ | _ <;> rfl

theorem equals_comm (a b : Value) : a.equals b = b.equals a := by
  induction a using inductionOnItems generalizing b with
  | node a ih =>
    by_cases hlists : a.type ≠ .list ∨ b.type ≠ .list
    · rw [equals_leaf hlists, equals_leaf hlists.symm, leafEquals_comm]
    · -- two lists
      rw [not_or, not_not, not_not] at hlists
      obtain ⟨xs, rfl⟩ := exists_list hlists.1
      obtain ⟨ys, rfl⟩ := exists_list hlists.2
      rw [equals_list, equals_list]
      exact isEqv_comm ih

/-! ## Reflexivity -/

theorem leafEquals_self (h : a.type ≠ .list) : a.leafEquals a = true ↔ a.isNaN = false := by
  rw [← equals_leaf (.inl h)]
  cases a with
  | float x =>
    rw [equals_of_promote (promote?_float_left x (.float x)), beq_iff_eq, isNaN, ← beq_double_self]
    exact compareDoubles_eq_eq
  | int n => simpa [isNaN] using (equals_rational rfl rfl).2 rfl
  | uint n => simpa [isNaN] using (equals_rational rfl rfl).2 rfl
  | decimal d => simpa [isNaN] using (equals_rational rfl rfl).2 rfl
  | list xs => exact absurd rfl h
  | json j =>
    rw [equals_of_not_numeric rfl (.inl h)]
    simp [isNaN, sameKindEquals, j.same_self]
  | _ =>
    rw [equals_of_not_numeric rfl (.inl h)]
    simp [isNaN, sameKindEquals]

/-- A value is equal to itself, unless it holds what is not a number. -/
theorem equals_self (a : Value) : a.equals a = true ↔ ¬ HoldsNaN a := by
  induction a using inductionOnItems with
  | node a ih =>
    by_cases hlist : a.type = .list
    · obtain ⟨xs, rfl⟩ := exists_list hlist
      rw [equals_list, isEqv_self, holdsNaN_list, not_exists]
      simp only [not_and]
      exact forall₂_congr ih
    · rw [equals_leaf (.inl hlist), leafEquals_self hlist, holdsNaN_leaf hlist, Bool.not_eq_true]

/-! ## Transitivity -/

theorem sameKindEquals_trans (h : a.sameKindEquals b = true) (h' : b.sameKindEquals c = true) :
    a.sameKindEquals c = true := by
  cases a <;> cases b <;> first | exact absurd h Bool.false_ne_true | skip
  all_goals cases c <;> first | exact absurd h' Bool.false_ne_true | skip
  all_goals first | rfl | exact BEq.trans h h' | exact Json.same_trans h h'

/-- Numbers that are equal stand for one rational number, if neither is a double. -/
theorem rational_of_equals {x : ℚ} (hb : b.DoubleFree) (hx : a.rational? = some x)
    (h : a.equals b = true) : b.rational? = some x := by
  cases hnumeric : b.type.isNumeric with
  | true =>
    obtain ⟨y, hy⟩ := hb.rational hnumeric
    rw [hy, (equals_rational hx hy).1 h]
  | false =>
    -- a number is not equal to what is none
    have ha : a.type.isNumeric = true := by
      cases a <;> first | rfl | cases hx
    have hkind : a.type ≠ b.type := fun htype => by rw [htype, hnumeric] at ha; cases ha
    rw [equals_of_type_ne hkind (by rw [hnumeric, Bool.and_false])] at h
    cases h

theorem equals_trans_leaf (ha : a.DoubleFree) (hb : b.DoubleFree) (hc : c.DoubleFree)
    (hlist : a.type ≠ .list) (h : a.equals b = true) (h' : b.equals c = true) :
    a.equals c = true := by
  cases hnumeric : a.type.isNumeric with
  | true =>
    -- all three stand for one rational number, whatever kinds each two of them meet in
    obtain ⟨x, hx⟩ := ha.rational hnumeric
    have hy := rational_of_equals hb hx h
    have hz := rational_of_equals hc hy h'
    exact (equals_rational hx hz).2 rfl
  | false =>
    -- all three are of one kind
    have hnumbers (d : Value) : (a.type.isNumeric && d.type.isNumeric) = false := by
      rw [hnumeric, Bool.false_and]
    rw [equals_of_not_numeric (hnumbers b) (.inl hlist)] at h
    have htype := type_of_sameKindEquals h
    rw [equals_of_not_numeric (htype ▸ hnumbers c) (.inl (htype ▸ hlist))] at h'
    rw [equals_of_not_numeric (hnumbers c) (.inl hlist)]
    exact sameKindEquals_trans h h'

/-- What is equal to a list is one. -/
theorem exists_list_of_equals (h : (Value.list xs).equals b = true) : ∃ ys, b = .list ys := by
  by_contra hlist
  have hkind : (Value.list xs).type ≠ b.type := fun htype => hlist (exists_list htype.symm)
  rw [equals_of_type_ne hkind rfl] at h
  cases h

/-- Equality passes through a third value where no doubles take part. -/
theorem equals_trans (ha : a.DoubleFree) (hb : b.DoubleFree) (hc : c.DoubleFree)
    (h : a.equals b = true) (h' : b.equals c = true) : a.equals c = true := by
  induction a using inductionOnItems generalizing b c with
  | node a ih =>
    by_cases hlist : a.type = .list
    · obtain ⟨xs, rfl⟩ := exists_list hlist
      obtain ⟨ys, rfl⟩ := exists_list_of_equals h
      obtain ⟨zs, rfl⟩ := exists_list_of_equals h'
      rw [equals_list] at h h' ⊢
      rw [doubleFree_list] at ha hb hc
      exact isEqv_trans (fun x hx y hy z hz => ih x hx (ha x hx) (hb y hy) (hc z hz)) h h'
    · exact equals_trans_leaf ha hb hc hlist h h'

/-! ## Equality as an equivalence -/

/-- The operator `==` is an equivalence as far as numbers allow. It is symmetric; a value is equal
to itself unless it holds a double that is not a number, at the top or in a list; and on values
without doubles outside documents it is transitive. Values of different kinds that are not both
numbers are not equal, and lists are equal if they have one length and equal items position by
position. -/
theorem equality_equivalence :
    (∀ a b : Value, a.equals b = b.equals a) ∧
    (∀ a : Value, a.equals a = true ↔ ¬ a.HoldsNaN) ∧
    (∀ a b c : Value, a.DoubleFree → b.DoubleFree → c.DoubleFree → a.equals b = true →
      b.equals c = true → a.equals c = true) ∧
    (∀ a b : Value, a.type ≠ b.type → (a.type.isNumeric && b.type.isNumeric) = false →
      a.equals b = false) ∧
    ∀ xs ys : List Value, (Value.list xs).equals (.list ys) = true ↔
      xs.length = ys.length ∧
        ∀ (i : Nat) (hx : i < xs.length) (hy : i < ys.length), xs[i].equals ys[i] = true := by
  refine ⟨equals_comm, equals_self, fun a b c ha hb hc => equals_trans ha hb hc,
    fun a b => equals_of_type_ne, fun xs ys => ?_⟩
  rw [equals_list]
  exact isEqv_iff

/-- One is one in a list of signed integers, of unsigned ones and of decimals; a character in a list
is no text; and a list with what is not a number in it is not equal to itself. -/
theorem equality_equivalence_nested :
    let ones : List Value := [.list [.int 1], .list [.uint 1], .list [.decimal Decimal.one]]
    (∀ a ∈ ones, ∀ b ∈ ones, a.equals b = true) ∧
      (Value.char 'a').equals (.string "a") = false ∧
      (Value.list [.float notANumber]).equals (.list [.float notANumber]) ≠ true := by
  intro ones
  obtain ⟨hcomm, hself, htrans, hkinds, -⟩ := equality_equivalence
  have hfree : ∀ a ∈ ones, a.DoubleFree := by
    simp only [ones, List.forall_mem_cons, List.not_mem_nil, false_implies, implies_true, and_true,
      doubleFree_list]
    exact ⟨(doubleFree_leaf (by decide)).2 (by decide), (doubleFree_leaf (by decide)).2 (by decide),
      (doubleFree_leaf (by decide)).2 (by decide)⟩
  have hfirst : ∀ b ∈ ones, (Value.list [.int 1]).equals b = true := by
    decide +kernel
  refine ⟨fun a ha b hb => ?_, hkinds _ _ (by decide) rfl, ?_⟩
  · refine htrans a (.list [.int 1]) b (hfree a ha) (hfree _ (by simp [ones])) (hfree b hb) ?_
      (hfirst b hb)
    rw [hcomm]
    exact hfirst a ha
  · rw [ne_eq, hself, not_not]
    exact ⟨notANumber, by decide +kernel, .item (List.mem_singleton.2 rfl) .here⟩

/-- A double may be equal to two integers that differ, because it has too few digits for one. -/
example :
    (Value.int 9007199254740993).equals (.float 9007199254740992) = true ∧
      (Value.float 9007199254740992).equals (.int 9007199254740992) = true ∧
      (Value.int 9007199254740993).equals (.int 9007199254740992) = false := by
  decide +kernel

end Value

end GatedPredicate
