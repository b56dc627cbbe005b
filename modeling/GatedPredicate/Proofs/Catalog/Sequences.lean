import GatedPredicate.Gate
import GatedPredicate.Proofs.Bound.Duality
import GatedPredicate.Proofs.Bound.Uses
import GatedPredicate.Proofs.Number.Integers
import GatedPredicate.Proofs.Text.Search
import GatedPredicate.Proofs.Typing.Rejections

/-!
# One view of a sequence

Quantifiers, counting, indexing and containment each look at a list, a text or a JSON array in their
own way. All of them see the same elements in the same order: what quantifiers run over is what is
counted, what an index selects from and what is searched.

- `exists_elements`: sequences have elements, and these are what is counted and indexed
- `eval_index`, `quantify_any`, `use_contains`: one lemma for each of the other views
- `Value.Views`: what all views of a sequence have in common
- `sequence_views_agree`
-/

namespace GatedPredicate

open GatedPredicate.Number GatedPredicate.Syntax

variable {s v : Value} {items : List Value} {a : Activation}

/-! ## Elements -/

/-- The values that receive the members of sequences. -/
theorem exists_sequence (h : Receiver.sequence.accepts s = true) :
    (∃ items, s = .list items) ∨ (∃ t, s = .string t) ∨ ∃ items, s = .json (.array items) := by
  cases s with
  | list items => exact .inl ⟨items, rfl⟩
  | string t => exact .inr (.inl ⟨t, rfl⟩)
  | json j =>
    cases j with
    | array items => exact .inr (.inr ⟨items, rfl⟩)
    | _ => cases h
  | _ => cases h

/-- What can be counted and indexed is what quantifiers run over. -/
theorem exists_elements (h : Receiver.sequence.accepts s = true) :
    ∃ items, Catalog.elements s = .ok items ∧ Catalog.elementCount s = .ok items.length ∧
      indexable s = .ok items := by
  rcases exists_sequence h with ⟨items, rfl⟩ | ⟨t, rfl⟩ | ⟨items, rfl⟩
  · exact ⟨items, rfl, rfl, rfl⟩
  · refine ⟨t.toList.map .char, rfl, ?_, rfl⟩
    rw [List.length_map, String.length_toList]
    rfl
  · refine ⟨items.map .json, rfl, ?_, rfl⟩
    rw [List.length_map]
    rfl

/-- What the members of sequences that only count give. -/
theorem use_counting {n : Nat} (h : Receiver.sequence.accepts s = true)
    (hcount : Catalog.elementCount s = .ok n) :
    Registry.standard.use "Any" false s [] = .ok (.bool (0 < n)) ∧
      Registry.standard.use "Count" false s [] = .ok (.ofNat n) ∧
      Registry.standard.use "Length" true s [] = .ok (.ofNat n) ∧
      (Registry.standard.ofOwner .sequence).use "Length" true s [] = .ok (.ofNat n) := by
  rcases exists_sequence h with ⟨items, rfl⟩ | ⟨t, rfl⟩ | ⟨items, rfl⟩
  · obtain rfl := Except.ok.inj hcount
    exact ⟨rfl, rfl, rfl, rfl⟩
  · obtain rfl := Except.ok.inj hcount
    exact ⟨rfl, rfl, rfl, rfl⟩
  · obtain rfl := Except.ok.inj hcount
    exact ⟨rfl, rfl, rfl, rfl⟩


/-! ## Elements by their index -/

/-- The number that an index counts is the index itself, but for the greatest ones: no sequence is
long enough for these to matter. -/
theorem indexNumber_integer (i : Integer) :
    ∃ n, indexNumber i.value = .ok n ∧ n.toInt = min i.toInt (2 ^ 63 - 1) := by
  cases i with
  | signed n =>
    have hbound := Int64.toInt_lt n
    exact ⟨n, rfl, by rw [Integer.toInt]; omega⟩
  | unsigned n =>
    rcases int64?_unsigned n with ⟨m, hm, hvalue⟩ | ⟨hlarge, hnone⟩
    · have hbound := Int64.toInt_lt m
      refine ⟨m, ?_, by rw [hvalue, Integer.toInt]; omega⟩
      rw [Integer.value, indexNumber, hm, Option.getD_some]
    · refine ⟨Int64.maxValue, ?_, by rw [Int64.toInt_maxValue, Integer.toInt]; omega⟩
      rw [Integer.value, indexNumber, hnone, Option.getD_none]

/-- An index of a sequence selects from its elements. -/
theorem eval_index {target position : Bound} {i : Integer} (hindexable : indexable s = .ok items)
    (htarget : target.eval a = .ok s) (hposition : position.eval a = .ok i.value) :
    ∃ n : Int64, n.toInt = min i.toInt (2 ^ 63 - 1) ∧
      Bound.eval a (.index target position) = elementAt items n := by
  obtain ⟨n, hn, hvalue⟩ := indexNumber_integer i
  refine ⟨n, hvalue, ?_⟩
  have hcounts : i.value.type ≠ .string := by cases i <;> exact ValueType.noConfusion
  rw [Bound.eval, htarget, except_ok_seq, hposition, except_ok_seq, indexInto_eq (.inr hcounts), hn,
    hindexable]
  rfl

/-! ## Elements by a test -/

/-- `Any` with a test that always has a value asks whether an element passes it. -/
theorem quantify_any {test : Value → Outcome Bool} {p : Value → Bool}
    (h : ∀ x ∈ items, test x = .ok (p x)) : quantify .any test items = .ok (items.any p) := by
  induction items with
  | nil => rfl
  | cons x rest ih =>
    rw [quantify_cons, h x List.mem_cons_self, ih fun y hy => h y (List.mem_cons_of_mem x hy),
      List.any_cons]
    cases p x <;> rfl

/-- A quantifier over a sequence tests its elements. -/
theorem eval_quantifier_elements {receiver : Bound} (hitems : Catalog.elements s = .ok items)
    (hreceiver : receiver.eval a = .ok s) (kind : Quantifier) (slot : Nat) (body : Bound) :
    Bound.eval a (.quantifier kind receiver slot body) =
      (quantify kind (fun x => body.truth (a.bindSlot slot x) kind.name) items).map .bool := by
  rw [Bound.eval_quantifier, Bound.holds, hreceiver, except_ok_seq, hitems, except_ok_seq]

/-- Whether the element in a slot equals the value of a tree. -/
theorem truth_equal {slot : Nat} {needle : Bound} {x : Value} (operation : String)
    (hneedle : needle.eval (a.bindSlot slot x) = .ok v) :
    Bound.truth (a.bindSlot slot x) operation (.binary .eq (.param slot) needle) =
      .ok (x.equals v) := by
  have hparam : Bound.eval (a.bindSlot slot x) (.param slot) = .ok x := by
    simp [Bound.eval, Activation.bindSlot]
  rw [Bound.truth, Bound.eval, hparam, except_ok_seq, hneedle]
  · rfl
  -- neither `&&` nor `||`, which do not evaluate both sides
  · intro hand
    cases hand
  · intro hor
    cases hor

/-! ## Containment -/

/-- The member of sequences looks for an element that equals the argument. -/
theorem use_contains (hitems : Catalog.elements s = .ok items)
    (h : Receiver.sequence.accepts s = true) (v : Value) :
    (Registry.standard.ofOwner .sequence).use "Contains" false s [v] =
      .ok (.bool (items.any fun x => x.equals v)) := by
  rcases exists_sequence h with ⟨items', rfl⟩ | ⟨t, rfl⟩ | ⟨items', rfl⟩ <;>
    obtain rfl := Except.ok.inj hitems <;> rfl

theorem char_equals (c d : Char) : (Value.char c).equals (.char d) = (c == d) := by
  rw [Value.equals]
  · rfl
  · intro xs ys hlist
    cases hlist

/-- Texts have a member of that name for themselves, which searches for a text or a character. On a
character it agrees with the member of sequences. -/
theorem use_contains_char (t : String) (c : Char) :
    Registry.standard.use "Contains" false (.string t) [.char c] =
      (Registry.standard.ofOwner .sequence).use "Contains" false (.string t) [.char c] := by
  have hchars : ((t.toList.map Value.char).any fun x => x.equals (.char c)) =
      Text.occursIn [c] t.toList := by
    rw [Bool.eq_iff_iff, Text.occursIn_singleton, List.any_map, List.any_eq_true]
    simp [char_equals]
  rw [use_contains rfl rfl, hchars]
  rfl

/-- Lists and arrays have no other member of that name. -/
theorem use_contains_of_not_text (h : Receiver.sequence.accepts s = true)
    (htext : Receiver.string.accepts s = false) (v : Value) :
    Registry.standard.use "Contains" false s [v] =
      (Registry.standard.ofOwner .sequence).use "Contains" false s [v] := by
  rcases exists_sequence h with ⟨items, rfl⟩ | ⟨t, rfl⟩ | ⟨items, rfl⟩
  · rfl
  · cases htext
  · rfl

/-! ## One view -/

/-- All that there is to see of a sequence are the elements `items`, in their order. -/
structure Value.Views (s : Value) (items : List Value) : Prop where
  /-- Quantifiers run over them. -/
  iterated (a : Activation) (kind : Quantifier) (receiver : Bound) (slot : Nat) (body : Bound) :
    receiver.eval a = .ok s →
      Bound.eval a (.quantifier kind receiver slot body) =
        (quantify kind (fun x => body.truth (a.bindSlot slot x) kind.name) items).map .bool
  /-- Their number is what every member that counts gives. -/
  counted : ∃ n : Int64, n.toInt = items.length ∧
    Registry.standard.use "Count" false s [] = .ok (.int n) ∧
    Registry.standard.use "Length" true s [] = .ok (.int n) ∧
    (Registry.standard.ofOwner .sequence).use "Length" true s [] = .ok (.int n)
  nonempty : Registry.standard.use "Any" false s [] = .ok (.bool (0 < items.length))
  /-- An index in range selects one of them. -/
  element (a : Activation) (target position : Bound) (i : Integer) (k : Nat)
      (h : k < items.length) :
    target.eval a = .ok s → position.eval a = .ok i.value → i.toInt = k →
      Bound.eval a (.index target position) = .ok items[k]
  /-- Any other index is reported with their number, the greatest ones as the greatest signed
  integer. -/
  outOfRange (a : Activation) (target position : Bound) (i : Integer) :
    target.eval a = .ok s → position.eval a = .ok i.value →
      ¬ (0 ≤ i.toInt ∧ i.toInt < items.length) →
        ∃ reported : Int64, reported.toInt = min i.toInt (2 ^ 63 - 1) ∧
          Bound.eval a (.index target position) = .error (.indexOutOfRange reported items.length)
  /-- The member of sequences searches them. -/
  contains (v : Value) : ∃ found,
    (Registry.standard.ofOwner .sequence).use "Contains" false s [v] = .ok (.bool found) ∧
      (found = true ↔ ∃ x ∈ items, x.equals v = true)
  /-- It answers as `Any` does with a test for equality. -/
  containsAny (a : Activation) (receiver needle : Bound) (slot : Nat) (v : Value) :
    receiver.eval a = .ok s → (∀ x, needle.eval (a.bindSlot slot x) = .ok v) →
      (Registry.standard.ofOwner .sequence).use "Contains" false s [v] =
        Bound.eval a (.quantifier .any receiver slot (.binary .eq (.param slot) needle))
  /-- For lists and arrays there is no other member of its name. -/
  onlyContains (v : Value) : Receiver.string.accepts s = false →
    Registry.standard.use "Contains" false s [v] =
      (Registry.standard.ofOwner .sequence).use "Contains" false s [v]
  /-- For texts there is one, with the same answer on characters. -/
  containsChar (c : Char) : Receiver.string.accepts s = true →
    Registry.standard.use "Contains" false s [.char c] =
      (Registry.standard.ofOwner .sequence).use "Contains" false s [.char c]

/-- All views of a sequence agree: every list, text and JSON array has elements, and these are what
is iterated, counted, indexed and searched. They are counted by signed integers of 64 bits, which is
enough for whatever fits into memory. -/
theorem sequence_views_agree (s : Value) (hs : Receiver.sequence.accepts s = true) :
    ∃ items, Catalog.elements s = .ok items ∧ (items.length < 2 ^ 63 → s.Views items) := by
  obtain ⟨items, hitems, hcount, hindexable⟩ := exists_elements hs
  obtain ⟨hany, hcounted, hproperty, hlength⟩ := use_counting hs hcount
  refine ⟨items, hitems, fun hfits => ?_⟩
  constructor
  case iterated =>
    exact fun a kind receiver slot body h => eval_quantifier_elements hitems h kind slot body
  case counted =>
    exact ⟨Int64.ofNat items.length, Int64.toInt_ofNat_of_lt hfits, hcounted, hproperty, hlength⟩
  case nonempty => exact hany
  case element =>
    intro a target position i k hk htarget hposition hi
    obtain ⟨n, hn, heval⟩ := eval_index hindexable htarget hposition
    have hvalue : n.toInt = k := by omega
    rw [heval, elementAt, if_pos (by omega), hvalue, Int.toNat_natCast, elementIn,
      List.getElem?_eq_getElem hk]
  case outOfRange =>
    intro a target position i htarget hposition hi
    obtain ⟨n, hn, heval⟩ := eval_index hindexable htarget hposition
    -- the greatest indexes are cut, but not so far that they reach an element
    exact ⟨n, hn, by rw [heval, elementAt, if_neg (by omega)]⟩
  case contains =>
    exact fun v => ⟨_, use_contains hitems hs v, by rw [List.any_eq_true]⟩
  case containsAny =>
    intro a receiver needle slot v hreceiver hneedle
    rw [use_contains hitems hs, eval_quantifier_elements hitems hreceiver,
      quantify_any fun x _ => truth_equal Quantifier.any.name (hneedle x)]
    rfl
  case onlyContains => exact fun v htext => use_contains_of_not_text hs htext v
  case containsChar =>
    intro c htext
    cases s with
    | string t => exact use_contains_char t c
    | _ => cases htext

/-- A text with a character outside of ASCII has as many elements as characters, also where a
resolved tree counts them. -/
theorem sequence_views_agree_text :
    let s : Value := .string "héllo"
    let items : List Value := [.char 'h', .char 'é', .char 'l', .char 'l', .char 'o']
    Receiver.sequence.accepts s = true ∧ Catalog.elements s = .ok items ∧ s.Views items ∧
      ∃ t, Gate.standard.env.bindInstance (.ofValue s) "Count" false [] = .ok t ∧
        ∀ a, ∃ n : Int64, t.tree.eval a = .ok (.int n) ∧ n.toInt = 5 := by
  intro s items
  have hs : Receiver.sequence.accepts s = true := rfl
  have hitems : Catalog.elements s = .ok items := rfl
  obtain ⟨items', hitems', hviews⟩ := sequence_views_agree s hs
  obtain rfl : items = items' := Except.ok.inj (hitems.symm.trans hitems')
  have hsees : s.Views items := hviews (by decide)
  obtain ⟨n, hn, hcount, -⟩ := hsees.counted
  let receiver : Typed := .ofValue s
  obtain ⟨t, hbind⟩ : ∃ t, Gate.standard.env.bindInstance receiver "Count" false [] = .ok t :=
    ⟨_, rfl⟩
  refine ⟨hs, hitems, hsees, t, hbind, fun a => ⟨n, ?_, hn⟩⟩
  have hreceiver : receiver.tree.eval a = .ok s := rfl
  have hadmits : receiver.type.Admits s := ValueType.admits_type (v := s)
  exact (bindInstance_use .standard hbind hreceiver hadmits rfl).trans hcount

end GatedPredicate
