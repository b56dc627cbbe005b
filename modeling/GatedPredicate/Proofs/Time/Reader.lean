import GatedPredicate.Proofs.Text.Numerals
import GatedPredicate.Time.Reader
import Mathlib.Data.List.TakeWhile

/-!
# What date-times begin with

Every accepted form of a date-time begins with a number and a hyphen or a slash, whatever blanks and
signs the rest of it may have.

- `number?_eq_some`, `fieldNumber?_eq_some`: the digits that a field takes
- `StartsDate`, `startsDate_of_read?`: the front of a date-time
-/

namespace GatedPredicate.Time

open GatedPredicate.Number GatedPredicate.Text

variable {width n : Nat} {cs rest : List Char}

/-! ## Fields -/

/-- The digits at the front of a text, up to a width, and what follows them. -/
theorem append_digits (width : Nat) (cs : List Char) :
    cs = (cs.take width).takeWhile Char.isDigit ++
      cs.drop ((cs.take width).takeWhile Char.isDigit).length := by
  have hdigits : (cs.take width).takeWhile Char.isDigit <+: cs :=
    (List.takeWhile_prefix _).trans (List.take_prefix _ _)
  obtain ⟨tail, htail⟩ := hdigits
  conv_rhs => arg 2; arg 2; rw [← htail]
  rw [List.drop_left, htail]

/-- A number is one or more digits, no more than its width. -/
theorem number?_eq_some (h : number? width cs = some (n, rest)) :
    ∃ ds, ds ≠ [] ∧ ds.length ≤ width ∧ (∀ d ∈ ds, d.isDigit = true) ∧ numeral 10 ds = n ∧
      cs = ds ++ rest := by
  unfold number? at h
  dsimp only at h
  split at h
  · cases h
  · rename_i hne
    obtain ⟨rfl, rfl⟩ := Prod.mk.inj (Option.some.inj h)
    refine ⟨_, by simpa using hne, ?_, fun d hd => List.mem_takeWhile_imp hd, rfl,
      append_digits width cs⟩
    exact (List.takeWhile_prefix _).length_le.trans (List.length_take_le _ _)

/-- A number of a fixed width is that many digits. -/
theorem exactNumber?_eq_some (h : exactNumber? width cs = some (n, rest)) :
    ∃ ds, ds.length = width ∧ (∀ d ∈ ds, d.isDigit = true) ∧ numeral 10 ds = n ∧
      cs = ds ++ rest := by
  unfold exactNumber? at h
  dsimp only at h
  split at h
  · rename_i hlength
    obtain ⟨rfl, rfl⟩ := Prod.mk.inj (Option.some.inj h)
    refine ⟨_, hlength, fun d hd => List.mem_takeWhile_imp hd, rfl, ?_⟩
    conv_rhs => arg 2; rw [← hlength]
    exact append_digits width cs
  · cases h

theorem one?_eq_some {accept : Char → Bool} (h : one? accept cs = some rest) :
    ∃ c, accept c = true ∧ cs = c :: rest := by
  unfold one? at h
  split at h
  · cases h
  · obtain ⟨hc, hrest⟩ := Option.ite_none_right_eq_some.1 h
    exact ⟨_, hc, congrArg _ (Option.some.inj hrest)⟩

/-- The first field of a date: digits after a sign, at most four of them if there is none. -/
theorem fieldNumber?_eq_some {field : Field} {z : Int}
    (h : fieldNumber? field cs = some (z, rest)) (hblank : ∀ c ∈ cs.head?, isBlank c = false) :
    ∃ ds, ds ≠ [] ∧ (∀ d ∈ ds, d.isDigit = true) ∧ (splitSign cs).2 = ds ++ rest ∧
      ((splitSign cs).2 = cs → ds.length ≤ 4) := by
  rw [fieldNumber?, trimFront_of_head hblank] at h
  have hplain {width : Nat} {n : Nat} (hwidth : width ≤ 4)
      (hn : number? width cs = some (n, rest)) :
      ∃ ds, ds ≠ [] ∧ (∀ d ∈ ds, d.isDigit = true) ∧ (splitSign cs).2 = ds ++ rest ∧
        ((splitSign cs).2 = cs → ds.length ≤ 4) := by
    obtain ⟨ds, hne, hlength, hdigits, -, rfl⟩ := number?_eq_some hn
    rw [splitSign_digits hne hdigits]
    exact ⟨ds, hne, hdigits, rfl, fun _ => hlength.trans hwidth⟩
  split at h
  · unfold yearNumber? at h
    split at h
    case h_1 =>
      obtain ⟨⟨n, tail⟩, hn, heq⟩ := Option.map_eq_some_iff.1 h
      obtain ⟨-, rfl⟩ := Prod.mk.inj heq
      obtain ⟨ds, hne, -, hdigits, -, rfl⟩ := number?_eq_some hn
      exact ⟨ds, hne, hdigits, rfl, fun h => absurd h (List.cons_ne_self _ _).symm⟩
    case h_2 =>
      obtain ⟨⟨n, tail⟩, hn, heq⟩ := Option.map_eq_some_iff.1 h
      obtain ⟨-, rfl⟩ := Prod.mk.inj heq
      obtain ⟨ds, hne, -, hdigits, -, rfl⟩ := number?_eq_some hn
      exact ⟨ds, hne, hdigits, rfl, fun h => absurd h (List.cons_ne_self _ _).symm⟩
    case h_3 =>
      obtain ⟨⟨n, tail⟩, hn, heq⟩ := Option.map_eq_some_iff.1 h
      obtain ⟨-, rfl⟩ := Prod.mk.inj heq
      exact hplain le_rfl hn
  · obtain ⟨⟨n, tail⟩, hn, heq⟩ := Option.map_eq_some_iff.1 h
    obtain ⟨-, rfl⟩ := Prod.mk.inj heq
    exact hplain (by decide) hn

/-! ## The front of a date-time -/

/-- After a sign come digits and a hyphen or a slash. Without a sign there are at most four
digits. -/
def StartsDate (cs : List Char) : Prop :=
  ∃ ds c rest, ds ≠ [] ∧ (∀ d ∈ ds, d.isDigit = true) ∧ (c = '-' ∨ c = '/') ∧
    (splitSign cs).2 = ds ++ c :: rest ∧ ((splitSign cs).2 = cs → ds.length ≤ 4)

/-- A layout that begins with a field and a separator. -/
theorem startsDate_of_layout {field : Field} {c : Char} {items : Layout} {t : DateTime}
    (h : Layout.read? (.field field :: .literal c :: items) cs = some t)
    (hc : c = '-' ∨ c = '/') (hblank : ∀ c ∈ cs.head?, isBlank c = false) : StartsDate cs := by
  obtain ⟨fields, hfields, -⟩ := Option.bind_eq_some_iff.1 h
  obtain ⟨⟨n, rest⟩, hn, hseparator⟩ := Option.bind_eq_some_iff.1 hfields
  obtain ⟨hhead, -⟩ := Option.ite_none_right_eq_some.1 hseparator
  obtain ⟨more, rfl⟩ := List.head?_eq_some_iff.1 hhead
  obtain ⟨ds, hne, hdigits, hsplit, hlength⟩ := fieldNumber?_eq_some hn hblank
  exact ⟨ds, c, more, hne, hdigits, hc, hsplit, hlength⟩

/-- Every layout begins with a field and a separator. -/
theorem layouts_head : ∀ layout ∈ layouts, ∃ field c items,
    layout = .field field :: .literal c :: items ∧ (c = '-' ∨ c = '/') := by
  simp only [layouts, List.forall_mem_cons, List.not_mem_nil, false_implies, implies_true,
    and_true]
  refine ⟨?_, ?_, ?_, ?_, ?_, ?_, ?_, ?_, ?_, ?_⟩ <;>
    exact ⟨_, _, _, rfl, by decide⟩

/-- The internet form begins with four digits and a hyphen. -/
theorem startsDate_of_readInternet? {t : DateTime} (h : readInternet? cs = some t) :
    StartsDate cs := by
  obtain ⟨⟨year, rest⟩, hyear, h⟩ := Option.bind_eq_some_iff.1 h
  obtain ⟨tail, hhyphen, -⟩ := Option.bind_eq_some_iff.1 h
  obtain ⟨c, hc, rfl⟩ := one?_eq_some hhyphen
  obtain ⟨ds, hlength, hdigits, -, rfl⟩ := exactNumber?_eq_some hyear
  have hne : ds ≠ [] := by
    rintro rfl
    cases hlength
  refine ⟨ds, c, tail, hne, hdigits, .inl (beq_iff_eq.1 hc), ?_, fun _ => hlength.le⟩
  rw [splitSign_digits hne hdigits]

/-- Something follows the day in the internet form. -/
theorem length_of_readInternet? {t : DateTime} (h : readInternet? cs = some t) :
    10 < cs.length := by
  obtain ⟨⟨year, rest⟩, hyear, h⟩ := Option.bind_eq_some_iff.1 h
  obtain ⟨rest, hhyphen, h⟩ := Option.bind_eq_some_iff.1 h
  obtain ⟨⟨month, rest⟩, hmonth, h⟩ := Option.bind_eq_some_iff.1 h
  obtain ⟨rest, hhyphen', h⟩ := Option.bind_eq_some_iff.1 h
  obtain ⟨⟨day, rest⟩, hday, h⟩ := Option.bind_eq_some_iff.1 h
  obtain ⟨rest, hmark, -⟩ := Option.bind_eq_some_iff.1 h
  obtain ⟨ys, hyears, -, -, rfl⟩ := exactNumber?_eq_some hyear
  obtain ⟨-, -, rfl⟩ := one?_eq_some hhyphen
  obtain ⟨ms, hmonths, -, -, rfl⟩ := exactNumber?_eq_some hmonth
  obtain ⟨-, -, rfl⟩ := one?_eq_some hhyphen'
  obtain ⟨ds, hdays, -, -, rfl⟩ := exactNumber?_eq_some hday
  obtain ⟨-, -, rfl⟩ := one?_eq_some hmark
  simp only [List.length_append, List.length_cons]
  omega

/-- Every text of a date-time begins with a number and a separator. -/
theorem startsDate_of_read? {s : String} {t : DateTime} (h : read? s = some t) :
    StartsDate (trimChars s.toList) := by
  unfold read? at h
  dsimp only at h
  cases hinternet : readInternet? (trimChars s.toList) with
  | some t => exact startsDate_of_readInternet? hinternet
  | none =>
    have hlayout : layouts.findSome? (Layout.read? · (trimChars s.toList)) = some t := by
      rwa [hinternet] at h
    obtain ⟨layout, hmem, hread⟩ := List.exists_of_findSome?_eq_some hlayout
    obtain ⟨field, c, items, rfl, hc⟩ := layouts_head layout hmem
    exact startsDate_of_layout hread hc (head_trimChars _)

end GatedPredicate.Time
