import GatedPredicate.Proofs.Policy.Built
import GatedPredicate.Proofs.Time.Reader
import GatedPredicate.Proofs.Value.Cascade

/-!
# Coercion and the functions that convert

A text becomes a truth value, a signed integer or a date-time exactly where the function of the
standard catalog that reads such values accepts it, and the two give the same. Nothing that is a
date-time is taken by a stage for numbers: it breaks off where its first field ends.

- `coerceText_eq_dateTime_iff`: date-times
- `Registry.Returns`: what calling a function by its name gives
- `coercion_agrees_with_functions`
-/

namespace GatedPredicate

open GatedPredicate.Number GatedPredicate.Text

variable {options : CoercionOptions} {s : String}

/-! ## Date-times -/

/-- The separator after the first field of a date goes on no numeral. -/
theorem Time.StartsDate.breaksOff {cs : List Char} (h : Time.StartsDate cs) : BreaksOff cs := by
  obtain ⟨ds, c, rest, hne, hds, hc, hsplit, -⟩ := h
  refine ⟨ds, c, rest, hsplit, hds, ?_, ?_, ?_, .inl ⟨hne, hc⟩⟩ <;>
    rcases hc with rfl | rfl <;> decide

/-- No stage before the one for date-times takes the text of one. -/
theorem coerceText_eq_dateTime_iff {t : DateTime} :
    coerceText options s = .dateTime t ↔ Time.read? s = some t := by
  constructor
  · intro h
    cases denotes_of_coerceText h with
    | dateTime ht => exact ht
  · intro h
    rw [(Time.startsDate_of_read? h).breaksOff.coerceText_eq, dateTimeStage, String.ofList_toList,
      h]
    rfl

/-! ## Functions -/

/-- Calling the function of a module with one argument gives a value. -/
def Registry.Returns (r : Registry) (module function : String) (argument result : Value) : Prop :=
  ∃ m f o, r.module? module = some m ∧ m.function? function = some f ∧
    findOverload? f.overloads 1 = some o ∧ o.run [argument] = .ok result

/-- A function with one overload of one argument. -/
theorem Registry.returns_iff {r : Registry} {module function : String} {m : Module}
    {type : ResultType} {run : Value → Outcome Value} {v w : Value}
    (hm : r.module? module = some m)
    (hf : m.function? function = some ⟨function, [.unary type run]⟩) :
    r.Returns module function v w ↔ run v = .ok w := by
  constructor
  · rintro ⟨m', f, o, hm', hf', ho, hrun⟩
    obtain rfl := Option.some.inj (hm.symm.trans hm')
    obtain rfl := Option.some.inj (hf.symm.trans hf')
    obtain rfl : Overload.unary type run = o := Option.some.inj ho
    exact hrun
  · intro hrun
    exact ⟨m, _, _, hm, hf, rfl, hrun⟩

theorem standard_module?_convert :
    Registry.standard.module? "Convert" = some Catalog.convertModule := by
  rw [Registry.module?, Policy.standard_modules]
  rfl

theorem standard_module?_dateTime :
    Registry.standard.module? "DateTime" = some Catalog.dateTimeModule := by
  rw [Registry.module?, Policy.standard_modules]
  rfl

/-- What a reader of texts finds is what its function returns. -/
theorem orMalformed_map_eq_ok {α : Type} {wrap : α → Value} {name : String} {found : Option α}
    {w : Value} : (Catalog.orMalformed name found).map wrap = .ok w ↔ found.map wrap = some w := by
  cases found with
  | none => exact iff_of_false nofun nofun
  | some x => exact (Except.ok.injEq _ _).to_iff.trans (Option.some.injEq _ _).to_iff.symm

/-- The conversion and the stage of the cascade look for the same two words. -/
theorem toBool_string (s : String) :
    Catalog.toBool (.string s) =
      Catalog.orMalformed "Convert.ToBoolean" (readBool? (trimChars s.toList)) := by
  have hsame (word : String) : sameName (String.ofList (trimChars s.toList)) word = true ↔
      (trimChars s.toList).map Char.toLower = word.toList.map Char.toLower := by
    rw [sameName, String.toList_ofList, beq_iff_eq]
  have htrue : "true".toList.map Char.toLower = ['t', 'r', 'u', 'e'] := rfl
  have hfalse : "false".toList.map Char.toLower = ['f', 'a', 'l', 's', 'e'] := rfl
  simp only [Catalog.toBool, readBool?, hsame, htrue, hfalse]
  split
  · rfl
  · split
    · rfl
    · rfl

theorem returns_toBoolean {b : Bool} :
    Registry.standard.Returns "Convert" "ToBoolean" (.string s) (.bool b) ↔
      readBool? (trimChars s.toList) = some b := by
  rw [Registry.returns_iff standard_module?_convert rfl, toBool_string, orMalformed_map_eq_ok,
    Option.map_eq_some_iff]
  simp

theorem returns_toInt64 {n : Int64} :
    Registry.standard.Returns "Convert" "ToInt64" (.string s) (.int n) ↔
      readInt64? (trimChars s.toList) = some n := by
  rw [Registry.returns_iff standard_module?_convert rfl, Catalog.toInt64, orMalformed_map_eq_ok,
    Option.map_eq_some_iff]
  simp

theorem returns_parse {t : DateTime} :
    Registry.standard.Returns "DateTime" "Parse" (.string s) (.dateTime t) ↔
      Time.read? s = some t := by
  rw [Registry.returns_iff standard_module?_dateTime rfl]
  unfold Catalog.parseDateTime Catalog.textArgument
  dsimp only [Except.bind]
  cases Time.read? s <;> simp

/-- For every text and either option, coercion gives a truth value, a signed integer or a date-time
exactly where `Convert.ToBoolean`, `Convert.ToInt64` or `DateTime.Parse` returns it. -/
theorem coercion_agrees_with_functions (options : CoercionOptions) (s : String) :
    (∀ b, coerceText options s = .bool b ↔
      Registry.standard.Returns "Convert" "ToBoolean" (.string s) (.bool b)) ∧
    (∀ n, coerceText options s = .int n ↔
      Registry.standard.Returns "Convert" "ToInt64" (.string s) (.int n)) ∧
    (∀ t, coerceText options s = .dateTime t ↔
      Registry.standard.Returns "DateTime" "Parse" (.string s) (.dateTime t)) := by
  refine ⟨fun b => ?_, fun n => ?_, fun t => ?_⟩
  · rw [coerceText_eq_bool_iff, returns_toBoolean]
  · rw [coerceText_eq_int_iff, returns_toInt64]
  · rw [coerceText_eq_dateTime_iff, returns_parse]

end GatedPredicate
