import GatedPredicate.Proofs.Time.RoundTrip
import GatedPredicate.Proofs.Value.Conversions

/-!
# Texts of one character

What the switch for texts of one character changes. It adds one stage to the cascade, which only
such texts reach and pass; where it is left out they are no date-time and no identifier, so they
stay texts. In lists this goes item by item.

- `Raw.withoutChars`: a value with the characters that came from texts turned back into them
- `coerceText_eq_char_iff`, `coerceText_withoutChars`: one text
- `single_characters_switch`: raw input of any nesting
-/

namespace GatedPredicate

open GatedPredicate.Text

variable {s : String} {c : Char} {v : Value}

mutual

/-- The value `v` of raw input, but a character that a text of one character became is that text. -/
def Raw.withoutChars : Raw → Value → Value
  | .text s, .char c => if s.toList = [c] then .string s else .char c
  | .list items, .list values => .list (withoutCharsAll items values)
  | _, v => v

/-- The same for the items of lists, one by one. -/
def withoutCharsAll : List Raw → List Value → List Value
  | r :: items, v :: values => r.withoutChars v :: withoutCharsAll items values
  | _, values => values

end

/-! ## The stages around the one for characters -/

/-- No stage in front of the one for characters gives a character or text. -/
theorem leadingStages_type {cs : List Char} {stage : Stage} (hmem : stage ∈ leadingStages)
    (h : stage cs = some v) : v.type ≠ .char ∧ v.type ≠ .string := by
  simp only [leadingStages, List.mem_cons, List.not_mem_nil, or_false] at hmem
  rcases hmem with rfl | rfl | rfl | rfl | rfl | rfl | rfl | rfl
  -- the narrow stages for integers are no readers of their own
  case inr.inl =>
    obtain ⟨_, rfl, -⟩ := byteStage_eq_some h
    simp [Value.type]
  case inr.inr.inl =>
    obtain ⟨_, rfl, -⟩ := int32Stage_eq_some h
    simp [Value.type]
  all_goals
    obtain ⟨_, -, rfl⟩ := Option.map_eq_some_iff.1 h
    simp [Value.type]

/-- A single character is no date-time. -/
theorem dateTimeStage_singleton (c : Char) : dateTimeStage [c] = none := by
  rw [dateTimeStage, Option.map_eq_none_iff, Option.eq_none_iff_forall_ne_some]
  intro t ht
  have hshort := (Time.startsDate_of_read? ht).breaksOff.two_le_length.trans
    (length_trimChars_le _)
  rw [String.toList_ofList] at hshort
  exact absurd hshort (by simp)

/-- A single character is no identifier. -/
theorem guidStage_singleton (c : Char) : guidStage [c] = none := by
  have hshort : (trimChars [c]).length ≤ 1 := length_trimChars_le [c]
  have hread : Guid.read? (trimChars [c]) = none := by
    unfold Guid.read?
    split
    case h_5 => rfl
    all_goals omega
  rw [guidStage, hread, Option.map_none]

/-! ## Texts -/

/-- Only characters are turned back. -/
theorem Raw.withoutChars_text (h : ∀ c, s.toList = [c] → v ≠ .char c) :
    (Raw.text s).withoutChars v = v := by
  cases v with
  | char c => exact if_neg fun hs => h c hs rfl
  | _ => rfl

/-- The value of a stage in front is the same with and without the stage for characters, and is
neither a character nor text. -/
theorem coerceText_of_leading_some
    (h : leadingStages.findSome? (fun stage => stage s.toList) = some v) :
    (∀ options, coerceText options s = v) ∧ v.type ≠ .char ∧ v.type ≠ .string := by
  obtain ⟨stage, hmem, hstage⟩ := List.exists_of_findSome?_eq_some h
  refine ⟨fun options => ?_, leadingStages_type hmem hstage⟩
  rw [coerceText, cascade_eq, List.findSome?_append, h, Option.some_or, Option.getD_some]

/-- A single character that no stage in front accepts. -/
theorem coerceText_singleton (hc : s.toList = [c])
    (h : leadingStages.findSome? (fun stage => stage s.toList) = none) :
    coerceText ⟨true⟩ s = .char c ∧ coerceText ⟨false⟩ s = .string s := by
  rw [coerceText_of_leading _ h, coerceText_of_leading _ h, hc, dateTimeStage_singleton,
    guidStage_singleton]
  exact ⟨rfl, rfl⟩

/-- A text is a character where the stage for them is there and it would stay a text without it. -/
theorem coerceText_eq_char_iff :
    coerceText ⟨true⟩ s = .char c ↔ s.toList = [c] ∧ coerceText ⟨false⟩ s = .string s := by
  cases hleading : leadingStages.findSome? fun stage => stage s.toList with
  | some v =>
    obtain ⟨hboth, hchar, hstring⟩ := coerceText_of_leading_some hleading
    rw [hboth, hboth]
    constructor
    · rintro rfl
      exact absurd rfl hchar
    · rintro ⟨-, rfl⟩
      exact absurd rfl hstring
  | none =>
    constructor
    · intro h
      cases denotes_of_coerceText h with
      | char hc => exact ⟨hc, (coerceText_singleton hc hleading).2⟩
    · rintro ⟨hc, -⟩
      exact (coerceText_singleton hc hleading).1

theorem coerceText_withoutChars (s : String) :
    coerceText ⟨false⟩ s = (Raw.text s).withoutChars (coerceText ⟨true⟩ s) := by
  by_cases hchar : ∃ c, coerceText ⟨true⟩ s = .char c
  · obtain ⟨c, hon⟩ := hchar
    obtain ⟨hc, hoff⟩ := coerceText_eq_char_iff.1 hon
    rw [hon, hoff, Raw.withoutChars, if_pos hc]
  · have hsame : coerceText ⟨false⟩ s = coerceText ⟨true⟩ s := by
      cases hleading : leadingStages.findSome? fun stage => stage s.toList with
      | some v =>
        obtain ⟨hboth, -⟩ := coerceText_of_leading_some hleading
        rw [hboth, hboth]
      | none =>
        -- the one stage that only one of them has refuses the text
        have hrefused : charStage s.toList = none :=
          charStage_eq_none fun c hc => hchar ⟨c, (coerceText_singleton hc hleading).1⟩
        rw [coerceText_of_leading _ hleading, coerceText_of_leading _ hleading, hrefused,
          ite_self, ite_self]
    rw [hsame, Raw.withoutChars_text fun c _ h => hchar ⟨c, h⟩]

/-! ## Raw input -/

/-- A date is a moment either way. -/
theorem coerce_date (options : CoercionOptions) (d : Date) :
    (Raw.date d).coerce options = .dateTime (.midnight d) := by
  rw [Raw.coerce, coerceText_eq_dateTime_iff, Time.read?_dateText]

mutual

theorem Raw.coerce_withoutChars :
    ∀ raw : Raw, raw.coerce ⟨false⟩ = raw.withoutChars (raw.coerce ⟨true⟩)
  | .value v => by cases v <;> rfl
  | .text s => coerceText_withoutChars s
  | .date d => by rw [coerce_date, coerce_date, Raw.withoutChars] <;> nofun
  | .list items => by
    rw [Raw.coerce, Raw.coerce, Raw.withoutChars, coerceAll_withoutChars items]

theorem coerceAll_withoutChars :
    ∀ items : List Raw,
      coerceAll ⟨false⟩ items = withoutCharsAll items (coerceAll ⟨true⟩ items)
  | [] => rfl
  | r :: items => by
    rw [coerceAll, coerceAll, withoutCharsAll, r.coerce_withoutChars,
      coerceAll_withoutChars items]

end

/-- With the switch for single characters on and off raw input of any nesting becomes the same
value, but where it is on a text of one character may have become that character, and where it is
off it is that text. Such texts are the only ones that become characters, and of these all that
would stay texts otherwise. -/
theorem single_characters_switch :
    (∀ raw : Raw, raw.coerce ⟨false⟩ = raw.withoutChars (raw.coerce ⟨true⟩)) ∧
      ∀ s c, coerceText ⟨true⟩ s = .char c ↔
        s.toList = [c] ∧ coerceText ⟨false⟩ s = .string s :=
  ⟨Raw.coerce_withoutChars, fun _ _ => coerceText_eq_char_iff⟩

end GatedPredicate
