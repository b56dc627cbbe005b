import GatedPredicate.Proofs.Decimal.Reader
import GatedPredicate.Proofs.Text.Numerals
import GatedPredicate.Value.Coercion

/-!
# What the cascade reads

Text becomes the value of the first stage that accepts it. The stages for integers overlap but never
disagree, so whatever the cascade gives is what one of the readers gives, and a text that a numeral
cannot go on with passes all stages up to the one for date-times.

- `Denotes`, `denotes_of_coerceText`: which reader a value comes from
- `coerceText_eq_int_iff`, `coerceText_eq_uint`: integers
- `coerceText_of_leading`: texts that no stage for numbers accepts
- `BreaksOff`, `BreaksOff.coerceText_eq`: texts that are no numerals
-/

namespace GatedPredicate

open GatedPredicate.Number GatedPredicate.Text

variable {options : CoercionOptions} {s : String} {v : Value}

/-! ## From stages to readers -/

/-- The readers that the stages ask, each with the kind of value that it gives. -/
inductive Denotes (s : String) : Value → Prop
  | bool {b : Bool} : readBool? (trimChars s.toList) = some b → Denotes s (.bool b)
  | int {n : Int64} : readInt64? (trimChars s.toList) = some n → Denotes s (.int n)
  | uint {n : UInt64} : readUInt64? (trimChars s.toList) = some n → Denotes s (.uint n)
  | single {x : Float} : exactDouble? readSingle? (trimChars s.toList) = some x →
      Denotes s (.float x)
  | double {x : Float} : exactDouble? readDouble? (trimChars s.toList) = some x →
      Denotes s (.float x)
  | decimal {d : Decimal} : Decimal.read? (trimChars s.toList) = some d → Denotes s (.decimal d)
  | char {c : Char} : s.toList = [c] → Denotes s (.char c)
  | dateTime {t : DateTime} : Time.read? s = some t → Denotes s (.dateTime t)
  | guid {g : Guid} : Guid.read? (trimChars s.toList) = some g → Denotes s (.guid g)
  | text : Denotes s (.string s)

theorem byteStage_eq_some {cs : List Char} (h : byteStage cs = some v) :
    ∃ n, v = .int n ∧ readInt64? (trimChars cs) = some n := by
  obtain ⟨k, hk, hbound⟩ := Option.bind_eq_some_iff.1 h
  obtain ⟨hsmall, hv⟩ := Option.ite_none_right_eq_some.1 hbound
  exact ⟨_, (Option.some.inj hv).symm, readInt64?_of_readUInt64? hk (by omega)⟩

theorem int32Stage_eq_some {cs : List Char} (h : int32Stage cs = some v) :
    ∃ n, v = .int n ∧ readInt64? (trimChars cs) = some n := by
  obtain ⟨n, hn, hbound⟩ := Option.bind_eq_some_iff.1 h
  obtain ⟨-, hv⟩ := Option.ite_none_right_eq_some.1 hbound
  exact ⟨n, (Option.some.inj hv).symm, hn⟩

/-- The stages in front of the one for characters, which may be left out. -/
def leadingStages : List Stage :=
  [boolStage, byteStage, int32Stage, int64Stage, uint64Stage, singleStage, doubleStage,
    decimalStage]

theorem cascade_eq (options : CoercionOptions) :
    cascade options = leadingStages ++
      ((if options.singleCharAsChar then [charStage] else []) ++ [dateTimeStage, guidStage]) := by
  rw [cascade, List.append_assoc]
  rfl

/-- Each stage asks one of the readers. -/
theorem denotes_of_stage {stage : Stage} (hmem : stage ∈ cascade options)
    (h : stage s.toList = some v) : Denotes s v := by
  simp only [cascade_eq, leadingStages, List.mem_append, List.mem_cons, List.mem_ite_nil_right,
    List.not_mem_nil, or_false] at hmem
  rcases hmem with (rfl | rfl | rfl | rfl | rfl | rfl | rfl | rfl) | ⟨-, rfl⟩ | rfl | rfl
  · obtain ⟨b, hb, rfl⟩ := Option.map_eq_some_iff.1 h
    exact .bool hb
  · obtain ⟨n, rfl, hn⟩ := byteStage_eq_some h
    exact .int hn
  · obtain ⟨n, rfl, hn⟩ := int32Stage_eq_some h
    exact .int hn
  · obtain ⟨n, hn, rfl⟩ := Option.map_eq_some_iff.1 h
    exact .int hn
  · obtain ⟨n, hn, rfl⟩ := Option.map_eq_some_iff.1 h
    exact .uint hn
  · obtain ⟨x, hx, rfl⟩ := Option.map_eq_some_iff.1 h
    exact .single hx
  · obtain ⟨x, hx, rfl⟩ := Option.map_eq_some_iff.1 h
    exact .double hx
  · obtain ⟨d, hd, rfl⟩ := Option.map_eq_some_iff.1 h
    exact .decimal hd
  · unfold charStage at h
    split at h
    · rename_i c hc
      obtain rfl := Option.some.inj h
      exact .char hc
    · cases h
  · obtain ⟨t, ht, rfl⟩ := Option.map_eq_some_iff.1 h
    rw [String.ofList_toList] at ht
    exact .dateTime ht
  · obtain ⟨g, hg, rfl⟩ := Option.map_eq_some_iff.1 h
    exact .guid hg

theorem denotes_of_coerceText (h : coerceText options s = v) : Denotes s v := by
  subst h
  unfold coerceText
  cases hfound : (cascade options).findSome? fun stage => stage s.toList with
  | none => exact .text
  | some v =>
    obtain ⟨stage, hmem, hstage⟩ := List.exists_of_findSome?_eq_some hfound
    exact denotes_of_stage hmem hstage

/-! ## From readers to the cascade -/

/-- A stage decides if those before it give nothing, or nothing else. -/
theorem coerceText_of_stage {stage : Stage} (before : List Stage) {after : List Stage}
    (hsplit : cascade options = before ++ stage :: after)
    (hbefore : ∀ earlier ∈ before, ∀ w, earlier s.toList = some w → w = v)
    (h : stage s.toList = some v) : coerceText options s = v := by
  have hfound : (before ++ stage :: after).findSome? (fun stage => stage s.toList) = some v := by
    clear hsplit
    induction before with
    | nil => rw [List.nil_append, List.findSome?_cons, h]
    | cons earlier before ih =>
      rw [List.cons_append, List.findSome?_cons]
      cases hearlier : earlier s.toList with
      | none => exact ih fun st hst => hbefore st (List.mem_cons_of_mem _ hst)
      | some w => rw [hbefore earlier List.mem_cons_self w hearlier]
  rw [coerceText, hsplit, hfound, Option.getD_some]

/-- The first stage reads truth values. -/
theorem coerceText_eq_bool_iff {b : Bool} :
    coerceText options s = .bool b ↔ readBool? (trimChars s.toList) = some b := by
  constructor
  · intro h
    cases denotes_of_coerceText h with
    | bool hb => exact hb
  · intro h
    refine coerceText_of_stage [] rfl nofun ?_
    rw [boolStage, h, Option.map_some]

/-- A character is a letter if it is one in lower case. -/
theorem isAlpha_of_toLower {c : Char} (h : c.toLower.isAlpha = true) : c.isAlpha = true := by
  cases hupper : c.isUpper with
  | true => exact Bool.or_eq_true_iff.2 (.inl hupper)
  | false =>
    -- nothing else has another lower case
    have hsame : c.toLower = c := dif_neg (of_decide_eq_false hupper)
    rwa [hsame] at h

/-- Only letters become a word of letters. -/
theorem isAlpha_of_map_toLower {cs word : List Char} (h : cs.map Char.toLower = word)
    (hword : ∀ c ∈ word, c.isAlpha = true) : ∀ c ∈ cs, c.isAlpha = true := by
  intro c hc
  exact isAlpha_of_toLower (hword _ (h ▸ List.mem_map_of_mem hc))

/-- A text with anything but letters is no truth value. -/
theorem readBool?_eq_none {cs : List Char} {c : Char} (hc : c ∈ cs)
    (hletter : c.isAlpha = false) : readBool? cs = none := by
  have hword (word : List Char) (hletters : ∀ d ∈ word, d.isAlpha = true) :
      cs.map Char.toLower ≠ word := by
    intro h
    rw [isAlpha_of_map_toLower h hletters c hc] at hletter
    cases hletter
  have htrue := hword ['t', 'r', 'u', 'e'] (by simp)
  have hfalse := hword ['f', 'a', 'l', 's', 'e'] (by simp)
  simp only [readBool?, if_neg htrue, if_neg hfalse]

/-- A text that begins with digits, after a sign, is no truth value. -/
theorem readBool?_eq_none_of_numeral {cs : List Char} {n : Nat}
    (h : decimalNumeral? (splitSign cs).2 = some n) : readBool? cs = none := by
  obtain ⟨hne, hdigits, -⟩ := decimalNumeral?_eq_some.1 h
  obtain ⟨c, rest, hcs⟩ := List.exists_cons_of_ne_nil hne
  have hc : c ∈ (splitSign cs).2 := by simp [hcs]
  exact readBool?_eq_none (mem_of_mem_splitSign hc) (isAlpha_of_isDigit (hdigits c hc))

/-- The stages for signed integers differ in their ranges only. -/
theorem coerceText_eq_int_iff {n : Int64} :
    coerceText options s = .int n ↔ readInt64? (trimChars s.toList) = some n := by
  constructor
  · intro h
    cases denotes_of_coerceText h with
    | int hn => exact hn
  · intro h
    -- the byte and the 32-bit stage come first, and give the same integer if they accept it
    have hsame {w : Value} (hw : ∃ k, w = .int k ∧ readInt64? (trimChars s.toList) = some k) :
        w = .int n := by
      obtain ⟨k, rfl, hk⟩ := hw
      rw [Option.some.inj (hk.symm.trans h)]
    refine coerceText_of_stage [boolStage, byteStage, int32Stage] rfl ?_ ?_
    · simp only [List.forall_mem_cons, List.not_mem_nil, false_implies, implies_true, and_true]
      refine ⟨fun w hw => ?_, fun w hw => hsame (byteStage_eq_some hw),
        fun w hw => hsame (int32Stage_eq_some hw)⟩
      rw [readInt64?_eq] at h
      obtain ⟨k, hk, -⟩ := Option.bind_eq_some_iff.1 h
      rw [boolStage, readBool?_eq_none_of_numeral hk] at hw
      cases hw
    · rw [int64Stage, h, Option.map_some]

/-- An unsigned integer that no signed one equals. -/
theorem coerceText_eq_uint {n : UInt64} (h : readUInt64? (trimChars s.toList) = some n)
    (hlarge : 2 ^ 63 ≤ n.toNat) : coerceText options s = .uint n := by
  obtain ⟨hsign, hdigits⟩ := readUInt64?_eq_some.1 h
  have hnone : readInt64? (trimChars s.toList) = none := by
    rw [readInt64?_eq, hdigits, hsign, Option.bind_some, if_neg (by decide)]
    exact if_neg (by omega)
  have hcontra {w : Value} (hw : ∃ k, w = .int k ∧ readInt64? (trimChars s.toList) = some k) :
      w = .uint n := by
    obtain ⟨k, -, hk⟩ := hw
    rw [hnone] at hk
    cases hk
  refine coerceText_of_stage [boolStage, byteStage, int32Stage, int64Stage] rfl ?_ ?_
  · simp only [List.forall_mem_cons, List.not_mem_nil, false_implies, implies_true, and_true]
    refine ⟨fun w hw => ?_, fun w hw => hcontra (byteStage_eq_some hw),
      fun w hw => hcontra (int32Stage_eq_some hw), fun w hw => ?_⟩
    · rw [boolStage, readBool?_eq_none_of_numeral hdigits] at hw
      cases hw
    · rw [int64Stage, hnone] at hw
      cases hw
  · rw [uint64Stage, h, Option.map_some]

/-! ## Behind the numbers -/

/-- Only texts of one character are characters. -/
theorem charStage_eq_none {cs : List Char} (h : ∀ c, cs ≠ [c]) : charStage cs = none := by
  unfold charStage
  split
  · rename_i c
    exact absurd rfl (h c)
  · rfl

/-- What the stages behind those for truth values and numbers make of a text. -/
theorem coerceText_of_leading (options : CoercionOptions)
    (h : leadingStages.findSome? (fun stage => stage s.toList) = none) :
    coerceText options s =
      ((if options.singleCharAsChar then charStage s.toList else none).or
        ((dateTimeStage s.toList).or (guidStage s.toList))).getD (.string s) := by
  have hoptional : ((if options.singleCharAsChar then [charStage] else []).findSome?
      fun stage => stage s.toList) =
        if options.singleCharAsChar then charStage s.toList else none := by
    split <;> simp
  have hlast : [dateTimeStage, guidStage].findSome? (fun stage => stage s.toList) =
      (dateTimeStage s.toList).or (guidStage s.toList) := by
    cases hmoment : dateTimeStage s.toList <;> simp [hmoment]
  rw [coerceText, cascade_eq, List.findSome?_append, h, List.findSome?_append, hoptional, hlast,
    Option.none_or]

/-! ## Texts that are no numerals -/

/-- After a sign and digits comes something that goes on no numeral: a hyphen or a slash, or another
character with a hyphen further on than the sign of an exponent. -/
def BreaksOff (cs : List Char) : Prop :=
  ∃ ds c rest, (splitSign cs).2 = ds ++ c :: rest ∧ (∀ d ∈ ds, d.isDigit = true) ∧
    c.isDigit = false ∧ c ≠ '.' ∧ c ≠ '_' ∧
    ((ds ≠ [] ∧ (c = '-' ∨ c = '/')) ∨ '-' ∈ rest.drop 1)

namespace BreaksOff

variable {cs : List Char}

/-- A hyphen or a slash stands in the text, behind its first character. -/
theorem exists_separator (h : BreaksOff cs) :
    ∃ c ∈ (splitSign cs).2, c.isDigit = false ∧ c.isAlpha = false := by
  obtain ⟨ds, c, rest, hcs, -, -, -, -, ⟨-, rfl | rfl⟩ | hhyphen⟩ := h
  · exact ⟨'-', by simp [hcs], rfl, rfl⟩
  · exact ⟨'/', by simp [hcs], rfl, rfl⟩
  · exact ⟨'-', by simp [hcs, List.mem_of_mem_drop hhyphen], rfl, rfl⟩

theorem two_le_length (h : BreaksOff cs) : 2 ≤ cs.length := by
  have hsign : (splitSign cs).2.length ≤ cs.length := by
    unfold splitSign
    split <;> simp
  obtain ⟨ds, c, rest, hcs, -, -, -, -, ⟨hds, -⟩ | hhyphen⟩ := h
  · have hpos := List.length_pos_iff.2 hds
    simp only [hcs, List.length_append, List.length_cons] at hsign
    omega
  · have hpos := List.length_pos_of_mem hhyphen
    simp only [hcs, List.length_append, List.length_cons, List.length_drop] at hsign hpos
    omega

/-- The character that breaks the digits off is no mark of an exponent, or a hyphen stands where
the exponent has its digits. -/
theorem isExponentMark_or {c : Char} {ds rest : List Char}
    (h : (ds ≠ [] ∧ (c = '-' ∨ c = '/')) ∨ '-' ∈ rest.drop 1) :
    Decimal.isExponentMark c = false ∨ '-' ∈ rest.drop 1 := by
  rcases h with ⟨-, rfl | rfl⟩ | h
  · exact .inl rfl
  · exact .inl rfl
  · exact .inr h

theorem readInt64?_eq_none (h : BreaksOff cs) : readInt64? cs = none := by
  obtain ⟨c, hc, hdigit, -⟩ := h.exists_separator
  rw [readInt64?_eq, decimalNumeral?_eq_none hc hdigit, Option.bind_none]

theorem readUInt64?_eq_none (h : BreaksOff cs) : readUInt64? cs = none := by
  obtain ⟨c, hc, hdigit, -⟩ := h.exists_separator
  rw [Option.eq_none_iff_forall_ne_some]
  intro n hn
  have hnumeral := (readUInt64?_eq_some.1 hn).2
  rw [decimalNumeral?_eq_none hc hdigit] at hnumeral
  cases hnumeral

theorem readSpecial?_eq_none (h : BreaksOff cs) : readSpecial? cs = none := by
  obtain ⟨c, hc, -, hletter⟩ := h.exists_separator
  have hname (word : List Char) (hletters : ∀ d ∈ word, d.isAlpha = true) :
      (splitSign cs).2.map Char.toLower ≠ word := by
    intro hword
    rw [isAlpha_of_map_toLower hword hletters c hc] at hletter
    cases hletter
  have hinf := hname "inf".toList (by simp)
  have hinfinity := hname "infinity".toList (by simp)
  have hnan := hname "nan".toList (by simp)
  simp only [readSpecial?, hinf, hinfinity, hnan, or_self, if_false]

/-- What follows the digits is no exponent. -/
theorem readScientific?_eq_none (h : BreaksOff cs) : readScientific? cs = none := by
  obtain ⟨ds, c, rest, hcs, hds, hdigit, hpoint, -, hbreak⟩ := h
  have hhead : ∀ d ∈ (c :: rest).head?, d.isDigit = false := by
    rintro d ⟨⟩
    exact hdigit
  have hexponent : readExponent? (c :: rest) = none := by
    rcases isExponentMark_or hbreak with hmark | hhyphen
    · exact if_neg (Bool.eq_false_iff.1 hmark)
    · have hnumeral : decimalNumeral? (splitSign rest).2 = none :=
        decimalNumeral?_eq_none (mem_splitSign_of_mem_drop hhyphen) rfl
      simp [readExponent?, hnumeral]
  simp only [readScientific?, readUnsigned?, hcs, takeWhile_until hds hhead,
    dropWhile_until hds hhead]
  split
  · rename_i more hmore
    exact absurd (List.cons.inj hmore).1 hpoint
  · rw [hexponent, Option.map_none, ite_self]

/-- Digits that break off are no mantissa, or the exponent is none. -/
theorem readDecimal?_eq_none (h : BreaksOff cs) : Decimal.read? cs = none := by
  obtain ⟨ds, c, rest, hcs, hds, hdigit, hpoint, hline, hbreak⟩ := h
  have hunmarked : ∀ d ∈ ds, (!Decimal.isExponentMark d) = true :=
    fun d hd => Decimal.isExponentMark_of_isDigit (hds d hd)
  cases hmark : Decimal.isExponentMark c with
  | false =>
    have hmantissa : Decimal.mantissaPart cs =
        ds ++ c :: rest.takeWhile fun d => !Decimal.isExponentMark d := by
      rw [Decimal.mantissaPart, hcs, List.takeWhile_append_of_pos hunmarked,
        List.takeWhile_cons_of_pos (by simp [hmark])]
    refine Decimal.read?_eq_none ?_
    rw [hmantissa, Decimal.readDigits?_eq_none hds hdigit hpoint hline]
  | true =>
    -- the digits are a mantissa, but the hyphen behind the mark is in no exponent
    have hhead : ∀ d ∈ (c :: rest).head?, (!Decimal.isExponentMark d) = false := by
      rintro d ⟨⟩
      simp [hmark]
    have hhyphen : '-' ∈ rest.drop 1 :=
      (isExponentMark_or hbreak).resolve_left (by simp [hmark])
    have hexponent (d : Decimal) : d.applyExponent? rest = none := by
      unfold Decimal.applyExponent?
      split
      · rename_i digits
        have hdigits : '-' ∈ digits := hhyphen
        rw [Number.readUInt64?_eq_none hdigits, Option.bind_none]
      · rw [Number.readUInt64?_eq_none (List.mem_of_mem_drop hhyphen), Option.bind_none]
    have hpart : Decimal.exponentPart cs = c :: rest := by
      rw [Decimal.exponentPart, hcs, dropWhile_until hunmarked hhead]
    rw [Decimal.read?_exponent hpart, Option.bind_congr fun d _ => hexponent d,
      Option.bind_fun_none]

theorem exactDouble?_eq_none {read? : List Char → Option Float} (h : read? cs = none) :
    exactDouble? read? cs = none := by
  rw [exactDouble?, h, Option.bind_none, ite_self]

/-- No stage for numbers or characters accepts such a text. -/
theorem coerceText_eq (h : BreaksOff (trimChars s.toList)) :
    coerceText options s =
      ((dateTimeStage s.toList).orElse fun _ => guidStage s.toList).getD (.string s) := by
  have hleading : leadingStages.findSome? (fun stage => stage s.toList) = none := by
    obtain ⟨c, hc, -, hletter⟩ := h.exists_separator
    have hbool := readBool?_eq_none (mem_of_mem_splitSign hc) hletter
    have hsingle : readSingle? (trimChars s.toList) = none := by
      rw [readSingle?, h.readSpecial?_eq_none, h.readScientific?_eq_none]
      rfl
    have hdouble : readDouble? (trimChars s.toList) = none := by
      rw [readDouble?, h.readSpecial?_eq_none, h.readScientific?_eq_none]
      rfl
    simp [leadingStages, boolStage, byteStage, int32Stage, int64Stage, uint64Stage, singleStage,
      doubleStage, decimalStage, hbool, h.readInt64?_eq_none, h.readUInt64?_eq_none,
      exactDouble?_eq_none hsingle, exactDouble?_eq_none hdouble, h.readDecimal?_eq_none]
  have hchar : charStage s.toList = none := by
    have hlength := h.two_le_length.trans (length_trimChars_le _)
    refine charStage_eq_none fun c hc => ?_
    rw [hc] at hlength
    exact absurd hlength (by simp)
  rw [coerceText_of_leading options hleading, hchar, ite_self, Option.none_or]
  cases dateTimeStage s.toList <;> rfl

end BreaksOff

end GatedPredicate
