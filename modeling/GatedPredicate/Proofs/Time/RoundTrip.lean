import GatedPredicate.Proofs.Time.Reader

/-!
# Dates and date-times are read back

The text of a date is that of its layout and of no earlier one, and so is the text of a date-time.
A year with a sign ends where its digits end, and one without a sign has four digits, so the field
that follows is never taken for a part of it.

- `fieldNumber?_padded`, `fieldNumber?_yearText`: fields
- `fields?_isoDate`, `fields?_slashDate`, `fields?_fullClock`: layouts
- `read?_dateText`, `read?_text`
-/

namespace GatedPredicate

open GatedPredicate.Number GatedPredicate.Text

variable {width n : Nat} {ds rest : List Char} {y : Int}

/-! ## Padded numbers and years -/

theorem isDigit_of_mem_padded {c : Char} (h : c ∈ padded width n) : c.isDigit = true := by
  rcases List.mem_append.1 h with hzero | hdigit
  · rw [List.eq_of_mem_replicate hzero]
    rfl
  · exact isDigit_of_mem_toDigits hdigit

theorem numeral_padded (width n : Nat) : numeral 10 (padded width n) = n :=
  (numeral_zeros 10 _ _).trans (numeral_toDigits (by decide) (by decide) n)

/-- A number that is not too long has exactly the width. -/
theorem length_padded (hwidth : 0 < width) (hn : n < 10 ^ width) :
    (padded width n).length = width := by
  have hlength : (decimalDigits n).length ≤ width :=
    (Nat.length_toDigits_le_iff (by decide) hwidth).2 hn
  rw [padded, List.length_append, zeros, List.length_replicate]
  omega

theorem padded_ne_nil (width n : Nat) : padded width n ≠ [] :=
  List.append_ne_nil_of_right_ne_nil _ Nat.toDigits_ne_nil

/-- A year is written with a sign, or with four digits. -/
theorem yearText_cases (y : Int) :
    (y < 0 ∧ yearText y = '-' :: padded 4 y.natAbs) ∨
    (0 ≤ y ∧ y.natAbs < 10 ^ 4 ∧ yearText y = padded 4 y.natAbs) ∨
    (0 ≤ y ∧ yearText y = '+' :: padded 4 y.natAbs) := by
  unfold yearText
  split
  · exact .inl ⟨‹_›, rfl⟩
  · split
    · exact .inr (.inl ⟨by omega, by omega, rfl⟩)
    · exact .inr (.inr ⟨by omega, rfl⟩)

theorem Date.month_lt (d : Date) : d.month < 10 ^ 2 := by
  have hday := d.day_range
  unfold daysInMonth at hday
  split at hday <;> omega

theorem Date.day_lt (d : Date) : d.day < 10 ^ 2 := by
  have hday := d.day_range
  unfold daysInMonth at hday
  repeat' split at hday
  all_goals omega

theorem Date.make?_self (d : Date) : Date.make? d.year d.month d.day = some d :=
  dif_pos ⟨d.year_range, d.day_range⟩

namespace Time

/-! ## Fields -/

/-- A run of digits ends at the width or where something else follows. -/
theorem digits_take (hds : ∀ d ∈ ds, d.isDigit = true) (hwidth : ds.length ≤ width)
    (hstop : ds.length = width ∨ ∀ c ∈ rest.head?, c.isDigit = false) :
    ((ds ++ rest).take width).takeWhile Char.isDigit = ds := by
  rw [List.take_append, List.take_of_length_le hwidth]
  refine takeWhile_until hds fun c hc => ?_
  rcases hstop with rfl | hstop
  · rw [Nat.sub_self] at hc
    cases hc
  · rw [List.head?_take] at hc
    split at hc
    · cases hc
    · exact hstop c hc

theorem number?_append (hne : ds ≠ []) (hds : ∀ d ∈ ds, d.isDigit = true)
    (hwidth : ds.length ≤ width)
    (hstop : ds.length = width ∨ ∀ c ∈ rest.head?, c.isDigit = false) :
    number? width (ds ++ rest) = some (numeral 10 ds, rest) := by
  rw [number?, digits_take hds hwidth hstop]
  simp [hne]

/-- Too few digits are no number of a fixed width. -/
theorem exactNumber?_eq_none (hds : ∀ d ∈ ds, d.isDigit = true) (hwidth : ds.length < width)
    (hstop : ∀ c ∈ rest.head?, c.isDigit = false) : exactNumber? width (ds ++ rest) = none := by
  rw [exactNumber?, digits_take hds hwidth.le (.inr hstop)]
  exact if_neg hwidth.ne

theorem trimFront_digits (hne : ds ≠ []) (hds : ∀ d ∈ ds, d.isDigit = true) (rest : List Char) :
    trimFront (ds ++ rest) = ds ++ rest := by
  obtain ⟨d, more, rfl⟩ := List.exists_cons_of_ne_nil hne
  refine trimFront_of_head ?_
  rintro c ⟨⟩
  exact isBlank_of_isDigit (hds d List.mem_cons_self)

/-- Two digits are read as a field, whatever follows them. -/
theorem fieldNumber?_padded {field : Field} (hfield : field ≠ .year) (hn : n < 10 ^ 2) :
    fieldNumber? field (padded 2 n ++ rest) = some ((n : Int), rest) := by
  have hlength := length_padded (by decide) hn
  rw [fieldNumber?, if_neg hfield,
    trimFront_digits (padded_ne_nil 2 n) fun _ => isDigit_of_mem_padded,
    number?_append (padded_ne_nil 2 n) (fun _ => isDigit_of_mem_padded) hlength.le (.inl hlength),
    numeral_padded]
  rfl

/-- Digits without a sign are read as a year. -/
theorem fieldNumber?_unsigned (hne : ds ≠ []) (hds : ∀ d ∈ ds, d.isDigit = true)
    (hwidth : ds.length ≤ 4) (hstop : ds.length = 4 ∨ ∀ c ∈ rest.head?, c.isDigit = false) :
    fieldNumber? .year (ds ++ rest) = some ((numeral 10 ds : Int), rest) := by
  have hunsigned := splitSign_digits hne hds rest
  rw [fieldNumber?, if_pos rfl, trimFront_digits hne hds]
  unfold yearNumber?
  split
  · rename_i more heq
    rw [heq] at hunsigned
    cases hunsigned
  · rename_i more heq
    rw [heq] at hunsigned
    exact absurd (congrArg Prod.snd hunsigned).symm (List.cons_ne_self _ _)
  · rw [number?_append hne hds hwidth hstop]
    rfl

/-- A year is read as one if no digit follows it. -/
theorem fieldNumber?_yearText (hrest : ∀ c ∈ rest.head?, c.isDigit = false) :
    fieldNumber? .year (yearText y ++ rest) = some (y, rest) := by
  have hdigits : ∀ d ∈ padded 4 y.natAbs, d.isDigit = true := fun _ => isDigit_of_mem_padded
  have hsigned : number? (padded 4 y.natAbs ++ rest).length (padded 4 y.natAbs ++ rest) =
      some (y.natAbs, rest) := by
    rw [number?_append (padded_ne_nil 4 _) hdigits (by simp) (.inr hrest), numeral_padded]
  rcases yearText_cases y with ⟨hy, htext⟩ | ⟨hy, hsmall, htext⟩ | ⟨hy, htext⟩ <;> rw [htext]
  · rw [fieldNumber?, if_pos rfl, trimFront_of_head (by rintro c ⟨⟩; rfl), List.cons_append,
      yearNumber?, hsigned]
    simp only [Option.map_some, Int.ofNat_natAbs_of_nonpos hy.le, neg_neg]
  · have hlength := length_padded (by decide) hsmall
    rw [fieldNumber?_unsigned (padded_ne_nil 4 _) hdigits hlength.le (.inl hlength),
      numeral_padded, Int.natAbs_of_nonneg hy]
  · rw [fieldNumber?, if_pos rfl, trimFront_of_head (by rintro c ⟨⟩; rfl), List.cons_append,
      yearNumber?, hsigned]
    simp only [Option.map_some, Int.natAbs_of_nonneg hy]

/-! ## Layouts -/

variable {items : Layout} {f : Fields}

/-- A date at the front of a text. -/
theorem fields?_isoDate (d : Date) :
    Layout.fields? (isoDate ++ items) f (d.text ++ rest) =
      items.fields? { f with year := d.year, month := d.month, day := d.day } rest := by
  have hhyphen (cs : List Char) : ∀ c ∈ ('-' :: cs).head?, c.isDigit = false := by
    rintro c ⟨⟩
    rfl
  simp only [isoDate, Date.text, List.append_assoc, List.cons_append, List.nil_append,
    Layout.fields?, fieldNumber?_yearText (hhyphen _), fieldNumber?_padded, ne_eq, reduceCtorEq,
    not_false_eq_true, d.month_lt, d.day_lt, Option.bind_some, List.head?_cons, if_true,
    List.drop_one, List.tail_cons, Fields.set, Int.toNat_natCast]

/-- A date with slashes at the front of a text. -/
theorem fields?_slashDate (d : Date) (hrest : ∀ c ∈ rest.head?, c.isDigit = false) :
    Layout.fields? (slashDate ++ items) f
        (padded 2 d.month ++ '/' :: (padded 2 d.day ++ '/' :: (yearText d.year ++ rest))) =
      items.fields? { f with year := d.year, month := d.month, day := d.day } rest := by
  simp only [slashDate, List.cons_append, List.nil_append, Layout.fields?,
    fieldNumber?_yearText hrest, fieldNumber?_padded, ne_eq, reduceCtorEq, not_false_eq_true,
    d.month_lt, d.day_lt, Option.bind_some, List.head?_cons, if_true, List.drop_one,
    List.tail_cons, Fields.set, Int.toNat_natCast]

/-- A clock reading at the end of a text. -/
theorem fields?_fullClock {hour minute second : Nat} (hhour : hour < 10 ^ 2)
    (hminute : minute < 10 ^ 2) (hsecond : second < 10 ^ 2) :
    Layout.fields? fullClock f
        (padded 2 hour ++ ':' :: (padded 2 minute ++ ':' :: padded 2 second)) =
      some { f with hour := hour, minute := minute, second := second } := by
  have hlast : fieldNumber? .second (padded 2 second) = some ((second : Int), []) := by
    have hsecond' : fieldNumber? .second (padded 2 second ++ []) = some ((second : Int), []) :=
      fieldNumber?_padded (by decide) hsecond
    rwa [List.append_nil] at hsecond'
  simp only [fullClock, clock, List.cons_append, List.nil_append, Layout.fields?, hlast,
    fieldNumber?_padded, ne_eq, reduceCtorEq, not_false_eq_true, hhour, hminute, Option.bind_some,
    List.head?_cons, if_true, List.drop_one, List.tail_cons, Fields.set, Int.toNat_natCast,
    List.isEmpty_nil]

/-! ## Layouts that refuse a text -/

/-- The number before a slash is no year. -/
theorem isoDate_refuses {month : Nat} (hmonth : month < 10 ^ 2) :
    Layout.read? (isoDate ++ items) (padded 2 month ++ '/' :: rest) = none := by
  have hslash : ∀ c ∈ ('/' :: rest).head?, c.isDigit = false := by
    rintro c ⟨⟩
    rfl
  have hlength := length_padded (by decide) hmonth
  have hyear : fieldNumber? .year (padded 2 month ++ '/' :: rest) =
      some ((numeral 10 (padded 2 month) : Int), '/' :: rest) :=
    fieldNumber?_unsigned (padded_ne_nil 2 month) (fun _ => isDigit_of_mem_padded) (by omega)
      (.inr hslash)
  simp [Layout.read?, isoDate, Layout.fields?, hyear]

/-- A text that begins with a sign has no digits in front. -/
theorem digits_sign {c : Char} {cs : List Char} (hc : c.isDigit = false) :
    ((c :: cs).take width).takeWhile Char.isDigit = [] := by
  cases width with
  | zero => rfl
  | succ width => rw [List.take_succ_cons, List.takeWhile_cons_of_neg (by simp [hc])]

/-- The year before a hyphen is no month: it has a sign, or more than two digits. -/
theorem slashDate_refuses :
    Layout.read? (slashDate ++ items) (yearText y ++ '-' :: rest) = none := by
  have hsigned {c : Char} {cs : List Char} (hblank : isBlank c = false) (hc : c.isDigit = false) :
      number? 2 (trimFront (c :: cs)) = none := by
    rw [trimFront_of_head (by rintro d ⟨⟩; exact hblank), number?, digits_sign hc]
    rfl
  have hmonth : ∀ z tail, fieldNumber? .month (yearText y ++ '-' :: rest) = some (z, tail) →
      tail.head? ≠ some '/' := by
    intro z tail h hslash
    rw [fieldNumber?, if_neg (by decide)] at h
    obtain ⟨⟨n, tail'⟩, hn, heq⟩ := Option.map_eq_some_iff.1 h
    obtain ⟨-, rfl⟩ := Prod.mk.inj heq
    rcases yearText_cases y with ⟨-, htext⟩ | ⟨-, hsmall, htext⟩ | ⟨-, htext⟩ <;> rw [htext] at hn
    · rw [List.cons_append, hsigned rfl rfl] at hn
      cases hn
    · -- a slash behind two digits of the year would be one of its digits
      rw [trimFront_digits (padded_ne_nil 4 _) fun _ => isDigit_of_mem_padded] at hn
      obtain ⟨ds, -, htwo, -, -, hcs⟩ := number?_eq_some hn
      obtain ⟨more, rfl⟩ := List.head?_eq_some_iff.1 hslash
      have hlength := length_padded (by decide) hsmall
      have hdigit : ('/' : Char).isDigit = true :=
        isDigit_of_mem_padded (mem_front hcs (by omega))
      cases hdigit
    · rw [List.cons_append, hsigned rfl rfl] at hn
      cases hn
  rw [Layout.read?, slashDate, List.cons_append, Layout.fields?]
  cases hfield : fieldNumber? .month (yearText y ++ '-' :: rest) with
  | none => rfl
  | some found =>
    obtain ⟨z, tail⟩ := found
    simp [Layout.fields?, hmonth z tail hfield]

/-- The internet form has four digits in front. -/
theorem readInternet?_slash {month : Nat} (hmonth : month < 10 ^ 2) :
    readInternet? (padded 2 month ++ '/' :: rest) = none := by
  have hslash : ∀ c ∈ ('/' :: rest).head?, c.isDigit = false := by
    rintro c ⟨⟩
    rfl
  have hlength := length_padded (by decide) hmonth
  rw [readInternet?, exactNumber?_eq_none (fun _ => isDigit_of_mem_padded) (by omega) hslash]
  rfl

/-- The internet form does not end with the day. -/
theorem readInternet?_dateText (d : Date) : readInternet? d.text = none := by
  have hsigned {c : Char} {cs : List Char} (hc : c.isDigit = false) :
      readInternet? (c :: cs) = none := by
    rw [readInternet?, exactNumber?, digits_sign hc]
    rfl
  rcases yearText_cases d.year with ⟨-, htext⟩ | ⟨-, hsmall, htext⟩ | ⟨-, htext⟩
  · rw [Date.text, htext, List.append_assoc, List.cons_append, hsigned rfl]
  · rw [Option.eq_none_iff_forall_ne_some]
    intro t h
    have hlength := length_of_readInternet? h
    simp [Date.text, htext, length_padded _ hsmall, length_padded _ d.month_lt,
      length_padded _ d.day_lt] at hlength
  · rw [Date.text, htext, List.append_assoc, List.cons_append, hsigned rfl]

/-! ## The moments -/

/-- The fields of a moment without a fraction denote it. -/
theorem moment?_self {t : DateTime} (h : t.nano = 0) :
    Fields.moment? ⟨t.date.year, t.date.month, t.date.day, t.hour, t.minute, t.secondOfMinute, 0⟩ =
      some t := by
  have hsecond := t.second_lt
  have hclock : t.hour < 24 ∧ t.minute < 60 ∧ t.secondOfMinute < 60 ∧
      t.hour * 3600 + t.minute * 60 + t.secondOfMinute = t.second := by
    simp only [DateTime.hour, DateTime.minute, DateTime.secondOfMinute]
    omega
  obtain ⟨hhour, hminute, hseconds, htotal⟩ := hclock
  rw [Fields.moment?, Date.make?_self, Option.bind_some, if_neg hseconds.ne, DateTime.make?,
    if_pos ⟨hhour, hminute, hseconds, .inl (Nat.pow_pos (by decide))⟩, htotal, DateTime.ofSecond?,
    dif_pos ⟨hsecond, Nat.pos_of_neZero _⟩]
  simp only [← h]

/-! ## Texts -/

/-- The text of a date has no blanks. -/
theorem trimChars_dateText (d : Date) : trimChars d.text = d.text := by
  have hpadded {width n : Nat} : ∀ c ∈ padded width n, isBlank c = false :=
    fun c hc => isBlank_of_isDigit (isDigit_of_mem_padded hc)
  have hyear : ∀ c ∈ yearText d.year, isBlank c = false := by
    rcases yearText_cases d.year with ⟨-, htext⟩ | ⟨-, -, htext⟩ | ⟨-, htext⟩ <;> rw [htext]
    · exact List.forall_mem_cons.2 ⟨rfl, hpadded⟩
    · exact hpadded
    · exact List.forall_mem_cons.2 ⟨rfl, hpadded⟩
  have hall : ∀ c ∈ d.text, isBlank c = false :=
    List.forall_mem_append.2 ⟨List.forall_mem_append.2 ⟨hyear, List.forall_mem_cons.2
      ⟨rfl, hpadded⟩⟩, List.forall_mem_cons.2 ⟨rfl, hpadded⟩⟩
  exact trimChars_of_ends (fun c hc => hall c (List.mem_of_mem_head? hc))
    fun c hc => hall c (List.mem_of_mem_getLast? hc)

/-- The text of a date-time begins and ends with digits. -/
theorem trimChars_text (t : DateTime) : trimChars t.text = t.text := by
  have hpadded {width n : Nat} : ∀ c ∈ padded width n, isBlank c = false :=
    fun c hc => isBlank_of_isDigit (isDigit_of_mem_padded hc)
  refine trimChars_of_ends (fun c hc => ?_) fun c hc => ?_
  · simp only [DateTime.text, List.append_assoc,
      List.head?_append_of_ne_nil _ (padded_ne_nil 2 _)] at hc
    exact hpadded c (List.mem_of_mem_head? hc)
  · rw [DateTime.text, List.getLast?_append_of_ne_nil _ (List.cons_ne_nil _ _),
      List.getLast?_cons_of_ne_nil (padded_ne_nil 2 _)] at hc
    exact hpadded c (List.mem_of_mem_getLast? hc)

/-- The text of a date is read as its midnight. -/
theorem read?_dateText (d : Date) : read? (String.ofList d.text) = some (.midnight d) := by
  -- the layouts in front of that of a bare date go on with a clock, or begin with a month
  have hslash (items : Layout) : Layout.read? (slashDate ++ items) d.text = none := by
    rw [Date.text, List.append_assoc]
    exact slashDate_refuses
  have hiso (items : Layout) : Layout.read? (isoDate ++ items) d.text =
      (items.fields? { Fields.empty with year := d.year, month := d.month, day := d.day } []).bind
        Fields.moment? := by
    rw [Layout.read?, ← fields?_isoDate, List.append_nil]
  have hliteral (items : Layout) :
      Layout.read? (isoDate ++ .literal 'T' :: items) d.text = none := by
    rw [hiso]
    rfl
  have hblanks (items : Layout) :
      Layout.read? (isoDate ++ .blanks :: .field .hour :: items) d.text = none := by
    rw [hiso]
    rfl
  have hdate : Layout.read? isoDate d.text = some (.midnight d) := by
    have hmidnight := moment?_self (t := .midnight d) rfl
    simp only [DateTime.midnight, DateTime.hour, DateTime.minute, DateTime.secondOfMinute,
      Nat.zero_div, Nat.zero_mod] at hmidnight
    rw [← List.append_nil isoDate, hiso, Layout.fields?, List.isEmpty_nil, if_pos rfl,
      Option.bind_some, Fields.empty, hmidnight]
    rfl
  rw [read?, String.toList_ofList, trimChars_dateText, readInternet?_dateText]
  simp only [layouts, fullClock, clock, List.append_assoc, List.cons_append, List.nil_append,
    List.findSome?_cons, hliteral, hblanks, hslash, hdate, Option.orElse]

/-- The text of a moment without a fraction is read as that moment. -/
theorem read?_text {t : DateTime} (h : t.nano = 0) : read? (String.ofList t.text) = some t := by
  have htext : t.text = padded 2 t.date.month ++ '/' :: (padded 2 t.date.day ++ '/' ::
      (yearText t.date.year ++ ' ' :: (padded 2 t.hour ++ ':' :: (padded 2 t.minute ++
        ':' :: padded 2 t.secondOfMinute)))) := by
    simp only [DateTime.text, h, Nat.zero_div, Nat.add_zero, List.append_assoc, List.cons_append]
  have hiso (items : Layout) : Layout.read? (isoDate ++ items) t.text = none := by
    rw [htext]
    exact isoDate_refuses t.date.month_lt
  have hclock : t.hour < 10 ^ 2 ∧ t.minute < 10 ^ 2 ∧ t.secondOfMinute < 10 ^ 2 := by
    have hsecond := t.second_lt
    simp only [DateTime.hour, DateTime.minute, DateTime.secondOfMinute]
    omega
  have hslash : Layout.read? (slashDate ++ .blanks :: fullClock) t.text = some t := by
    have hblank : ∀ c ∈ (' ' :: (padded 2 t.hour ++ ':' :: (padded 2 t.minute ++
        ':' :: padded 2 t.secondOfMinute))).head?, c.isDigit = false := by
      rintro c ⟨⟩
      rfl
    have htrim (cs : List Char) : trimFront (' ' :: cs) = trimFront cs := rfl
    rw [Layout.read?, htext, fields?_slashDate t.date hblank, Layout.fields?, htrim,
      trimFront_digits (padded_ne_nil 2 _) fun _ => isDigit_of_mem_padded,
      fields?_fullClock hclock.1 hclock.2.1 hclock.2.2, Option.bind_some, Fields.empty,
      moment?_self h]
  rw [read?, String.toList_ofList, trimChars_text, htext, readInternet?_slash t.date.month_lt,
    ← htext]
  simp only [layouts, List.append_assoc, List.findSome?_cons, hiso, hslash, Option.orElse]

end Time

end GatedPredicate
