import GatedPredicate.Json.Printer
import GatedPredicate.Json.Reader
import GatedPredicate.Proofs.Text.Numerals

/-!
# JSON text is read back

What is written for a JSON value is read as that value: strings over any text, whatever needs an
escape in them, natural numbers of 64 bits, and arrays and objects that are not nested too deeply.
Doubles and negative numbers are left aside.

- `Ends`: what may stand behind a value
- `readString?_quoted`, `readNumber?_natural`: the leaves
- `enclosed?_joined`: items with commas between them, for any reader that reads each item back
- `Plain`: the values that are read back, with a bound on their nesting
- `read?_text`: whole texts
-/

namespace GatedPredicate.Json

open GatedPredicate.Number GatedPredicate.Text

/-! ## Strings -/

/-- A control character is read back from its escape. -/
theorem unicodeEscape?_control {n : Nat} (h : n < 32) (rest : List Char) :
    unicodeEscape? ('0' :: '0' :: hexPair n ++ rest) = some (Char.ofNat n, rest) := by
  have hdigits : ∀ n ∈ List.range 32, ('0' :: '0' :: hexPair n).all isHexDigit = true ∧
      numeral 16 ('0' :: '0' :: hexPair n) = n ∧ n.isValidChar := by decide
  obtain ⟨hall, hvalue, hvalid⟩ := hdigits n (List.mem_range.2 h)
  have hunit : codeUnit? ('0' :: '0' :: hexPair n ++ rest) = some (n, rest) := by
    have htake : ('0' :: '0' :: hexPair n ++ rest).take 4 = '0' :: '0' :: hexPair n := rfl
    rw [codeUnit?, htake, if_pos ⟨rfl, hall⟩, hvalue]
    rfl
  rw [unicodeEscape?, hunit, Option.bind_some]
  dsimp only
  rw [if_neg (by omega), scalar?, if_pos hvalid]
  rfl

/-- A character is read back from what stands for it in a literal. -/
theorem stringTail?_escaped (fuel : Nat) (taken : List Char) (c : Char) (rest : List Char) :
    stringTail? (fuel + 1) taken (escaped c ++ rest) = stringTail? fuel (c :: taken) rest := by
  unfold escaped
  split
  · rfl
  · rfl
  · rfl
  · rfl
  · rfl
  · rename_i hquote hbackslash _ _ _
    split
    · rename_i hbackspace
      subst hbackspace
      rfl
    · split
      · rename_i hformFeed
        subst hformFeed
        rfl
      · split
        · rename_i hcontrol
          have hread := unicodeEscape?_control hcontrol rest
          rw [Char.ofNat_toNat] at hread
          have hescape : escape? ('u' :: '0' :: '0' :: hexPair c.toNat ++ rest) = some (c, rest) :=
            hread
          rw [List.cons_append, stringTail?, hescape]
          rfl
        · rename_i hplain
          rw [List.singleton_append, stringTail?]
          · rw [if_neg hplain]
          · exact hquote
          · exact hbackslash

theorem length_le_escaped (cs : List Char) : cs.length ≤ (cs.flatMap escaped).length := by
  induction cs with
  | nil => exact Nat.le_refl _
  | cons c rest ih =>
    have hpos : 0 < (escaped c).length := by
      unfold escaped
      split
      · exact Nat.succ_pos _
      · exact Nat.succ_pos _
      · exact Nat.succ_pos _
      · exact Nat.succ_pos _
      · exact Nat.succ_pos _
      · split_ifs <;> exact Nat.succ_pos _
    rw [List.flatMap_cons, List.length_append, List.length_cons]
    omega

/-- The body of a literal is read back up to its closing quote. -/
theorem stringTail?_flatMap (cs taken rest : List Char) {fuel : Nat} (h : cs.length < fuel) :
    stringTail? fuel taken (cs.flatMap escaped ++ '"' :: rest) =
      some (String.ofList (taken.reverse ++ cs), rest) := by
  obtain ⟨fuel, rfl⟩ := Nat.exists_eq_succ_of_ne_zero (Nat.ne_zero_of_lt h)
  induction cs generalizing taken fuel with
  | nil => rw [List.append_nil]; rfl
  | cons c more ih =>
    rw [List.flatMap_cons, List.append_assoc, stringTail?_escaped]
    have hfuel : more.length < fuel := Nat.lt_of_succ_lt_succ h
    obtain ⟨fuel, rfl⟩ := Nat.exists_eq_succ_of_ne_zero (Nat.ne_zero_of_lt hfuel)
    rw [ih _ _ hfuel, List.reverse_cons, List.append_assoc, List.singleton_append]

theorem readString?_quoted (s : String) (rest : List Char) :
    readString? (quoted s ++ rest) = some (s, rest) := by
  have hlength := length_le_escaped s.toList
  have hbody : quoted s ++ rest = '"' :: (s.toList.flatMap escaped ++ '"' :: rest) := by
    simp [quoted]
  rw [hbody, readString?, stringTail?_flatMap]
  · simp
  · simp only [List.length_append, List.length_cons]
    omega

/-! ## Numbers -/

/-- Further digits make no number smaller. -/
theorem le_foldl_digits (ds : List Char) (value : Nat) :
    value ≤ ds.foldl (fun total c => total * 10 + digitValue c) value := by
  induction ds generalizing value with
  | nil => exact Nat.le_refl _
  | cons d rest ih =>
    have hstep : value ≤ value * 10 + digitValue d := by omega
    exact hstep.trans (ih _)

/-- Digits are taken up as long as the number fits 64 bits. -/
theorem wholeDigits_of_lt (ds : List Char) (value : Nat) (exponent : Int)
    (h : ds.foldl (fun total c => total * 10 + digitValue c) value < 2 ^ 64) :
    wholeDigits ⟨value, exponent⟩ ds =
      ⟨ds.foldl (fun total c => total * 10 + digitValue c) value, exponent⟩ := by
  induction ds generalizing value with
  | nil => rfl
  | cons d rest ih =>
    have hfits : Significand.fits ⟨value, exponent⟩ d = true :=
      decide_eq_true (Nat.lt_of_le_of_lt (le_foldl_digits rest _) h)
    rw [wholeDigits, if_pos hfits]
    exact ih _ h

/-- No digits of a number but those of zero begin with a zero. -/
theorem head?_toDigits {n : Nat} (h : n ≠ 0) : (Nat.toDigits 10 n).head? ≠ some '0' := by
  induction n using Nat.strongRecOn with
  | ind n ih =>
    rcases Nat.lt_or_ge n 10 with hsmall | hlarge
    · have hdigit : ∀ k ∈ List.range 10, k ≠ 0 → [k.digitChar].head? ≠ some '0' := by decide
      rw [Nat.toDigits_of_lt_base hsmall]
      exact hdigit n (List.mem_range.2 hsmall) h
    · rw [Nat.toDigits_of_base_le (by decide) hlarge,
        List.head?_append_of_ne_nil _ Nat.toDigits_ne_nil]
      exact ih _ (Nat.div_lt_self (Nat.pos_of_ne_zero h) (by decide)) (by omega)

/-- What may stand behind a value: the end, a comma or a closing bracket. -/
def Ends (rest : List Char) : Prop :=
  ∀ c ∈ rest.head?, c = ',' ∨ c = ']' ∨ c = '\x7d'

theorem Ends.isDigit {rest : List Char} (h : Ends rest) : ∀ c ∈ rest.head?, c.isDigit = false := by
  intro c hc
  rcases h c hc with rfl | rfl | rfl <;> rfl

/-- A number without point and exponent ends where its digits end. -/
theorem numberTail?_natural {value : Nat} {rest : List Char} (h : Ends rest) :
    numberTail? false ⟨value, 0⟩ rest = some (.natural (UInt64.ofNat value), rest) := by
  cases rest with
  | nil => rfl
  | cons c more => rcases h c rfl with rfl | rfl | rfl <;> rfl

theorem readNumber?_natural (n : UInt64) {rest : List Char} (h : Ends rest) :
    readNumber? ((Number.natural n).text ++ rest) = some (.natural n, rest) := by
  have htext : (Number.natural n).text = Nat.toDigits 10 n.toNat := Nat.toList_repr
  have hvalue : numeral 10 (Nat.toDigits 10 n.toNat) = n.toNat :=
    numeral_toDigits (by decide) (by decide) _
  have hwhole : wholeDigits ⟨0, 0⟩ (Nat.toDigits 10 n.toNat) = ⟨n.toNat, 0⟩ := by
    rw [wholeDigits_of_lt _ _ _ (hvalue.trans_lt n.toNat_lt)]
    exact congrArg (Significand.mk · 0) hvalue
  have hunsigned : unsignedNumber? false (Nat.toDigits 10 n.toNat ++ rest) =
      some (.natural n, rest) := by
    unfold unsignedNumber?
    rw [takeWhile_until (fun _ => isDigit_of_mem_toDigits) h.isDigit]
    dsimp only
    split
    · rename_i hnil
      exact absurd hnil Nat.toDigits_ne_nil
    · rename_i hzeros
      by_cases hn : n.toNat = 0
      · rw [hn] at hzeros
        cases hzeros
      · exact absurd (congrArg List.head? hzeros) (head?_toDigits hn)
    · rw [hwhole, List.drop_left, numberTail?_natural h, UInt64.ofNat_toNat]
  rw [htext, readNumber?]
  · exact hunsigned
  · intro more hminus
    obtain ⟨d, ds, hds⟩ := List.exists_cons_of_ne_nil (Nat.toDigits_ne_nil (b := 10) (n := n.toNat))
    have hdigit : d.isDigit = true := isDigit_of_mem_toDigits (hds ▸ List.mem_cons_self)
    rw [hds] at hminus
    cases hminus
    cases hdigit

/-! ## Items with commas between them -/

/-- How a text of a value may begin: with neither a blank nor a closing bracket. -/
def Begins (text : List Char) : Prop :=
  ∃ c more, text = c :: more ∧ isSpace c = false ∧ c ≠ ']' ∧ c ≠ '\x7d'

theorem skipSpace_cons {c : Char} (h : isSpace c = false) (rest : List Char) :
    skipSpace (c :: rest) = c :: rest := by
  rw [skipSpace, List.dropWhile_cons_of_neg (by simp [h])]

theorem Begins.skipSpace_append {text : List Char} (h : Begins text) (rest : List Char) :
    skipSpace (text ++ rest) = text ++ rest := by
  obtain ⟨c, more, rfl, hspace, -⟩ := h
  exact skipSpace_cons hspace _

section Items

variable {α : Type} {item : Reader α} {print : α → List Char} {close : Char}

/-- The texts of items with commas between them. -/
def joined (print : α → List Char) : List α → List Char
  | [] => []
  | x :: xs => print x ++ commaBefore (joined print xs)

/-- A reader of items gives an item back from its text. -/
structure ReadsBack (item : Reader α) (print : α → List Char) (x : α) : Prop where
  begins : Begins (print x)
  read : ∀ rest, Ends rest → item (print x ++ rest) = some (x, rest)

theorem joined_cons_cons {x y : α} {ys : List α} (hy : Begins (print y)) :
    joined print (x :: y :: ys) = print x ++ ',' :: joined print (y :: ys) := by
  obtain ⟨c, more, hprint, -⟩ := hy
  rw [joined, joined, hprint]
  rfl

theorem begins_joined {x : α} {xs : List α} (hx : Begins (print x)) :
    Begins (joined print (x :: xs)) := by
  obtain ⟨c, more, hprint, hc⟩ := hx
  exact ⟨c, more ++ commaBefore (joined print xs), by rw [joined, hprint]; rfl, hc⟩

/-- Items are read back up to the bracket that closes them. -/
theorem sepBy?_joined (hclose : close = ']' ∨ close = '\x7d') (rest : List Char) {x : α}
    {xs : List α} (h : ∀ y ∈ x :: xs, ReadsBack item print y) :
    sepBy? item close (joined print (x :: xs) ++ close :: rest) = some (x :: xs, rest) := by
  have hx := h x List.mem_cons_self
  induction xs generalizing x with
  | nil =>
    have hends : Ends (close :: rest) := by
      rintro c ⟨⟩
      exact .inr hclose
    have hspace : isSpace close = false := by rcases hclose with rfl | rfl <;> rfl
    have htext : joined print [x] = print x := List.append_nil _
    rw [htext, sepBy?, hx.read _ hends]
    dsimp only
    rw [skipSpace_cons hspace]
    dsimp only
    rw [if_pos rfl]
  | cons y ys ih =>
    have hy := h y (List.mem_cons_of_mem _ List.mem_cons_self)
    have hends : Ends (',' :: (joined print (y :: ys) ++ close :: rest)) := by
      rintro c ⟨⟩
      exact .inl rfl
    have hcomma : ',' ≠ close := by rcases hclose with rfl | rfl <;> decide
    have hmore := ih (fun z hz => h z (List.mem_cons_of_mem _ hz)) hy
    rw [joined_cons_cons hy.begins, List.append_assoc, List.cons_append, sepBy?, hx.read _ hends]
    dsimp only
    rw [skipSpace_cons rfl]
    dsimp only
    rw [if_neg hcomma, if_pos ⟨rfl, by simp; omega⟩, (begins_joined hy.begins).skipSpace_append,
      hmore]
    rfl

/-- So are no items at all. -/
theorem enclosed?_joined (hclose : close = ']' ∨ close = '\x7d') (rest : List Char) {xs : List α}
    (h : ∀ x ∈ xs, ReadsBack item print x) :
    enclosed? item close (joined print xs ++ close :: rest) = some (xs, rest) := by
  cases xs with
  | nil =>
    have hspace : isSpace close = false := by rcases hclose with rfl | rfl <;> rfl
    rw [joined, List.nil_append, enclosed?, skipSpace_cons hspace]
    exact if_pos rfl
  | cons x xs =>
    have hbegins : Begins (joined print (x :: xs)) := begins_joined (h x List.mem_cons_self).begins
    have hread := sepBy?_joined hclose rest h
    rw [enclosed?, hbegins.skipSpace_append]
    obtain ⟨c, more, htext, -, hbracket, hbrace⟩ := hbegins
    rw [htext] at hread ⊢
    rw [List.cons_append] at hread ⊢
    dsimp only
    rw [if_neg, hread]
    rcases hclose with rfl | rfl
    · exact hbracket
    · exact hbrace

end Items

/-! ## Values -/

mutual

/-- Whether all numbers of a value are natural and its arrays and objects are at most so many
levels deep. -/
def Plain : Nat → Json → Prop
  | _, .null | _, .bool _ | _, .string _ | _, .number (.natural _) => True
  | _, .number (.negative _) | _, .number (.double _ _) => False
  | 0, .array _ | 0, .object _ => False
  | levels + 1, .array items => PlainAll levels items
  | levels + 1, .object fields => PlainFields levels fields

/-- The same for all values of a list. -/
def PlainAll (levels : Nat) : List Json → Prop
  | [] => True
  | j :: rest => Plain levels j ∧ PlainAll levels rest

/-- The same for the values of fields. -/
def PlainFields (levels : Nat) : List (String × Json) → Prop
  | [] => True
  | f :: rest => Plain levels f.2 ∧ PlainFields levels rest

end

theorem plainAll_map {α : Type} {levels : Nat} {f : α → Json} {xs : List α}
    (h : ∀ x ∈ xs, Plain levels (f x)) : PlainAll levels (xs.map f) := by
  induction xs with
  | nil => trivial
  | cons x rest ih =>
    exact ⟨h x List.mem_cons_self, ih fun y hy => h y (List.mem_cons_of_mem _ hy)⟩

/-- The text of a field. -/
def fieldChars (f : String × Json) : List Char :=
  quoted f.1 ++ ':' :: f.2.chars

theorem charsAll_eq (items : List Json) : charsAll items = joined chars items := by
  induction items with
  | nil => rfl
  | cons j rest ih => rw [charsAll, joined, ih]

theorem charsFields_eq (fields : List (String × Json)) :
    charsFields fields = joined fieldChars fields := by
  induction fields with
  | nil => rfl
  | cons f rest ih => rw [charsFields, joined, ih, fieldChars, List.append_assoc]

theorem begins_quoted (s : String) (rest : List Char) : Begins (quoted s ++ rest) :=
  ⟨'"', _, rfl, rfl, by decide, by decide⟩

/-- Digits begin a text of their own kind. -/
theorem value?_digit (levels : Nat) {d : Char} (h : d.isDigit = true) (rest : List Char) :
    value? levels (d :: rest) =
      (readNumber? (d :: rest)).map fun (n, rest) => (.number n, rest) := by
  -- no other kind of value begins with a digit
  rw [value?]
  all_goals
    rintro _ ⟨⟩
    cases h

theorem natural_text (n : UInt64) :
    ∃ d more, (Number.natural n).text = d :: more ∧ d.isDigit = true := by
  have htext : (Number.natural n).text = Nat.toDigits 10 n.toNat := Nat.toList_repr
  have hne : (Number.natural n).text ≠ [] := htext ▸ Nat.toDigits_ne_nil
  obtain ⟨d, more, hcons⟩ := List.exists_cons_of_ne_nil hne
  have hmem : d ∈ Nat.toDigits 10 n.toNat := htext ▸ hcons ▸ List.mem_cons_self
  exact ⟨d, more, hcons, isDigit_of_mem_toDigits hmem⟩

/-- No text of a plain value begins with a blank or a closing bracket. -/
theorem begins_chars {levels : Nat} {j : Json} (h : Plain levels j) : Begins j.chars := by
  match j with
  | .null | .bool true | .bool false | .array _ | .object _ =>
    exact ⟨_, _, rfl, rfl, by decide, by decide⟩
  | .string s => exact ⟨_, _, rfl, rfl, by decide, by decide⟩
  | .number (.natural n) =>
    obtain ⟨d, more, htext, hdigit⟩ := natural_text n
    refine ⟨d, more, htext, ?_, ?_, ?_⟩
    · by_contra hspace
      simp only [isSpace, Bool.not_eq_false, Bool.or_eq_true, beq_iff_eq] at hspace
      rcases hspace with ((rfl | rfl) | rfl) | rfl <;> cases hdigit
    · rintro rfl
      cases hdigit
    · rintro rfl
      cases hdigit

mutual

/-- A plain value is read back from its text. -/
theorem readsBack_value {levels : Nat} {j : Json} (h : Plain levels j) :
    ReadsBack (value? levels) chars j := by
  refine ⟨begins_chars h, fun rest hends => ?_⟩
  match levels, j, h with
  | _, .null, _ | _, .bool true, _ | _, .bool false, _ =>
    rw [chars, List.cons_append, value?]
    rfl
  | levels, .string s, _ =>
    have hread : value? levels (quoted s ++ rest) =
        (readString? (quoted s ++ rest)).map fun (s, rest) => (.string s, rest) := by
      rw [quoted, List.cons_append, List.cons_append, value?]
    rw [chars, hread, readString?_quoted]
    rfl
  | levels, .number (.natural n), _ =>
    obtain ⟨d, more, htext, hdigit⟩ := natural_text n
    have hread := readNumber?_natural n hends
    rw [chars, htext, List.cons_append] at *
    rw [value?_digit levels hdigit, hread]
    rfl
  | levels + 1, .array items, h =>
    have hread : value? (levels + 1) ('[' :: (charsAll items ++ ']' :: rest)) =
        (enclosed? (value? levels) ']' (charsAll items ++ ']' :: rest)).map
          fun (xs, rest) => (.array xs, rest) := rfl
    rw [charsAll_eq, enclosed?_joined (.inl rfl) rest (readsBack_all h)] at hread
    rw [chars, charsAll_eq, List.cons_append, List.cons_append, List.append_assoc]
    exact hread
  | levels + 1, .object fields, h =>
    have hread : value? (levels + 1) ('\x7b' :: (charsFields fields ++ '\x7d' :: rest)) =
        (enclosed? (fieldWith? (value? levels)) '\x7d' (charsFields fields ++ '\x7d' :: rest)).map
          fun (xs, rest) => (.object xs, rest) := rfl
    rw [charsFields_eq, enclosed?_joined (.inr rfl) rest (readsBack_fields h)] at hread
    rw [chars, charsFields_eq, List.cons_append, List.cons_append, List.append_assoc]
    exact hread

/-- So are the items of an array, -/
theorem readsBack_all {levels : Nat} {items : List Json} (h : PlainAll levels items) :
    ∀ j ∈ items, ReadsBack (value? levels) chars j := by
  match items with
  | [] => exact nofun
  | j :: rest =>
    exact List.forall_mem_cons.2 ⟨readsBack_value h.1, readsBack_all h.2⟩

/-- and the fields of an object. -/
theorem readsBack_fields {levels : Nat} {fields : List (String × Json)}
    (h : PlainFields levels fields) :
    ∀ f ∈ fields, ReadsBack (fieldWith? (value? levels)) fieldChars f := by
  match fields with
  | [] => exact nofun
  | (name, j) :: more =>
    have hj : ReadsBack (value? levels) chars j := readsBack_value h.1
    refine List.forall_mem_cons.2 ⟨⟨begins_quoted name _, fun rest hends => ?_⟩,
      readsBack_fields h.2⟩
    have htext : fieldChars (name, j) ++ rest = quoted name ++ (':' :: (j.chars ++ rest)) := by
      simp [fieldChars]
    rw [htext, fieldWith?, readString?_quoted, Option.bind_some]
    dsimp only
    rw [skipSpace_cons rfl]
    change (value? levels (skipSpace (j.chars ++ rest))).map _ = _
    rw [hj.begins.skipSpace_append, hj.read rest hends]
    rfl

end

/-! ## Whole texts -/

/-- The text of a plain value is read as that value. -/
theorem read?_text {j : Json} (h : Plain maxLevels j) : read? j.text = some j := by
  have hends : Ends [] := nofun
  have hj := readsBack_value h
  have hread := hj.read [] hends
  have hskip := hj.begins.skipSpace_append []
  rw [List.append_nil] at hread hskip
  rw [read?, text, String.toList_ofList, hskip, hread]
  rfl

end GatedPredicate.Json
