import GatedPredicate.Proofs.Syntax.RoundTrip

/-!
# The grammar of text literals

Which texts are strings and characters, in their plain and in their verbatim form, and what they
stand for. The readers accept exactly these, in their first form that is closed. One kind of escape
is in the grammar in two forms, told apart by `signed`: where four digits are due, the reader also
takes a plus sign and three digits.

- `Escapes`, `Piece`, `StringBody`, `VerbatimBody`, `TextLiteral`: the grammar
- `Escapes.read`, `StringBody.read`, `VerbatimBody.read`, `Piece.readChar`: what is in the grammar
  is read to its end
- `exists_escape`, `exists_stringBody`, `exists_verbatimBody`, `exists_charPiece`: what is read is
  in the grammar
- `KeepsStep`: the bytes that are counted are those of the characters
- `TextLiteral.lexFrom`, `lexFrom_refused`: literals as lexemes
- `text_literals_exact`
-/

namespace GatedPredicate.Syntax

open GatedPredicate.Text

variable {signed : Bool} {c d : Char} {cs ds after rest text : List Char} {n : Nat}

/-! ## The grammar -/

/-- The letters that stand for a character after a backslash, each with the code of it. -/
def letterEscapes : List (Char × Nat) :=
  [('\\', 0x5C), ('"', 0x22), ('\'', 0x27), ('0', 0x00), ('a', 0x07), ('b', 0x08), ('f', 0x0C),
    ('n', 0x0A), ('r', 0x0D), ('t', 0x09), ('v', 0x0B)]

/-- Hexadecimal digits with the value of a character. -/
structure IsCodeOf (c : Char) (ds : List Char) : Prop where
  digits : ∀ d ∈ ds, isHexDigit d = true
  value : numeral 16 ds = c.toNat

/-- `Escapes signed after c cs`: a backslash and `cs` stand for `c`, if `after` comes next. Only the
escapes of `x` look at what comes next, since they go on for as long as they can. -/
inductive Escapes (signed : Bool) (after : List Char) (c : Char) : List Char → Prop
  | letter {l : Char} : (l, c.toNat) ∈ letterEscapes → Escapes signed after c [l]
  | four {ds : List Char} : ds.length = 4 → IsCodeOf c ds → Escapes signed after c ('u' :: ds)
  | plus {ds : List Char} : signed = true → ds.length = 3 → IsCodeOf c ds →
      Escapes signed after c ('u' :: '+' :: ds)
  | longest {ds : List Char} : ds ≠ [] → ds.length ≤ 4 → IsCodeOf c ds →
      (ds.length < 4 → ∀ d ∈ after.head?, isHexDigit d = false) →
      Escapes signed after c ('x' :: ds)

/-- One character of a literal: itself, unless it is the quote, a backslash or a line end, or an
escape. -/
inductive Piece (signed : Bool) (quote : Char) (after : List Char) (c : Char) : List Char → Prop
  | plain : c ≠ quote → c ≠ '\\' → c ≠ '\n' → Piece signed quote after c [c]
  | escape {cs : List Char} : Escapes signed after c cs → Piece signed quote after c ('\\' :: cs)

/-- The characters of a string and its closing quote. -/
inductive StringBody (signed : Bool) : List Char → List Char → Prop
  | close : StringBody signed [] ['"']
  | cons {c : Char} {text piece cs : List Char} : Piece signed '"' cs c piece →
      StringBody signed text cs → StringBody signed (c :: text) (piece ++ cs)

/-- The characters of a verbatim string and its closing quote: a quote is doubled, everything else
stands for itself. -/
inductive VerbatimBody : List Char → List Char → Prop
  | close : VerbatimBody [] ['"']
  | quote {text cs : List Char} : VerbatimBody text cs →
      VerbatimBody ('"' :: text) ('"' :: '"' :: cs)
  | plain {c : Char} {text cs : List Char} : c ≠ '"' → VerbatimBody text cs →
      VerbatimBody (c :: text) (c :: cs)

/-- `TextLiteral signed rest l cs`: the literal `l` may be written as `cs`, if `rest` comes next. A
verbatim string is not at its end where another quote follows. -/
inductive TextLiteral (signed : Bool) (rest : List Char) : Literal → List Char → Prop
  | string {text cs : List Char} : StringBody signed text cs →
      TextLiteral signed rest (.string (String.ofList text)) ('"' :: cs)
  | verbatim {text cs : List Char} : VerbatimBody text cs → rest.head? ≠ some '"' →
      TextLiteral signed rest (.string (String.ofList text)) ('@' :: '"' :: cs)
  | char {c : Char} {piece : List Char} : Piece signed '\'' ['\''] c piece →
      TextLiteral signed rest (.char c) ('\'' :: (piece ++ ['\'']))

/-! ## Escapes -/

theorem simpleEscape?_iff {l : Char} :
    simpleEscape? l = some c ↔ (l, c.toNat) ∈ letterEscapes := by
  have hcode (k : Nat) (hk : c.toNat = k) : Char.ofNat k = c := by rw [← hk, Char.ofNat_toNat]
  constructor
  · intro h
    unfold simpleEscape? at h
    split at h <;> cases h <;> decide
  · intro h
    simp only [letterEscapes, List.mem_cons, Prod.mk.injEq, List.not_mem_nil, or_false] at h
    rcases h with ⟨rfl, hc⟩ | ⟨rfl, hc⟩ | ⟨rfl, hc⟩ | ⟨rfl, hc⟩ | ⟨rfl, hc⟩ | ⟨rfl, hc⟩ |
      ⟨rfl, hc⟩ | ⟨rfl, hc⟩ | ⟨rfl, hc⟩ | ⟨rfl, hc⟩ | ⟨rfl, hc⟩ <;>
      rw [← hcode _ hc] <;> rfl

/-- A number is the code of at most one character. -/
theorem scalar?_iff : scalar? n = some c ↔ n = c.toNat := by
  unfold scalar?
  constructor
  · intro h
    split at h
    · rename_i hvalid
      rw [← Option.some.inj h, Char.ofNat, dif_pos hvalid]
      rfl
    · cases h
  · rintro rfl
    have hvalid : c.toNat.isValidChar := c.valid
    rw [if_pos hvalid, Char.ofNat_toNat]

/-- A hexadecimal numeral is digits, perhaps after a plus sign, which is none of them. -/
theorem hexNumeral?_iff :
    hexNumeral? cs = some n ↔
      ∃ ds, (cs = ds ∨ cs = '+' :: ds) ∧ ds ≠ [] ∧ (∀ d ∈ ds, isHexDigit d = true) ∧
        numeral 16 ds = n := by
  have hdigits (ds : List Char) :
      (if !ds.isEmpty && ds.all isHexDigit then some (numeral 16 ds) else none) = some n ↔
        ds ≠ [] ∧ (∀ d ∈ ds, isHexDigit d = true) ∧ numeral 16 ds = n := by
    rw [Option.ite_none_right_eq_some]
    simp [and_assoc]
  unfold hexNumeral?
  dsimp only
  rw [hdigits]
  split
  · rename_i ds
    constructor
    · exact fun h => ⟨ds, .inr rfl, h⟩
    · rintro ⟨_, rfl | hds, hne, hall, hvalue⟩
      · cases hall '+' List.mem_cons_self
      · obtain ⟨-, rfl⟩ := List.cons.inj hds
        exact ⟨hne, hall, hvalue⟩
  · rename_i hplus
    constructor
    · exact fun h => ⟨cs, .inl rfl, h⟩
    · rintro ⟨ds, rfl | rfl, h⟩
      · exact h
      · exact absurd rfl (hplus ds)

/-- What a numeral of an escape leads to. -/
theorem hexScalar?_map_iff {k : Nat} :
    ((hexScalar? cs).map fun c => (c, rest, k)) = some (c, after, n) ↔
      (∃ ds, (cs = ds ∨ cs = '+' :: ds) ∧ ds ≠ [] ∧ IsCodeOf c ds) ∧ rest = after ∧ k = n := by
  simp only [hexScalar?, Option.map_eq_some_iff, Option.bind_eq_some_iff, hexNumeral?_iff,
    scalar?_iff, Prod.mk.injEq]
  constructor
  · rintro ⟨d, ⟨n, ⟨ds, hcs, hne, hall, hvalue⟩, hd⟩, rfl, hrest⟩
    exact ⟨⟨ds, hcs, hne, hall, hvalue.trans hd⟩, hrest⟩
  · rintro ⟨⟨ds, hcs, hne, hall, hvalue⟩, hrest⟩
    exact ⟨c, ⟨_, ⟨ds, hcs, hne, hall, rfl⟩, hvalue⟩, rfl, hrest⟩

theorem utf8Size_of_isHexDigit (h : isHexDigit c = true) : c.utf8Size = 1 := by
  rw [Char.utf8Size_eq_one_iff]
  unfold isHexDigit hexDigit? at h
  split at h
  · rename_i hle
    exact UInt32.le_trans hle.2 (by decide)
  split at h
  · rename_i hle
    exact UInt32.le_trans hle.2 (by decide)
  split at h
  · rename_i hle
    exact UInt32.le_trans hle.2 (by decide)
  · cases h

/-- Hexadecimal digits take one byte each. -/
theorem IsCodeOf.utf8Width (h : IsCodeOf c ds) : Text.utf8Width ds = ds.length := by
  obtain ⟨hall, -⟩ := h
  induction ds with
  | nil => rfl
  | cons d ds ih =>
    obtain ⟨hd, hall⟩ := List.forall_mem_cons.1 hall
    rw [utf8Width_cons, utf8Size_of_isHexDigit hd, ih hall, List.length_cons, Nat.add_comm]

/-- Only the first of the characters that follow counts. -/
theorem Escapes.congr {after' : List Char} (h : Escapes signed after c cs)
    (hhead : after'.head? = after.head?) : Escapes signed after' c cs := by
  cases h with
  | letter hl => exact .letter hl
  | four hlength hcode => exact .four hlength hcode
  | plus hsigned hlength hcode => exact .plus hsigned hlength hcode
  | longest hne hlength hcode hend => exact .longest hne hlength hcode (hhead ▸ hend)

/-- Text that allows no sign may as well be read where one is allowed. -/
theorem Escapes.lenient (h : Escapes signed after c cs) : Escapes true after c cs := by
  cases h with
  | letter hl => exact .letter hl
  | four hlength hcode => exact .four hlength hcode
  | plus _ hlength hcode => exact .plus rfl hlength hcode
  | longest hne hlength hcode hend => exact .longest hne hlength hcode hend

/-- At most four digits, and as many as there are. -/
theorem takeWhile_take_four (hlength : ds.length ≤ 4) (hall : ∀ d ∈ ds, isHexDigit d = true)
    (hend : ds.length < 4 → ∀ d ∈ after.head?, isHexDigit d = false) :
    ((ds ++ after).take 4).takeWhile isHexDigit = ds := by
  rw [List.take_append, List.take_of_length_le hlength]
  refine takeWhile_until hall fun d hd => ?_
  rw [List.head?_take] at hd
  split at hd
  · cases hd
  · exact hend (by omega) d hd

/-- Fewer than four digits end where a character that is none comes next. -/
theorem head_after_take_four (hshort : ((cs.take 4).takeWhile isHexDigit).length < 4) :
    ∀ d ∈ ((cs.take 4).dropWhile isHexDigit ++ cs.drop 4).head?, isHexDigit d = false := by
  intro d hd
  have hsplit := List.takeWhile_append_dropWhile (p := isHexDigit) (l := cs.take 4)
  cases hstop : (cs.take 4).dropWhile isHexDigit with
  | nil =>
    -- all of the text is digits
    rw [hstop, List.append_nil] at hsplit
    rw [hsplit, List.length_take] at hshort
    rw [hstop, List.drop_eq_nil_of_le (by omega)] at hd
    cases hd
  | cons e more =>
    refine head_dropWhile isHexDigit (cs.take 4) d ?_
    rw [hstop] at hd ⊢
    exact hd

/-- An escape is read to its end. -/
theorem Escapes.read (h : Escapes true after c cs) :
    escape? (cs ++ after) = some (c, after, utf8Width cs) := by
  cases h with
  | letter hl =>
    rw [utf8Width_singleton]
    exact escape?_letter (simpleEscape?_iff.2 hl) after
  | @four ds hlength hcode =>
    have htake : (ds ++ after).take 4 = ds := by rw [← hlength, List.take_left]
    have hdrop : (ds ++ after).drop 4 = after := by rw [← hlength, List.drop_left]
    have hne : ds ≠ [] := List.ne_nil_of_length_pos (by omega)
    rw [List.cons_append, escape?, htake, if_pos (hcode.utf8Width.trans hlength),
      hexScalar?_map_iff]
    exact ⟨⟨ds, .inl rfl, hne, hcode⟩, hdrop, (utf8Width_cons _ _).symm⟩
  | @plus ds _ hlength hcode =>
    have hall : ('+' :: ds).length = 4 := by rw [List.length_cons, hlength]
    have htake : ('+' :: ds ++ after).take 4 = '+' :: ds := by rw [← hall, List.take_left]
    have hdrop : ('+' :: ds ++ after).drop 4 = after := by rw [← hall, List.drop_left]
    have hwidth : utf8Width ('+' :: ds) = 4 := by rw [utf8Width_cons, hcode.utf8Width, hlength]; rfl
    have hne : ds ≠ [] := List.ne_nil_of_length_pos (by omega)
    rw [List.cons_append, escape?, htake, if_pos hwidth, hexScalar?_map_iff]
    exact ⟨⟨ds, .inr rfl, hne, hcode⟩, hdrop, (utf8Width_cons _ _).symm⟩
  | @longest ds hne hlength hcode hend =>
    rw [List.cons_append, escape?, takeWhile_take_four hlength hcode.digits hend,
      hexScalar?_map_iff]
    exact ⟨⟨ds, .inl rfl, hne, hcode⟩, List.drop_left, (utf8Width_cons _ _).symm⟩

/-- What is read as an escape is one, and its bytes are those of its characters. -/
theorem exists_escape (h : escape? cs = some (c, after, n)) :
    ∃ spelled, cs = spelled ++ after ∧ n = utf8Width spelled ∧ Escapes true after c spelled := by
  unfold escape? at h
  split at h
  · cases h
  · -- `u`
    rename_i more
    obtain ⟨hwidth, h⟩ := Option.ite_none_right_eq_some.1 h
    obtain ⟨⟨ds, hds, hne, hcode⟩, rfl, rfl⟩ := hexScalar?_map_iff.1 h
    refine ⟨'u' :: more.take 4, ?_, (utf8Width_cons _ _).symm, ?_⟩
    · rw [List.cons_append, List.take_append_drop]
    · -- a numeral of four bytes has four characters
      rcases hds with hds | hds
      · rw [hds] at hwidth ⊢
        exact .four (hcode.utf8Width.symm.trans hwidth) hcode
      · rw [hds, utf8Width_cons, hcode.utf8Width] at hwidth
        rw [hds]
        exact .plus rfl (Nat.add_left_cancel hwidth) hcode
  · -- `x`
    rename_i more
    obtain ⟨⟨ds, hds, hne, hcode⟩, hafter, rfl⟩ := hexScalar?_map_iff.1 h
    have hall : ∀ d ∈ (more.take 4).takeWhile isHexDigit, isHexDigit d = true :=
      fun d hd => List.mem_takeWhile_imp hd
    obtain rfl : (more.take 4).takeWhile isHexDigit = ds := by
      refine hds.resolve_right fun hplus => ?_
      rw [hplus] at hall
      cases hall '+' List.mem_cons_self
    have hlength : ((more.take 4).takeWhile isHexDigit).length ≤ 4 :=
      (List.takeWhile_sublist _).length_le.trans (List.length_take_le 4 more)
    have hsplit : (more.take 4).takeWhile isHexDigit ++
        ((more.take 4).dropWhile isHexDigit ++ more.drop 4) = more := by
      rw [← List.append_assoc, List.takeWhile_append_dropWhile, List.take_append_drop]
    obtain rfl : (more.take 4).dropWhile isHexDigit ++ more.drop 4 = after := by
      rw [← hafter]
      conv_rhs => arg 2; rw [← hsplit]
      exact List.drop_left.symm
    refine ⟨'x' :: (more.take 4).takeWhile isHexDigit, ?_, (utf8Width_cons _ _).symm,
      .longest hne hlength hcode head_after_take_four⟩
    rw [List.cons_append, hsplit]
  · -- a letter
    rename_i l more hu hx
    obtain ⟨d, hd, heq⟩ := Option.map_eq_some_iff.1 h
    obtain ⟨rfl, hrest⟩ := Prod.mk.inj heq
    obtain ⟨rfl, rfl⟩ := Prod.mk.inj hrest
    exact ⟨[l], rfl, (utf8Width_singleton l).symm, .letter (simpleEscape?_iff.1 hd)⟩

/-! ## Bodies -/

theorem Piece.lenient {quote : Char} (h : Piece signed quote after c cs) :
    Piece true quote after c cs := by
  cases h with
  | plain hquote hslash hline => exact .plain hquote hslash hline
  | escape h => exact .escape h.lenient

theorem StringBody.lenient (h : StringBody signed text cs) : StringBody true text cs := by
  induction h with
  | close => exact .close
  | cons hpiece _ ih => exact .cons hpiece.lenient ih

theorem StringBody.ne_nil (h : StringBody signed text cs) : cs ≠ [] := by
  cases h with
  | close => exact List.cons_ne_nil _ _
  | cons hpiece _ => cases hpiece <;> exact List.cons_ne_nil _ _

/-- A body looks no further than its closing quote. -/
theorem StringBody.head?_append (h : StringBody signed text cs) (rest : List Char) :
    (cs ++ rest).head? = cs.head? :=
  List.head?_append_of_ne_nil _ h.ne_nil

/-- A string is read to its closing quote. -/
theorem StringBody.read (h : StringBody true text cs) (rest : List Char) :
    stringBody? (cs ++ rest) = some (text, utf8Width cs) := by
  induction h with
  | close => simp [stringBody?, utf8Width_cons]
  | @cons c text piece cs hpiece hbody ih =>
    cases hpiece with
    | plain hquote hslash hline => simp [stringBody?, ih, utf8Width_cons]
    | @escape spelled hescape =>
      have hread := stringBody?_escape (hescape.congr (hbody.head?_append rest)).read
      rw [ih] at hread
      simp [hread, utf8Width_cons, utf8Width_append, Nat.add_assoc]

/-- What is read as a string is one, and its bytes are those of its characters. -/
theorem exists_stringBody (h : stringBody? cs = some (text, n)) :
    ∃ body rest, cs = body ++ rest ∧ n = utf8Width body ∧ StringBody true text body := by
  fun_induction stringBody? cs generalizing text n with
  | case1 => cases h
  | case2 more =>
    obtain ⟨rfl, rfl⟩ := Prod.mk.inj (Option.some.inj h)
    exact ⟨['"'], more, rfl, rfl, .close⟩
  | case3 => cases h
  | case4 => cases h
  | case5 more c after bytes hescape ih =>
    obtain ⟨⟨tail, k⟩, htail, heq⟩ := Option.map_eq_some_iff.1 h
    obtain ⟨rfl, rfl⟩ := Prod.mk.inj heq
    obtain ⟨spelled, rfl, rfl, hspelled⟩ := exists_escape hescape
    obtain ⟨body, rest, rfl, rfl, hbody⟩ := ih htail
    have hpiece := hspelled.congr (hbody.head?_append rest).symm
    refine ⟨'\\' :: spelled ++ body, rest, by simp, ?_, .cons (.escape hpiece) hbody⟩
    rw [utf8Width_append, utf8Width_cons]
  | case6 c more hquote hline hslash ih =>
    obtain ⟨⟨tail, k⟩, htail, heq⟩ := Option.map_eq_some_iff.1 h
    obtain ⟨rfl, rfl⟩ := Prod.mk.inj heq
    obtain ⟨body, rest, rfl, rfl, hbody⟩ := ih htail
    exact ⟨[c] ++ body, rest, rfl, (utf8Width_cons _ _).symm,
      .cons (.plain hquote hslash hline) hbody⟩

/-- A verbatim string is read to the first quote that is not doubled. -/
theorem VerbatimBody.read (h : VerbatimBody text cs) (hrest : rest.head? ≠ some '"') :
    verbatimBody? (cs ++ rest) = some (text, utf8Width cs) := by
  induction h with
  | close =>
    cases rest with
    | nil => rfl
    | cons c more =>
      have hc : c ≠ '"' := fun hc => hrest (by rw [hc]; rfl)
      simp [verbatimBody?, hc]
  | quote _ ih =>
    rw [List.cons_append, List.cons_append, verbatimBody?, ih, Option.map_some, utf8Width_cons,
      utf8Width_cons, ← Nat.add_assoc]
    rfl
  | plain hc _ ih =>
    rw [List.cons_append, verbatimBody?.eq_4 _ _ (fun _ h _ => hc h) hc, ih, Option.map_some,
      utf8Width_cons]

/-- What is read as a verbatim string is one, and its bytes are those of its characters. -/
theorem exists_verbatimBody (h : verbatimBody? cs = some (text, n)) :
    ∃ body rest, cs = body ++ rest ∧ n = utf8Width body ∧ VerbatimBody text body ∧
      rest.head? ≠ some '"' := by
  fun_induction verbatimBody? cs generalizing text n with
  | case1 => cases h
  | case2 more ih =>
    obtain ⟨⟨tail, k⟩, htail, heq⟩ := Option.map_eq_some_iff.1 h
    obtain ⟨rfl, rfl⟩ := Prod.mk.inj heq
    obtain ⟨body, rest, rfl, rfl, hbody, hrest⟩ := ih htail
    refine ⟨'"' :: '"' :: body, rest, rfl, ?_, .quote hbody, hrest⟩
    rw [utf8Width_cons, utf8Width_cons, ← Nat.add_assoc]
    rfl
  | case3 more hmore =>
    obtain ⟨rfl, rfl⟩ := Prod.mk.inj (Option.some.inj h)
    refine ⟨['"'], more, rfl, rfl, .close, fun hhead => ?_⟩
    obtain ⟨rest, rfl⟩ := List.head?_eq_some_iff.1 hhead
    exact hmore rest rfl
  | case4 c more _ hc ih =>
    obtain ⟨⟨tail, k⟩, htail, heq⟩ := Option.map_eq_some_iff.1 h
    obtain ⟨rfl, rfl⟩ := Prod.mk.inj heq
    obtain ⟨body, rest, rfl, rfl, hbody, hrest⟩ := ih htail
    exact ⟨c :: body, rest, rfl, (utf8Width_cons _ _).symm, .plain hc hbody, hrest⟩

/-- A character is read with its closing quote. -/
theorem Piece.readChar (h : Piece true '\'' ['\''] c cs) (rest : List Char) :
    charBody? (cs ++ '\'' :: rest) = some (c, utf8Width (cs ++ ['\''])) := by
  rw [utf8Width_quoted]
  cases h with
  | plain hquote hslash hline => simp [charBody?]
  | @escape spelled hescape =>
    have hfollow : Escapes true ('\'' :: rest) c spelled := hescape.congr rfl
    have hread := hfollow.read
    simp [charBody?, hread, utf8Width_cons]

/-- What is read as a character is one, and its bytes are those of its characters. -/
theorem exists_charPiece (h : charBody? cs = some (c, n)) :
    ∃ piece rest, cs = piece ++ '\'' :: rest ∧ n = utf8Width (piece ++ ['\'']) ∧
      Piece true '\'' ['\''] c piece := by
  unfold charBody? at h
  split at h
  · cases h
  · cases h
  · cases h
  · rename_i more
    split at h
    · cases h
    rename_i d after bytes hescape
    rw [Option.ite_none_right_eq_some] at h
    obtain ⟨hclose, heq⟩ := h
    obtain ⟨rfl, rfl⟩ := Prod.mk.inj (Option.some.inj heq)
    obtain ⟨spelled, rfl, rfl, hspelled⟩ := exists_escape hescape
    obtain ⟨rest, rfl⟩ := List.head?_eq_some_iff.1 hclose
    refine ⟨'\\' :: spelled, rest, rfl, ?_, .escape (hspelled.congr rfl)⟩
    rw [utf8Width_quoted, utf8Width_cons]
  · rename_i d more hquote hline hslash
    rw [Option.ite_none_right_eq_some] at h
    obtain ⟨hclose, heq⟩ := h
    obtain ⟨rfl, rfl⟩ := Prod.mk.inj (Option.some.inj heq)
    obtain ⟨rest, rfl⟩ := List.head?_eq_some_iff.1 hclose
    refine ⟨[d], rest, rfl, ?_, .plain hquote hslash hline⟩
    rw [utf8Width_quoted, utf8Width_singleton]

/-! ## Bytes -/

/-- The bytes that a reader of quoted text counts are those of the characters it has passed. -/
def KeepsStep {α : Type} (read : List Char → Option (α × Nat)) : Prop :=
  ∀ ⦃cs value n⦄, read cs = some (value, n) → ∃ front back, cs = front ++ back ∧ n = utf8Width front

theorem stringBody?_keepsStep : KeepsStep stringBody? := by
  intro cs text n h
  obtain ⟨body, rest, hcs, hn, -⟩ := exists_stringBody h
  exact ⟨body, rest, hcs, hn⟩

theorem verbatimBody?_keepsStep : KeepsStep verbatimBody? := by
  intro cs text n h
  obtain ⟨body, rest, hcs, hn, -⟩ := exists_verbatimBody h
  exact ⟨body, rest, hcs, hn⟩

theorem charBody?_keepsStep : KeepsStep charBody? := by
  intro cs c n h
  obtain ⟨piece, rest, hcs, hn, -⟩ := exists_charPiece h
  exact ⟨piece ++ ['\''], rest, by rw [hcs, List.append_cons], hn⟩

/-- What was read ends where a character ends. -/
theorem KeepsStep.inCharacters?_eq_none {α : Type} {read : List Char → Option (α × Nat)}
    (h : KeepsStep read) : inCharacters? cs (read cs) = none ↔ read cs = none := by
  cases hread : read cs with
  | none => rw [inCharacters?_none]
  | some found =>
    obtain ⟨front, back, rfl, hn⟩ := h hread
    rw [show found = (found.1, utf8Width front) from Prod.ext rfl hn, inCharacters?_utf8Width]
    simp only [reduceCtorEq]

/-! ## Literals -/

variable {l : Literal}

theorem TextLiteral.lenient (h : TextLiteral signed rest l cs) : TextLiteral true rest l cs := by
  cases h with
  | string hbody => exact .string hbody.lenient
  | verbatim hbody hrest => exact .verbatim hbody hrest
  | char hpiece => exact .char hpiece.lenient

/-- What a text literal begins with, and the fault of a text that begins so and is none. -/
def openings : List (List Char × SyntaxFault) :=
  [(['"'], .malformedString), (['@', '"'], .malformedString), (['\''], .malformedChar)]

/-- A literal is scanned to its end. -/
theorem TextLiteral.scan (h : TextLiteral true rest l cs) :
    ∃ c more, cs = c :: more ∧ c ≠ '/' ∧
      Syntax.scan c (more ++ rest) = .ok (.literal l, more.length) := by
  cases h with
  | @string text cs hbody =>
    exact ⟨'"', cs, rfl, by decide, by rw [scan_string, hbody.read, inCharacters?_utf8Width]⟩
  | @verbatim text cs hbody hrest =>
    refine ⟨'@', '"' :: cs, rfl, by decide, ?_⟩
    rw [List.cons_append, scan_verbatimString, hbody.read hrest, inCharacters?_utf8Width,
      List.length_cons, Nat.add_comm]
  | @char c piece hpiece =>
    refine ⟨'\'', piece ++ ['\''], rfl, by decide, ?_⟩
    have hread := hpiece.readChar rest
    rw [List.append_cons] at hread
    rw [scan_char, hread, inCharacters?_utf8Width]

/-- A literal is one lexeme, whose range ends with its closing quote. -/
theorem TextLiteral.lexFrom (h : TextLiteral signed rest l cs) (pos : Nat) :
    Syntax.lexFrom pos (cs ++ rest) = (Syntax.lexFrom (pos + utf8Width cs) rest).map
      (⟨.literal l, ⟨pos, pos + utf8Width cs⟩⟩ :: ·) := by
  obtain ⟨c, more, rfl, hc, hscan⟩ := h.lenient.scan
  exact lexFrom_scan hscan (fun h => hc h.1) pos

/-- A text that no token is found in front of is an error there. -/
theorem lexFrom_error {e : ScanFault} (hscan : scan c rest = .error e)
    (hblank : isTokenBlank c = false) (hslash : c ≠ '/') (pos : Nat) :
    lexFrom pos (c :: rest) =
      .error ⟨e.fault, ⟨pos, pos + c.utf8Size + utf8Width (rest.take e.extra)⟩⟩ := by
  rw [lexFrom, if_neg (by rw [hblank]; decide), if_neg (fun h => hslash h.1), hscan]

/-- What begins like a literal and is none is an error at its beginning. -/
theorem lexFrom_refused {opening : List Char} {fault : SyntaxFault}
    (hopening : (opening, fault) ∈ openings)
    (hnone : ∀ l cs rest, opening ++ after = cs ++ rest → ¬ TextLiteral true rest l cs)
    (pos : Nat) :
    lexFrom pos (opening ++ after) = .error ⟨fault, ⟨pos, pos + opening.length⟩⟩ := by
  simp only [openings, List.mem_cons, Prod.mk.injEq, List.not_mem_nil, or_false] at hopening
  rcases hopening with ⟨rfl, rfl⟩ | ⟨rfl, rfl⟩ | ⟨rfl, rfl⟩
  · cases hbody : stringBody? after with
    | none =>
      have hscan : scan '"' after = .error ⟨.malformedString, 0⟩ := by
        rw [scan_string, hbody, inCharacters?_none]
      exact lexFrom_error hscan rfl (by decide) pos
    | some found =>
      obtain ⟨body, rest, rfl, -, hbody⟩ := exists_stringBody hbody
      exact absurd (.string hbody) (hnone _ ('"' :: body) rest rfl)
  · cases hbody : verbatimBody? after with
    | none =>
      have hscan : scan '@' ('"' :: after) = .error ⟨.malformedString, 1⟩ := by
        rw [scan_verbatimString, hbody, inCharacters?_none]
      exact lexFrom_error hscan rfl (by decide) pos
    | some found =>
      obtain ⟨body, rest, rfl, -, hbody, hrest⟩ := exists_verbatimBody hbody
      exact absurd (.verbatim hbody hrest) (hnone _ ('@' :: '"' :: body) rest rfl)
  · cases hbody : charBody? after with
    | none =>
      have hscan : scan '\'' after = .error ⟨.malformedChar, 0⟩ := by
        rw [scan_char, hbody, inCharacters?_none]
      exact lexFrom_error hscan rfl (by decide) pos
    | some found =>
      obtain ⟨piece, rest, rfl, -, hpiece⟩ := exists_charPiece hbody
      exact absurd (.char hpiece) (hnone _ ('\'' :: (piece ++ ['\''])) rest (by simp))

/-- Where scanning fails no literal stands in front. -/
theorem not_textLiteral_of_scan {e : ScanFault} (hscan : scan c after = .error e)
    (heq : c :: after = cs ++ rest) : ¬ TextLiteral true rest l cs := by
  intro h
  obtain ⟨d, more, rfl, -, hread⟩ := h.scan
  obtain ⟨rfl, rfl⟩ := List.cons.inj heq
  cases hscan.symm.trans hread

/-! ## Plus signs -/

/-- The beginning of an escape with a plus sign. -/
def signedEscape : List Char :=
  ['\\', 'u', '+']

/-- A piece that needs the plus sign allowed has one. -/
theorem Piece.strict {quote : Char} (h : Piece true quote after c cs) :
    Piece false quote after c cs ∨ signedEscape <+: cs := by
  cases h with
  | plain hquote hslash hline => exact .inl (.plain hquote hslash hline)
  | escape h =>
    cases h with
    | letter hl => exact .inl (.escape (.letter hl))
    | four hlength hcode => exact .inl (.escape (.four hlength hcode))
    | @plus ds _ hlength hcode => exact .inr ⟨ds, rfl⟩
    | longest hne hlength hcode hend => exact .inl (.escape (.longest hne hlength hcode hend))

theorem StringBody.strict (h : StringBody true text cs) :
    StringBody false text cs ∨ signedEscape <:+: cs := by
  induction h with
  | close => exact .inl .close
  | @cons c text piece cs hpiece _ ih =>
    rcases hpiece.strict with hpiece | hplus
    · rcases ih with hbody | hplus
      · exact .inl (.cons hpiece hbody)
      · exact .inr (hplus.trans (List.suffix_append piece cs).isInfix)
    · exact .inr (hplus.isInfix.trans (List.prefix_append piece cs).isInfix)

theorem TextLiteral.strict (h : TextLiteral true rest l cs) :
    TextLiteral false rest l cs ∨ signedEscape <:+: cs := by
  cases h with
  | string hbody =>
    rcases hbody.strict with hbody | hplus
    · exact .inl (.string hbody)
    · exact .inr (hplus.trans (List.suffix_cons _ _).isInfix)
  | verbatim hbody hrest => exact .inl (.verbatim hbody hrest)
  | @char c piece hpiece =>
    rcases hpiece.strict with hpiece | hplus
    · exact .inl (.char hpiece)
    · have hwithin : piece <:+: '\'' :: (piece ++ ['\'']) := ⟨['\''], ['\''], by simp⟩
      exact .inr (hplus.isInfix.trans hwithin)

/-- No string of the grammar begins with such an escape. -/
theorem not_textLiteral_of_signedEscape (heq : '"' :: (signedEscape ++ after) = cs ++ rest) :
    ¬ TextLiteral false rest l cs := by
  intro h
  cases h with
  | @string text cs hbody =>
    have heq := (List.cons.inj heq).2
    cases hbody with
    | close => cases heq
    | @cons c text piece cs hpiece hbody =>
      cases hpiece with
      | plain hquote hslash hline => exact hslash (List.cons.inj heq).1.symm
      | escape hescape =>
        have heq := (List.cons.inj heq).2
        cases hescape with
        | @letter l hl =>
          obtain rfl : 'u' = l := (List.cons.inj heq).1
          simp [letterEscapes] at hl
        | @four ds hlength hcode =>
          have hne : ds ≠ [] := List.ne_nil_of_length_pos (by omega)
          obtain ⟨d, more, rfl⟩ := List.exists_cons_of_ne_nil hne
          obtain rfl : '+' = d := (List.cons.inj (List.cons.inj heq).2).1
          cases hcode.digits '+' List.mem_cons_self
        | plus hsigned => cases hsigned
        | longest => cases (List.cons.inj heq).1
  | verbatim => cases (List.cons.inj heq).1
  | char => cases (List.cons.inj heq).1

/-! ## Whole texts -/

/-- A text literal of the grammar is one lexeme, in the middle of any text, and its range ends with
its closing quote. Where a text begins like a literal and has none in front, the error is at its
beginning, unless it has one in front that is not in the grammar for having a plus sign in place of
the first of four hexadecimal digits. -/
theorem text_literals_exact (pos : Nat) :
    (∀ l cs rest, TextLiteral false rest l cs →
      lexFrom pos (cs ++ rest) = (lexFrom (pos + utf8Width cs) rest).map
        (⟨.literal l, ⟨pos, pos + utf8Width cs⟩⟩ :: ·)) ∧
    ∀ opening fault after, (opening, fault) ∈ openings →
      (∀ l cs rest, opening ++ after = cs ++ rest → ¬ TextLiteral false rest l cs) →
      lexFrom pos (opening ++ after) = .error ⟨fault, ⟨pos, pos + opening.length⟩⟩ ∨
        ∃ l cs rest, opening ++ after = cs ++ rest ∧ TextLiteral true rest l cs ∧
          signedEscape <:+: cs ∧
          lexFrom pos (cs ++ rest) = (lexFrom (pos + utf8Width cs) rest).map
            (⟨.literal l, ⟨pos, pos + utf8Width cs⟩⟩ :: ·) := by
  refine ⟨fun l cs rest h => h.lexFrom pos, fun opening fault after hopening hnone => ?_⟩
  by_cases hlenient : ∃ l cs rest, opening ++ after = cs ++ rest ∧ TextLiteral true rest l cs
  · obtain ⟨l, cs, rest, heq, hl⟩ := hlenient
    have hplus := hl.strict.resolve_left (hnone l cs rest heq)
    exact .inr ⟨l, cs, rest, heq, hl, hplus, hl.lexFrom pos⟩
  · refine .inl (lexFrom_refused hopening (fun l cs rest heq hl => ?_) pos)
    exact hlenient ⟨l, cs, rest, heq, hl⟩

/-- A string with escapes of all forms, where `x` takes two digits, a verbatim string with another
token after it, and a text that is too long for a character. -/
theorem text_literals_exact_escapes :
    (TextLiteral false [] (.string "Aég\"") "\"\\x41\\u00e9g\\\"\"".toList ∧
      lex "\"\\x41\\u00e9g\\\"\"" = .ok [⟨.literal (.string "Aég\""), ⟨0, 15⟩⟩]) ∧
    (TextLiteral false [';'] (.string "\\\"") "@\"\\\"\"\"".toList ∧
      lex "@\"\\\"\"\";" =
        .ok [⟨.literal (.string "\\\""), ⟨0, 6⟩⟩, ⟨.symbol .semicolon, ⟨6, 7⟩⟩]) ∧
    ((['\''], .malformedChar) ∈ openings ∧
      (∀ l cs rest, "'ab'".toList = cs ++ rest → ¬ TextLiteral false rest l cs) ∧
      lex "'ab'" = .error ⟨.malformedChar, ⟨0, 1⟩⟩) := by
  obtain ⟨hlexed, hrefused⟩ := text_literals_exact 0
  have hbody : StringBody false ['A', 'é', 'g', '"']
      (['\\', 'x', '4', '1'] ++ (['\\', 'u', '0', '0', 'e', '9'] ++
        (['g'] ++ (['\\', '"'] ++ ['"'])))) :=
    .cons (.escape (.longest (by decide) (by decide) ⟨List.all_eq_true.1 rfl, rfl⟩
      (by simp [isHexDigit, hexDigit?]))) <|
      .cons (.escape (.four rfl ⟨List.all_eq_true.1 rfl, rfl⟩)) <|
        .cons (.plain (by decide) (by decide) (by decide)) <|
          .cons (.escape (.letter (by decide))) .close
  have hverbatim : VerbatimBody ['\\', '"'] ['\\', '"', '"', '"'] :=
    .plain (by decide) (.quote .close)
  have hstring : TextLiteral false [] (.string "Aég\"") "\"\\x41\\u00e9g\\\"\"".toList :=
    .string hbody
  refine ⟨⟨hstring, ?_⟩, ⟨.verbatim hverbatim (by decide), ?_⟩, ?_⟩
  · have hlex := hlexed _ _ _ hstring
    rw [List.append_nil] at hlex
    exact hlex.trans (by rw [lexFrom]; rfl)
  · have hlex := hlexed _ _ [';'] (.verbatim hverbatim (by decide))
    exact hlex.trans (by decide +kernel)
  · have hnone : ∀ l cs rest, "'ab'".toList = cs ++ rest → ¬ TextLiteral true rest l cs :=
      fun l cs rest => not_textLiteral_of_scan (e := ⟨.malformedChar, 0⟩) rfl
    have hopening : (['\''], .malformedChar) ∈ openings := by simp [openings]
    have hstrict : ∀ l cs rest, "'ab'".toList = cs ++ rest → ¬ TextLiteral false rest l cs :=
      fun l cs rest heq hl => hnone l cs rest heq hl.lenient
    refine ⟨hopening, hstrict, ?_⟩
    -- nor is there a literal with a plus sign
    refine (hrefused _ _ "ab'".toList hopening hstrict).resolve_right ?_
    rintro ⟨l, cs, rest, heq, hl, -⟩
    exact hnone l cs rest heq hl

/-- Four hexadecimal digits are due after `u`, but a plus sign and three digits are read too. -/
theorem plus_in_unicode_escape :
    lex "\"\\u+041\"" = .ok [⟨.literal (.string "A"), ⟨0, 8⟩⟩] ∧
      ∀ l cs rest, "\"\\u+041\"".toList = cs ++ rest → ¬ TextLiteral false rest l cs := by
  have hsplit : "\"\\u+041\"".toList = '"' :: (signedEscape ++ "041\"".toList) := rfl
  refine ⟨by decide +kernel, fun l cs rest heq => ?_⟩
  exact not_textLiteral_of_signedEscape (hsplit.symm.trans heq)

end GatedPredicate.Syntax
