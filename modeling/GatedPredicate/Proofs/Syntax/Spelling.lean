import GatedPredicate.Proofs.Syntax.Mention
import GatedPredicate.Proofs.Syntax.Ranges
import GatedPredicate.Proofs.Text.Numerals

/-!
# Spellings of tokens

How a token may be written, and that the lexer reads what is written. The longest token wins, so a
spelling is read for what it is only if what follows cannot continue it: the end of the text, a
blank, or the slash that begins a comment. Doubles are left aside, since many numerals round to the
same double.

- `Writes`: one character between quotes
- `Spells`: the spellings of a token
- `Spells.scan`: a spelling with an end after it is read as its token
- `exists_spelling`: each token that is read has a spelling
-/

namespace GatedPredicate.Syntax

open GatedPredicate.Number GatedPredicate.Text

/-! ## Spellings -/

/-- A run of decimal digits. -/
def IsDigits (cs : List Char) : Prop :=
  cs ≠ [] ∧ ∀ c ∈ cs, c.isDigit = true

/-- Digits, or digits on both sides of a point. -/
inductive IsDecimal : List Char → Prop
  | whole {ds : List Char} : IsDigits ds → IsDecimal ds
  | fraction {ds fs : List Char} : IsDigits ds → IsDigits fs → IsDecimal (ds ++ '.' :: fs)

/-- How a character may be written between quotes: as itself, unless it is such a quote, a backslash
or a line end, or as an escape of one letter. -/
inductive Writes (quote : Char) : Char → List Char → Prop
  | plain {c : Char} : c ≠ quote → c ≠ '\\' → c ≠ '\n' → Writes quote c [c]
  | escape {c letter : Char} : simpleEscape? letter = some c → Writes quote c ['\\', letter]

/-- Words that stand for tokens of their own. -/
def keywords : List (String × Token) :=
  [("true", .literal (.bool true)), ("false", .literal (.bool false)), ("null", .literal .null),
    ("typeof", .typeOf), ("new", .new)] ++ reservedWords.map fun w => (w, .reserved w)

/-- `Spells t cs`: the token `t` may be written as `cs`. -/
inductive Spells : Token → List Char → Prop
  | int {n : Int64} {ds : List Char} : IsDigits ds → n.toInt = Nat.ofDigitChars 10 ds 0 →
      Spells (.literal (.int n)) ds
  | uint {n : UInt64} {ds : List Char} : IsDigits ds → n.toNat = Nat.ofDigitChars 10 ds 0 →
      Spells (.literal (.uint n)) (ds ++ ['u'])
  | decimal {ds : List Char} : IsDecimal ds →
      Spells (.literal (.decimal (String.ofList ds))) (ds ++ ['m'])
  | string {text : List Char} {pieces : List (List Char)} :
      List.Forall₂ (Writes '"') text pieces →
      Spells (.literal (.string (String.ofList text))) ('"' :: (pieces.flatten ++ ['"']))
  | char {c : Char} {piece : List Char} : Writes '\'' c piece →
      Spells (.literal (.char c)) ('\'' :: (piece ++ ['\'']))
  | keyword {word : String} {t : Token} : (word, t) ∈ keywords → Spells t word.toList
  | ident {name : List Char} : isName name = true →
      (∀ k ∈ keywords, String.ofList name ≠ k.1) →
      Spells (.ident (String.ofList name)) name
  | verbatim {name : List Char} : isName name = true →
      Spells (.ident (String.ofList name)) ('@' :: name)
  | symbol {s : Symbol} : Spells (.symbol s) s.text.toList

/-! ## Ends of tokens -/

/-- The characters that end every token before them: blanks, and the slash of a comment. -/
def tokenEnds : List Char :=
  [' ', '\t', '\n', '\r', '/']

/-- What follows a spelling does not continue it. -/
def Stops (rest : List Char) : Prop :=
  ∀ c ∈ rest.head?, c ∈ tokenEnds

namespace Stops

variable {rest : List Char}

theorem head (h : Stops rest) (p : Char → Bool) (hp : ∀ c ∈ tokenEnds, p c = false) :
    ∀ c ∈ rest.head?, p c = false :=
  fun c hc => hp c (h c hc)

theorem startsWithAny (h : Stops rest) (options : List Char)
    (hoptions : ∀ c ∈ tokenEnds, options.contains c = false) :
    Syntax.startsWithAny rest options = false := by
  cases rest with
  | nil => rfl
  | cons c more => exact hoptions c (h c rfl)

theorem fractionLength (h : Stops rest) : Syntax.fractionLength rest = 0 := by
  unfold Syntax.fractionLength
  split
  · exact absurd (h '.' rfl) (by decide)
  · rfl

end Stops

theorem startsWithAny_cons (c : Char) (cs options : List Char) :
    startsWithAny (c :: cs) options = options.contains c := rfl

/-! ## Numerals -/

theorem scanHex?_digits {ds rest : List Char} (hds : IsDigits ds)
    (hrest : ∀ c ∈ rest.head?, (c == 'x' || c == 'X') = false) :
    scanHex? (ds ++ rest) = none := by
  obtain ⟨c, more, rfl⟩ := List.exists_cons_of_ne_nil hds.1
  -- the second character is a digit or the first one of the rest
  have hsecond : ∀ x ∈ (more ++ rest).head?, (x == 'x' || x == 'X') = false := by
    cases more with
    | nil => exact hrest
    | cons d ds =>
      intro x hx
      obtain rfl : d = x := by simpa using hx
      have hd : d.isDigit = true := hds.2 d (by simp)
      have hlower : d ≠ 'x' := by
        rintro rfl
        cases hd
      have hupper : d ≠ 'X' := by
        rintro rfl
        cases hd
      simp [hlower, hupper]
  unfold scanHex?
  split
  · rename_i x more' heq
    have hmore : more ++ rest = x :: more' := (List.cons.inj heq).2
    have hx := hsecond x (by rw [hmore]; rfl)
    rw [if_neg (by rw [hx]; decide)]
  · rfl

variable {ds fs rest : List Char}

theorem scanDecimal_int (hds : IsDigits ds) (hrest : Stops rest) :
    scanDecimal (ds ++ rest) = (.signed (numeral 10 ds), ds.length) := by
  have hwhole : (ds ++ rest).takeWhile Char.isDigit = ds :=
    takeWhile_until hds.2 (hrest.head _ (by simp [tokenEnds]))
  have hm := hrest.startsWithAny ['m', 'M'] (by simp [tokenEnds])
  have he := hrest.startsWithAny ['e', 'E'] (by simp [tokenEnds])
  have hd := hrest.startsWithAny ['d', 'D', 'f', 'F'] (by simp [tokenEnds])
  have hu := hrest.startsWithAny ['u', 'U'] (by simp [tokenEnds])
  have hl := hrest.startsWithAny ['l', 'L'] (by simp [tokenEnds])
  simp [scanDecimal, hwhole, hrest.fractionLength, exponentLength, unsignedSuffixLength, hm, he,
    hd, hu, hl]

theorem scanDecimal_uint (hds : IsDigits ds) (hrest : Stops rest) :
    scanDecimal (ds ++ ['u'] ++ rest) = (.unsigned (numeral 10 ds), (ds ++ ['u']).length) := by
  have hwhole : (ds ++ 'u' :: rest).takeWhile Char.isDigit = ds :=
    takeWhile_until hds.2 (by simp)
  have hl := hrest.startsWithAny ['l', 'L'] (by simp [tokenEnds])
  simp [scanDecimal, hwhole, fractionLength, exponentLength, unsignedSuffixLength,
    startsWithAny_cons, hl]

theorem scanDecimal_whole (hds : IsDigits ds) :
    scanDecimal (ds ++ ['m'] ++ rest) = (.decimal ds, (ds ++ ['m']).length) := by
  have hwhole : (ds ++ 'm' :: rest).takeWhile Char.isDigit = ds :=
    takeWhile_until hds.2 (by simp)
  simp [scanDecimal, hwhole, fractionLength, startsWithAny_cons]

theorem scanDecimal_fraction (hds : IsDigits ds) (hfs : IsDigits fs) :
    scanDecimal (ds ++ '.' :: fs ++ ['m'] ++ rest) =
      (.decimal (ds ++ '.' :: fs), (ds ++ '.' :: fs ++ ['m']).length) := by
  have hwhole : (ds ++ '.' :: (fs ++ 'm' :: rest)).takeWhile Char.isDigit = ds :=
    takeWhile_until hds.2 (by simp)
  have hplaces : (fs ++ 'm' :: rest).takeWhile Char.isDigit = fs :=
    takeWhile_until hfs.2 (by simp)
  have hfraction : fractionLength ('.' :: (fs ++ 'm' :: rest)) = 1 + fs.length := by
    simp [fractionLength, hplaces, hfs.1]
  have hlength : ds.length + (1 + fs.length) = (ds ++ '.' :: fs).length := by
    simp [Nat.add_comm]
  have hdrop : (ds ++ '.' :: (fs ++ 'm' :: rest)).drop (ds ++ '.' :: fs).length =
      'm' :: rest := by
    rw [← List.cons_append, ← List.append_assoc, List.drop_left]
  have htake : (ds ++ '.' :: (fs ++ 'm' :: rest)).take (ds ++ '.' :: fs).length =
      ds ++ '.' :: fs := by
    rw [← List.cons_append, ← List.append_assoc, List.take_left]
  have hsuffix : (ds ++ '.' :: fs ++ ['m']).length = (ds ++ '.' :: fs).length + 1 :=
    List.length_append
  rw [hsuffix, List.append_assoc, List.append_assoc, List.singleton_append, List.cons_append]
  simp only [scanDecimal, hwhole, List.drop_left, hfraction, hlength, hdrop, htake]
  rfl

/-- A numeral that does not start like a hexadecimal one is read as its literal. -/
theorem scan_numeral {cs : List Char} {n : Numeral} {l : Literal}
    (hdigit : ∃ d ∈ cs.head?, d.isDigit = true) (hhex : scanHex? (cs ++ rest) = none)
    (hread : scanDecimal (cs ++ rest) = (n, cs.length)) (hl : n.literal? = some l) :
    ∃ c more, cs = c :: more ∧ scan c (more ++ rest) = .ok (.literal l, more.length) := by
  obtain ⟨c, hc, hdigit⟩ := hdigit
  cases cs with
  | nil => cases hc
  | cons d more =>
    obtain rfl : d = c := Option.some.inj hc
    rw [List.cons_append] at hhex hread
    exact ⟨d, more, rfl, by simp [scan, hdigit, scanNumber, scanNumeral, hhex, hread, hl]⟩

theorem IsDigits.head (h : IsDigits ds) (tail : List Char) :
    ∃ d ∈ (ds ++ tail).head?, d.isDigit = true := by
  obtain ⟨d, more, rfl⟩ := List.exists_cons_of_ne_nil h.1
  exact ⟨d, rfl, h.2 d List.mem_cons_self⟩

/-! ## Words -/

theorem isDigit_of_isNameStart {c : Char} (h : isNameStart c = true) : c.isDigit = false := by
  rw [isNameStart, Bool.or_eq_true] at h
  rcases h with hletter | hline
  · refine Bool.eq_false_iff.2 fun hdigit => ?_
    rw [isAlpha_of_isDigit hdigit] at hletter
    cases hletter
  · obtain rfl := eq_of_beq hline
    rfl

theorem scan_word {cs : List Char} (hname : isName cs = true) (hrest : Stops rest) :
    ∃ c more, cs = c :: more ∧
      scan c (more ++ rest) = .ok (wordToken (String.ofList cs), more.length) := by
  cases cs with
  | nil => cases hname
  | cons c more =>
    simp only [isName, Bool.and_eq_true, List.all_eq_true] at hname
    obtain ⟨hstart, hparts⟩ := hname
    have hmore : (more ++ rest).takeWhile isNamePart = more :=
      takeWhile_until hparts (hrest.head _ (by simp [tokenEnds, isNamePart]))
    exact ⟨c, more, rfl, by simp [scan, isDigit_of_isNameStart hstart, hstart, hmore]⟩

theorem scan_verbatim {name : List Char} (hname : isName name = true) (hrest : Stops rest) :
    scan '@' (name ++ rest) = .ok (.ident (String.ofList name), name.length) := by
  cases name with
  | nil => cases hname
  | cons c more =>
    simp only [isName, Bool.and_eq_true, List.all_eq_true] at hname
    obtain ⟨hstart, hparts⟩ := hname
    have hall : ∀ x ∈ c :: more, isNamePart x = true :=
      List.forall_mem_cons.2 ⟨isNamePart_of_isNameStart hstart, hparts⟩
    have hname : (c :: (more ++ rest)).takeWhile isNamePart = c :: more :=
      takeWhile_until hall (hrest.head _ (by simp [tokenEnds, isNamePart]))
    have hquote : c ≠ '"' := by
      rintro rfl
      cases hstart
    change scanVerbatim (c :: (more ++ rest)) = _
    rw [scanVerbatim.eq_2 _ (by simpa using hquote)]
    simp [isName, hstart, hname]

theorem wordToken_keyword {word : String} {t : Token} (h : (word, t) ∈ keywords) :
    isName word.toList = true ∧ wordToken word = t := by
  have hnames : ∀ w ∈ reservedWords, isName w.toList = true := by decide +kernel
  have hothers : ∀ w ∈ reservedWords,
      w ≠ "true" ∧ w ≠ "false" ∧ w ≠ "null" ∧ w ≠ "typeof" ∧ w ≠ "new" := by decide +kernel
  -- reserved words come last, so none of them may be one of the five before
  rcases List.mem_append.1 h with hown | hreserved
  · simp only [List.mem_cons, Prod.mk.injEq, List.not_mem_nil, or_false] at hown
    rcases hown with ⟨rfl, rfl⟩ | ⟨rfl, rfl⟩ | ⟨rfl, rfl⟩ | ⟨rfl, rfl⟩ | ⟨rfl, rfl⟩ <;>
      exact ⟨by decide +kernel, rfl⟩
  · obtain ⟨w, hw, heq⟩ := List.mem_map.1 hreserved
    obtain ⟨rfl, rfl⟩ := Prod.mk.inj heq
    obtain ⟨htrue, hfalse, hnull, htypeof, hnew⟩ := hothers w hw
    refine ⟨hnames w hw, ?_⟩
    simp [wordToken, htrue, hfalse, hnull, htypeof, hnew, hw]

theorem wordToken_ident {word : String} (h : ∀ k ∈ keywords, word ≠ k.1) :
    wordToken word = .ident word := by
  simp only [keywords, List.forall_mem_append, List.forall_mem_cons, List.forall_mem_map] at h
  obtain ⟨⟨htrue, hfalse, hnull, htypeof, hnew, -⟩, hreserved⟩ := h
  have hfree : word ∉ reservedWords := fun hw => hreserved word hw rfl
  simp [wordToken, htrue, hfalse, hnull, htypeof, hnew, hfree]

/-! ## Quoted text -/

theorem escape?_letter {letter c : Char} (h : simpleEscape? letter = some c) (rest : List Char) :
    escape? (letter :: rest) = some (c, rest, letter.utf8Size) := by
  have hu : letter ≠ 'u' := by
    rintro rfl
    cases h
  have hx : letter ≠ 'x' := by
    rintro rfl
    cases h
  simp [escape?, h]

theorem stringBody?_pieces {text : List Char} {pieces : List (List Char)}
    (h : List.Forall₂ (Writes '"') text pieces) (rest : List Char) :
    stringBody? (pieces.flatten ++ '"' :: rest) =
      some (text, utf8Width (pieces.flatten ++ ['"'])) := by
  induction h with
  | nil => simp [stringBody?, utf8Width_cons]
  | @cons c piece text pieces hpiece _ ih =>
    cases hpiece with
    | plain hquote hslash hline => simp [stringBody?, ih, utf8Width_cons]
    | escape hletter =>
      have hread := stringBody?_escape (escape?_letter hletter (pieces.flatten ++ '"' :: rest))
      rw [ih] at hread
      simp [hread, utf8Width_cons, Nat.add_assoc]

/-- The closing quote of a character takes one byte. -/
theorem utf8Width_quoted (cs : List Char) : utf8Width (cs ++ ['\'']) = utf8Width cs + 1 :=
  utf8Width_append cs ['\'']

theorem charBody?_piece {c : Char} {piece : List Char} (h : Writes '\'' c piece)
    (rest : List Char) :
    charBody? (piece ++ '\'' :: rest) = some (c, utf8Width (piece ++ ['\''])) := by
  rw [utf8Width_quoted]
  cases h with
  | plain => simp [charBody?]
  | escape hletter => simp [charBody?, escape?_letter hletter, utf8Width_cons]

theorem scan_string (cs : List Char) :
    scan '"' cs =
      match inCharacters? cs (stringBody? cs) with
      | some (text, taken) => .ok (.literal (.string (String.ofList text)), taken)
      | none => .error ⟨.malformedString, 0⟩ :=
  rfl

theorem scan_verbatimString (cs : List Char) :
    scan '@' ('"' :: cs) =
      match inCharacters? cs (verbatimBody? cs) with
      | some (text, taken) => .ok (.literal (.string (String.ofList text)), 1 + taken)
      | none => .error ⟨.malformedString, 1⟩ :=
  rfl

theorem scan_char (cs : List Char) :
    scan '\'' cs =
      match inCharacters? cs (charBody? cs) with
      | some (c, taken) => .ok (.literal (.char c), taken)
      | none => .error ⟨.malformedChar, 0⟩ :=
  rfl

/-! ## Symbols -/

/-- Symbols are no words or literals, and where one begins another the next character decides. -/
theorem scan_symbol (s : Symbol) (hrest : Stops rest) :
    ∃ c more, s.text.toList = c :: more ∧
      scan c (more ++ rest) = .ok (.symbol s, more.length) := by
  have hends : rest = [] ∨ ∃ c ∈ tokenEnds, ∃ more, rest = c :: more := by
    cases rest with
    | nil => exact .inl rfl
    | cons c more => exact .inr ⟨c, hrest c rfl, more, rfl⟩
  -- the lexer looks no further than one character past the symbol
  rcases hends with rfl | ⟨c, hc, more, rfl⟩
  · cases s <;> exact ⟨_, _, rfl, rfl⟩
  · simp only [tokenEnds, List.mem_cons, List.not_mem_nil, or_false] at hc
    rcases hc with rfl | rfl | rfl | rfl | rfl <;> cases s <;> exact ⟨_, _, rfl, rfl⟩

/-! ## Spellings are read -/

/-- A spelling that is followed by its end is read as its token. -/
theorem Spells.scan {t : Token} {cs : List Char} (h : Spells t cs) (hrest : Stops rest) :
    ∃ c more, cs = c :: more ∧ Syntax.scan c (more ++ rest) = .ok (t, more.length) := by
  have hends : ∀ x ∈ rest.head?, (x == 'x' || x == 'X') = false :=
    hrest.head (fun x => x == 'x' || x == 'X') (by simp [tokenEnds])
  cases h with
  | @int n _ hds hn =>
    have hl : (Numeral.signed (numeral 10 cs)).literal? = some (.int n) := by
      rw [Numeral.literal?, numeral_digits hds.2, int64?_eq_some.2 hn]
      rfl
    have hhead := hds.head []
    rw [List.append_nil] at hhead
    exact scan_numeral hhead (scanHex?_digits hds hends) (scanDecimal_int hds hrest) hl
  | @uint n ds hds hn =>
    have hl : (Numeral.unsigned (numeral 10 ds)).literal? = some (.uint n) := by
      rw [Numeral.literal?, numeral_digits hds.2, uint64?_eq_some.2 hn]
      rfl
    -- `0u` does not begin like `0x`, whatever comes after it
    have hhex : scanHex? (ds ++ ['u'] ++ rest) = none := by
      rw [List.append_assoc]
      exact scanHex?_digits hds (by simp)
    exact scan_numeral (hds.head ['u']) hhex (scanDecimal_uint hds hrest) hl
  | @decimal ds hds =>
    cases hds with
    | whole hds =>
      have hhex : scanHex? (ds ++ ['m'] ++ rest) = none := by
        rw [List.append_assoc]
        exact scanHex?_digits hds (by simp)
      exact scan_numeral (hds.head ['m']) hhex (scanDecimal_whole hds) rfl
    | @fraction ds fs hds hfs =>
      have hhex : scanHex? (ds ++ '.' :: fs ++ ['m'] ++ rest) = none := by
        rw [List.append_assoc, List.append_assoc]
        exact scanHex?_digits hds (by simp)
      have hhead : ∃ d ∈ (ds ++ '.' :: fs ++ ['m']).head?, d.isDigit = true := by
        rw [List.append_assoc]
        exact hds.head _
      exact scan_numeral hhead hhex (scanDecimal_fraction hds hfs) rfl
  | string hpieces =>
    refine ⟨_, _, rfl, ?_⟩
    have hread := stringBody?_pieces hpieces rest
    rw [List.append_cons] at hread
    rw [scan_string, hread, inCharacters?_utf8Width]
  | char hpiece =>
    refine ⟨_, _, rfl, ?_⟩
    have hread := charBody?_piece hpiece rest
    rw [List.append_cons] at hread
    rw [scan_char, hread, inCharacters?_utf8Width]
  | keyword hword =>
    obtain ⟨hname, htoken⟩ := wordToken_keyword hword
    have hscan := scan_word hname hrest
    rwa [String.ofList_toList, htoken] at hscan
  | ident hname hfree =>
    have hscan := scan_word hname hrest
    rwa [wordToken_ident hfree] at hscan
  | verbatim hname => exact ⟨_, _, rfl, scan_verbatim hname hrest⟩
  | symbol => exact scan_symbol _ hrest

/-! ## Tokens that are read -/

theorem isDigits_toDigits (n : Nat) : IsDigits (Nat.toDigits 10 n) :=
  ⟨Nat.toDigits_ne_nil, fun _ hc => Nat.isDigit_of_mem_toDigits (by decide) (by decide) hc⟩

theorem exists_piece (quote : Char) (hquote : simpleEscape? quote = some quote) (c : Char) :
    ∃ piece, Writes quote c piece := by
  by_cases h : c = quote ∨ c = '\\' ∨ c = '\n'
  · rcases h with rfl | rfl | rfl
    · exact ⟨_, .escape hquote⟩
    · exact ⟨['\\', '\\'], .escape rfl⟩
    · exact ⟨['\\', 'n'], .escape rfl⟩
  · rw [not_or, not_or] at h
    exact ⟨_, .plain h.1 h.2.1 h.2.2⟩

theorem spells_string (text : List Char) :
    ∃ cs, Spells (.literal (.string (String.ofList text))) cs := by
  have hpieces : ∃ pieces, List.Forall₂ (Writes '"') text pieces := by
    induction text with
    | nil => exact ⟨[], .nil⟩
    | cons c rest ih =>
      obtain ⟨pieces, hpieces⟩ := ih
      obtain ⟨piece, hpiece⟩ := exists_piece '"' rfl c
      exact ⟨piece :: pieces, .cons hpiece hpieces⟩
  obtain ⟨pieces, hpieces⟩ := hpieces
  exact ⟨_, .string hpieces⟩

/-- What counts as a fraction is a point and digits. -/
theorem fractionLength_cases (cs : List Char) :
    fractionLength cs = 0 ∨
      ∃ fs, IsDigits fs ∧ cs.take (fractionLength cs) = '.' :: fs := by
  unfold fractionLength
  split
  · rename_i rest
    dsimp only
    split
    · exact .inl rfl
    · rename_i hsome
      refine .inr ⟨rest.takeWhile Char.isDigit, ⟨?_, fun c hc => List.mem_takeWhile_imp hc⟩, ?_⟩
      · exact fun hnil => hsome (by rw [hnil]; rfl)
      · rw [Nat.add_comm, List.take_succ_cons, take_length_takeWhile]
  · exact .inl rfl

theorem isDecimal_of_scanDecimal {c : Char} {length : Nat} (hc : c.isDigit = true)
    (h : scanDecimal (c :: rest) = (.decimal ds, length)) : IsDecimal ds := by
  have hwhole : IsDigits ((c :: rest).takeWhile Char.isDigit) :=
    ⟨by simp [hc], fun x hx => List.mem_takeWhile_imp hx⟩
  -- a suffix `m` is looked for first, right after the digits and their fraction
  unfold scanDecimal at h
  dsimp only at h
  split at h
  · obtain rfl := Numeral.decimal.inj (Prod.mk.inj h).1
    rw [List.take_add, take_length_takeWhile]
    rcases fractionLength_cases ((c :: rest).drop ((c :: rest).takeWhile Char.isDigit).length)
      with hnone | ⟨fs, hfs, htake⟩
    · rw [hnone, List.take_zero, List.append_nil]
      exact .whole hwhole
    · rw [htake]
      exact .fraction hwhole hfs
  -- the other numerals are no decimals
  · split at h
    · cases h
    · split at h
      · cases h
      · split at h <;> cases h

theorem scanHex?_ne_decimal {cs : List Char} {length : Nat} :
    scanHex? cs ≠ some (.decimal ds, length) := by
  intro h
  unfold scanHex? at h
  split at h
  · split at h
    · dsimp only at h
      split at h
      · cases h
      · split at h <;> cases h
    · cases h
  · cases h

/-- An integer in range is what its digits say, and a decimal keeps its digits. -/
theorem spells_literal {n : Numeral} {l : Literal} (hl : n.literal? = some l)
    (hdecimal : ∀ ds, n = .decimal ds → IsDecimal ds) :
    (∃ x, l = .float x) ∨ ∃ cs, Spells (.literal l) cs := by
  unfold Numeral.literal? at hl
  cases n with
  | signed n =>
    obtain ⟨m, hm, rfl⟩ := Option.map_eq_some_iff.1 hl
    have hdigits : m.toInt = Nat.ofDigitChars 10 (Nat.toDigits 10 n) 0 := by
      rw [int64?_eq_some.1 hm, Nat.ofDigitChars_ten_toDigits]
    exact .inr ⟨_, .int (isDigits_toDigits n) hdigits⟩
  | unsigned n =>
    obtain ⟨m, hm, rfl⟩ := Option.map_eq_some_iff.1 hl
    have hdigits : m.toNat = Nat.ofDigitChars 10 (Nat.toDigits 10 n) 0 := by
      rw [uint64?_eq_some.1 hm, Nat.ofDigitChars_ten_toDigits]
    exact .inr ⟨_, .uint (isDigits_toDigits n) hdigits⟩
  | double text =>
    obtain ⟨x, -, rfl⟩ := Option.map_eq_some_iff.1 hl
    exact .inl ⟨x, rfl⟩
  | decimal ds =>
    obtain rfl := Option.some.inj hl
    exact .inr ⟨_, .decimal (hdecimal ds rfl)⟩

theorem isName_takeWhile {c : Char} (h : isNameStart c = true) :
    isName (c :: rest.takeWhile isNamePart) = true := by
  rw [isName, h, Bool.true_and, List.all_eq_true]
  exact fun x hx => List.mem_takeWhile_imp hx

theorem spells_word {cs : List Char} (h : isName cs = true) :
    ∃ spelling, Spells (wordToken (String.ofList cs)) spelling := by
  -- a word that is no keyword needs no `@`
  by_cases hkeyword : ∃ k ∈ keywords, String.ofList cs = k.1
  · obtain ⟨⟨word, t⟩, hk, hword⟩ := hkeyword
    obtain ⟨-, htoken⟩ := wordToken_keyword hk
    rw [hword, htoken]
    exact ⟨_, .keyword hk⟩
  · have hfree : ∀ k ∈ keywords, String.ofList cs ≠ k.1 := fun k hk heq => hkeyword ⟨k, hk, heq⟩
    rw [wordToken_ident hfree]
    exact ⟨_, .ident h hfree⟩

theorem spells_verbatim {t : Token} {n : Nat} (h : scanVerbatim rest = .ok (t, n)) :
    ∃ cs, Spells t cs := by
  unfold scanVerbatim at h
  split at h
  · split at h
    · obtain ⟨rfl, -⟩ := Prod.mk.inj (Except.ok.inj h)
      exact spells_string _
    · cases h
  · split at h
    · rename_i hname
      obtain ⟨rfl, -⟩ := Prod.mk.inj (Except.ok.inj h)
      cases rest with
      | nil => cases hname
      | cons c more =>
        have hstart : isNameStart c = true := by simpa [isName] using hname
        rw [List.takeWhile_cons, if_pos (isNamePart_of_isNameStart hstart)]
        exact ⟨_, .verbatim (isName_takeWhile hstart)⟩
    · cases h

/-- Each token that is read has a spelling, unless it is a double. -/
theorem exists_spelling {c : Char} {t : Token} {n : Nat} (h : scan c rest = .ok (t, n)) :
    (∃ x, t = .literal (.float x)) ∨ ∃ cs, Spells t cs := by
  -- by what the first character begins: a number, a word, a verbatim form, quoted text or a symbol
  unfold scan at h
  split at h
  · rename_i hdigit
    unfold scanNumber at h
    dsimp only at h
    split at h
    · rename_i l hl
      obtain ⟨rfl, -⟩ := Prod.mk.inj (Except.ok.inj h)
      have hdecimal : ∀ ds, (scanNumeral (c :: rest)).1 = .decimal ds → IsDecimal ds := by
        intro ds hds
        unfold scanNumeral at hds
        cases hhex : scanHex? (c :: rest) with
        | some found =>
          obtain ⟨n, length⟩ := found
          rw [hhex] at hds
          obtain rfl : n = .decimal ds := hds
          exact absurd hhex scanHex?_ne_decimal
        | none =>
          rw [hhex] at hds
          exact isDecimal_of_scanDecimal hdigit (Prod.ext hds rfl)
      rcases spells_literal hl hdecimal with ⟨x, rfl⟩ | hspells
      · exact .inl ⟨x, rfl⟩
      · exact .inr hspells
    · cases h
  split at h
  · rename_i hstart
    obtain ⟨rfl, -⟩ := Prod.mk.inj (Except.ok.inj h)
    exact .inr (spells_word (isName_takeWhile hstart))
  split at h
  · exact .inr (spells_verbatim h)
  split at h
  · split at h
    · obtain ⟨rfl, -⟩ := Prod.mk.inj (Except.ok.inj h)
      exact .inr (spells_string _)
    · cases h
  split at h
  · split at h
    · obtain ⟨rfl, -⟩ := Prod.mk.inj (Except.ok.inj h)
      obtain ⟨piece, hpiece⟩ := exists_piece '\'' rfl _
      exact .inr ⟨_, .char hpiece⟩
    · cases h
  split at h
  · obtain ⟨rfl, -⟩ := Prod.mk.inj (Except.ok.inj h)
    exact .inr ⟨_, .symbol⟩
  · cases h

end GatedPredicate.Syntax
