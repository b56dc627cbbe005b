import GatedPredicate.Text.Ascii

/-!
# The inside of quoted literals

Each reader takes the characters after an opening quote and gives the decoded text together
with the number of bytes it took, the closing quote included.

- `escape?`: what may follow a backslash
- `stringBody?`: text with escapes, on one line
- `verbatimBody?`: text taken literally, where a doubled quote stands for one
- `charBody?`: a single character or escape
- `inCharacters?`: from bytes back to characters
-/

namespace GatedPredicate.Syntax

open GatedPredicate.Text

/-- The character that a one-letter escape stands for. -/
def simpleEscape? : Char → Option Char
  | '\\' => some '\\'
  | '"' => some '"'
  | '\'' => some '\''
  | '0' => some (Char.ofNat 0)
  | 'a' => some (Char.ofNat 7)
  | 'b' => some (Char.ofNat 8)
  | 'f' => some (Char.ofNat 12)
  | 'n' => some '\n'
  | 'r' => some '\r'
  | 't' => some '\t'
  | 'v' => some (Char.ofNat 11)
  | _ => none

/-- The value of a hexadecimal numeral that may start with a plus sign. -/
def hexNumeral? (cs : List Char) : Option Nat :=
  let digits :=
    match cs with
    | '+' :: rest => rest
    | all => all
  if !digits.isEmpty && digits.all isHexDigit then some (numeral 16 digits) else none

/-- The character whose code a numeral of an escape writes. -/
def hexScalar? (digits : List Char) : Option Char :=
  (hexNumeral? digits).bind scalar?

/-- Reads what follows a backslash: a one-letter escape, `u` with exactly four bytes of numeral, or
`x` with the longest run of one to four digits. Gives the character, what comes after the escape and
the number of bytes that the escape takes. -/
def escape? : List Char → Option (Char × List Char × Nat)
  | [] => none
  | 'u' :: rest =>
    let digits := rest.take 4
    if utf8Width digits = 4 then
      (hexScalar? digits).map fun c => (c, rest.drop 4, 'u'.utf8Size + utf8Width digits)
    else none
  | 'x' :: rest =>
    let digits := (rest.take 4).takeWhile isHexDigit
    (hexScalar? digits).map fun c =>
      (c, rest.drop digits.length, 'x'.utf8Size + utf8Width digits)
  | c :: rest => (simpleEscape? c).map fun value => (value, rest, c.utf8Size)

theorem escape?_length_le {cs after : List Char} {c : Char} {n : Nat}
    (h : escape? cs = some (c, after, n)) : after.length ≤ cs.length := by
  unfold escape? at h
  split at h
  · cases h
  · obtain ⟨-, h⟩ := Option.ite_none_right_eq_some.1 h
    obtain ⟨d, -, heq⟩ := Option.map_eq_some_iff.1 h
    rw [← (Prod.mk.inj (Prod.mk.inj heq).2).1, List.length_drop, List.length_cons]
    omega
  · obtain ⟨d, -, heq⟩ := Option.map_eq_some_iff.1 h
    rw [← (Prod.mk.inj (Prod.mk.inj heq).2).1, List.length_drop, List.length_cons]
    omega
  · obtain ⟨d, -, heq⟩ := Option.map_eq_some_iff.1 h
    rw [← (Prod.mk.inj (Prod.mk.inj heq).2).1, List.length_cons]
    omega

/-- Reads the rest of a string up to its closing quote. It may not span lines. -/
def stringBody? : List Char → Option (List Char × Nat)
  | [] => none
  | '"' :: _ => some ([], '"'.utf8Size)
  | '\n' :: _ => none
  | '\\' :: rest =>
    match _ : escape? rest with
    | none => none
    | some (c, after, bytes) =>
      (stringBody? after).map fun (body, consumed) => (c :: body, '\\'.utf8Size + bytes + consumed)
  | c :: rest =>
    (stringBody? rest).map fun (body, consumed) => (c :: body, c.utf8Size + consumed)
termination_by cs => cs.length
decreasing_by
  · exact Nat.lt_succ_of_le (escape?_length_le ‹_›)
  · simp

theorem stringBody?_escape {cs after : List Char} {c : Char} {bytes : Nat}
    (h : escape? cs = some (c, after, bytes)) :
    stringBody? ('\\' :: cs) =
      (stringBody? after).map fun (body, consumed) =>
        (c :: body, '\\'.utf8Size + bytes + consumed) := by
  rw [stringBody?]
  split
  · rename_i hnone
    cases hnone.symm.trans h
  · rename_i hsome
    cases hsome.symm.trans h
    rfl

/-- Reads the rest of a verbatim string up to the first quote that is not doubled. -/
def verbatimBody? : List Char → Option (List Char × Nat)
  | [] => none
  | '"' :: '"' :: rest =>
    (verbatimBody? rest).map fun (body, consumed) => ('"' :: body, '"'.utf8Size + 1 + consumed)
  | '"' :: _ => some ([], '"'.utf8Size)
  | c :: rest =>
    (verbatimBody? rest).map fun (body, consumed) => (c :: body, c.utf8Size + consumed)

/-- Reads one character or escape and the closing quote. -/
def charBody? : List Char → Option (Char × Nat)
  | [] => none
  | '\'' :: _ => none
  | '\n' :: _ => none
  | '\\' :: rest =>
    match escape? rest with
    | none => none
    | some (c, after, bytes) =>
      if after.head? = some '\'' then some (c, '\\'.utf8Size + bytes + 1) else none
  | c :: rest => if rest.head? = some '\'' then some (c, c.utf8Size + 1) else none

/-- What was read at the front of `cs`, with the number of characters it took in place of bytes. The
bytes have to end where a character ends. -/
def inCharacters? {α : Type} (cs : List Char) (found : Option (α × Nat)) : Option (α × Nat) :=
  found.bind fun (value, bytes) => (takeBytes? bytes cs).map fun front => (value, front.length)

@[simp]
theorem inCharacters?_none {α : Type} (cs : List Char) :
    inCharacters? cs (none : Option (α × Nat)) = none := rfl

theorem inCharacters?_utf8Width {α : Type} (value : α) (front back : List Char) :
    inCharacters? (front ++ back) (some (value, utf8Width front)) = some (value, front.length) := by
  simp only [inCharacters?, Option.bind_some, takeBytes?_utf8Width, Option.map_some]

end GatedPredicate.Syntax
