/-!
# ASCII letters, digits and widths

The character classes that names and numerals are made of. Names, digits and signs are ASCII
throughout; every other character only ever occurs inside text.

- `hexDigit?`: the value of a hexadecimal digit
- `numeral`: the value of a run of digits in a radix
- `sameName`: equality of names up to the case of ASCII letters
- `utf8Width`: the number of bytes a piece of text takes
- `takeBytes?`: the characters in so many bytes
-/

namespace GatedPredicate.Text

/-- A letter or underscore, the characters a name may start with. -/
def isNameStart (c : Char) : Bool :=
  c.isAlpha || c == '_'

/-- A letter, digit or underscore, the characters a name may go on with. -/
def isNamePart (c : Char) : Bool :=
  c.isAlphanum || c == '_'

/-- `true` for `[A-Za-z_][A-Za-z0-9_]*`. -/
def isName (cs : List Char) : Bool :=
  match cs with
  | [] => false
  | c :: rest => isNameStart c && rest.all isNamePart

/-- The value of a hexadecimal digit of either case. -/
def hexDigit? (c : Char) : Option Nat :=
  if '0' ≤ c ∧ c ≤ '9' then some (c.toNat - '0'.toNat)
  else if 'a' ≤ c ∧ c ≤ 'f' then some (c.toNat - 'a'.toNat + 10)
  else if 'A' ≤ c ∧ c ≤ 'F' then some (c.toNat - 'A'.toNat + 10)
  else none

/-- `true` for the sixteen hexadecimal digits of either case. -/
def isHexDigit (c : Char) : Bool :=
  (hexDigit? c).isSome

/-- The value of a digit, taken as zero when `c` is none. -/
def digitValue (c : Char) : Nat :=
  (hexDigit? c).getD 0

/-- The number written by a run of digits, most significant first. -/
def numeral (radix : Nat) (digits : List Char) : Nat :=
  digits.foldl (fun total c => total * radix + digitValue c) 0

/-- The number written by a non-empty run of decimal digits and nothing else. -/
def decimalNumeral? (cs : List Char) : Option Nat :=
  if !cs.isEmpty && cs.all Char.isDigit then some (numeral 10 cs) else none

/-- Equality of two texts up to the case of the ASCII letters. -/
def sameName (a b : String) : Bool :=
  a.toList.map Char.toLower == b.toList.map Char.toLower

/-- The number of bytes that `cs` takes in UTF-8. -/
def utf8Width (cs : List Char) : Nat :=
  cs.foldl (fun total c => total + c.utf8Size) 0

theorem utf8Width_eq (cs : List Char) : utf8Width cs = (String.ofList cs).utf8ByteSize := by
  -- the loop adds to a total, so the induction is for any total
  have hloop : ∀ total, cs.foldl (fun total c => total + c.utf8Size) total =
      total + (String.ofList cs).utf8ByteSize := by
    induction cs with
    | nil => simp
    | cons c rest ih =>
      intro total
      rw [List.foldl_cons, ih, String.ofList_cons, String.utf8ByteSize_append,
        String.utf8ByteSize_singleton]
      omega
  have hzero := hloop 0
  rwa [Nat.zero_add] at hzero

@[simp]
theorem utf8Width_nil : utf8Width [] = 0 := rfl

theorem utf8Width_append (xs ys : List Char) :
    utf8Width (xs ++ ys) = utf8Width xs + utf8Width ys := by
  simp [utf8Width_eq, String.ofList_append]

theorem utf8Width_cons (c : Char) (cs : List Char) :
    utf8Width (c :: cs) = c.utf8Size + utf8Width cs := by
  rw [utf8Width_eq, utf8Width_eq, String.ofList_cons, String.utf8ByteSize_append,
    String.utf8ByteSize_singleton]

@[simp]
theorem utf8Width_singleton (c : Char) : utf8Width [c] = c.utf8Size := by
  rw [utf8Width_cons, utf8Width_nil, Nat.add_zero]

/-- The characters in the first `n` bytes, which have to end where a character ends. -/
def takeBytes? : Nat → List Char → Option (List Char)
  | 0, _ => some []
  | _ + 1, [] => none
  | n + 1, c :: rest =>
    if c.utf8Size ≤ n + 1 then (takeBytes? (n + 1 - c.utf8Size) rest).map (c :: ·) else none

/-- Where a character ends, all characters up to it are taken. -/
theorem takeBytes?_utf8Width (front back : List Char) :
    takeBytes? (utf8Width front) (front ++ back) = some front := by
  induction front with
  | nil => rw [utf8Width_nil, takeBytes?]
  | cons c front ih =>
    have hsize : 0 < c.utf8Size := c.utf8Size_pos
    obtain ⟨n, hn⟩ : ∃ n, utf8Width (c :: front) = n + 1 :=
      Nat.exists_eq_add_one.mpr (by rw [utf8Width_cons]; omega)
    have hrest : n + 1 - c.utf8Size = utf8Width front := by
      rw [← hn, utf8Width_cons]
      omega
    have hle : c.utf8Size ≤ n + 1 := by
      rw [← hn, utf8Width_cons]
      omega
    rw [hn, List.cons_append, takeBytes?, if_pos hle, hrest, ih]
    rfl

/-- The character with code `n`, if `n` is the code of one. -/
def scalar? (n : Nat) : Option Char :=
  if n.isValidChar then some (Char.ofNat n) else none

/-- The segments of a dotted path. A path without a dot is its own single segment. -/
def segments (path : String) : List String :=
  go path.toList []
where
  /-- Collects the current segment backwards until a dot or the end. -/
  go : List Char → List Char → List String
    | [], current => [String.ofList current.reverse]
    | '.' :: rest, current => String.ofList current.reverse :: go rest []
    | c :: rest, current => go rest (c :: current)

end GatedPredicate.Text
