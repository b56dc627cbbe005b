import GatedPredicate.Json.Basic
import GatedPredicate.Number.DoubleText

/-!
# JSON text

The compact text of a JSON value: no blanks, the fewest escapes, and doubles with the fewest
digits that read back.

- `Json.quoted`: a string literal
- `Json.doubleText`: positional between `10 ^ -5` and `10 ^ 16`, with an exponent outside
- `Json.text`: a whole value
-/

namespace GatedPredicate.Json

open GatedPredicate.Number

/-! ## Strings -/

/-- The two hexadecimal digits of a number below 256. -/
def hexPair (n : Nat) : List Char :=
  [Nat.digitChar (n / 16), Nat.digitChar (n % 16)]

/-- A character inside a string literal. -/
def escaped (c : Char) : List Char :=
  match c with
  | '"' => ['\\', '"']
  | '\\' => ['\\', '\\']
  | '\n' => ['\\', 'n']
  | '\r' => ['\\', 'r']
  | '\t' => ['\\', 't']
  | c =>
    if c = Char.ofNat 8 then ['\\', 'b']
    else if c = Char.ofNat 12 then ['\\', 'f']
    else if c.toNat < 32 then '\\' :: 'u' :: '0' :: '0' :: hexPair c.toNat
    else [c]

/-- The string literal for `s`. -/
def quoted (s : String) : List Char :=
  '"' :: s.toList.flatMap escaped ++ ['"']

/-! ## Numbers -/

/-- A double: `.0` after a whole number, and scientific notation for magnitudes below `10 ^ -5`
or from `10 ^ 16` on. -/
def doubleText (x : Float) : List Char :=
  match parts x with
  | .finite negative mantissa exponent =>
    let body :=
      if mantissa = 0 then ['0', '.', '0']
      else
        let ds := shortest .even mantissa exponent
        if ds.point ≤ -5 ∨ 16 < ds.point then ds.scientific
        else if ((decimalDigits ds.digits).length : Int) ≤ ds.point then
          ds.positional ++ ['.', '0']
        else ds.positional
    if negative then '-' :: body else body
  | _ => ['n', 'u', 'l', 'l']

/-- A number of any kind. -/
def Number.text : Number → List Char
  | .natural n => (toString n.toNat).toList
  | .negative n => (toString n.toInt).toList
  | .double x _ => doubleText x

/-! ## Values -/

/-- Puts a comma in front of what follows an item. -/
def commaBefore (text : List Char) : List Char :=
  if text.isEmpty then [] else ',' :: text

mutual

/-- The characters of a value. -/
def chars : Json → List Char
  | .null => ['n', 'u', 'l', 'l']
  | .bool true => ['t', 'r', 'u', 'e']
  | .bool false => ['f', 'a', 'l', 's', 'e']
  | .number n => n.text
  | .string s => quoted s
  | .array items => '[' :: charsAll items ++ [']']
  | .object fields => '\x7b' :: charsFields fields ++ ['\x7d']

/-- The items of an array, with commas between them. -/
def charsAll : List Json → List Char
  | [] => []
  | x :: xs => x.chars ++ commaBefore (charsAll xs)

/-- The fields of an object, with commas between them. -/
def charsFields : List (String × Json) → List Char
  | [] => []
  | (k, x) :: rest => quoted k ++ ':' :: x.chars ++ commaBefore (charsFields rest)

end

/-- The compact text of a value. -/
def text (j : Json) : String :=
  String.ofList j.chars

end GatedPredicate.Json
