import GatedPredicate.Text.Ascii
import GatedPredicate.Text.Blank
import GatedPredicate.Time.DateTime

/-!
# Reading dates and date-times

Text is tried against the internet date-time form first, whose offset is applied, and then
against a list of layouts. A layout is a sequence of items; a field skips blanks in front of
it and takes digits up to its width, and a year may have a sign and then any number of digits.

- `Item`, `Layout`: what a form of text looks like
- `Layout.read?`: reads a whole text by a layout
- `readInternet?`: the form with an offset
- `DateTime.read?`: all forms in order
-/

namespace GatedPredicate.Time

open GatedPredicate.Text

/-! ## Fields and layouts -/

/-- What may be read from a text. -/
structure Fields where
  year : Int
  month : Nat
  day : Nat
  hour : Nat
  minute : Nat
  second : Nat
  nano : Nat

/-- Fields before anything is read: a clock that is not written stands at midnight. -/
def Fields.empty : Fields := ⟨0, 0, 0, 0, 0, 0, 0⟩

/-- The moment that fields denote. Second 60 is a leap second. -/
def Fields.moment? (f : Fields) : Option DateTime :=
  (Date.make? f.year f.month f.day).bind fun date =>
    if f.second = 60 then DateTime.make? date f.hour f.minute 59 (10 ^ 9 + f.nano)
    else DateTime.make? date f.hour f.minute f.second f.nano

/-- A numeric part of a layout. -/
inductive Field where
  | year | month | day | hour | minute | second
deriving DecidableEq

def Fields.set (f : Fields) (field : Field) (value : Int) : Fields :=
  match field with
  | .year => { f with year := value }
  | .month => { f with month := value.toNat }
  | .day => { f with day := value.toNat }
  | .hour => { f with hour := value.toNat }
  | .minute => { f with minute := value.toNat }
  | .second => { f with second := value.toNat }

/-- A part of a layout. -/
inductive Item where
  /-- This character and nothing else. -/
  | literal (c : Char)
  /-- Any number of blanks. -/
  | blanks
  | field (field : Field)
  /-- Nothing, or a point and digits. -/
  | fraction

/-- A form of text. -/
abbrev Layout := List Item

/-- A number of one to `width` digits at the front of a text. -/
def number? (width : Nat) (cs : List Char) : Option (Nat × List Char) :=
  let digits := (cs.take width).takeWhile Char.isDigit
  if digits.isEmpty then none else some (numeral 10 digits, cs.drop digits.length)

/-- A number of exactly `width` digits at the front of a text. -/
def exactNumber? (width : Nat) (cs : List Char) : Option (Nat × List Char) :=
  let digits := (cs.take width).takeWhile Char.isDigit
  if digits.length = width then some (numeral 10 digits, cs.drop width) else none

/-- A year: up to four digits, or a sign and any number of digits. -/
def yearNumber? (cs : List Char) : Option (Int × List Char) :=
  match cs with
  | '-' :: rest => (number? rest.length rest).map fun (n, rest) => (-(n : Int), rest)
  | '+' :: rest => (number? rest.length rest).map fun (n, rest) => ((n : Int), rest)
  | all => (number? 4 all).map fun (n, rest) => ((n : Int), rest)

/-- The value of a field at the front of a text, after blanks. -/
def fieldNumber? (field : Field) (cs : List Char) : Option (Int × List Char) :=
  if field = .year then yearNumber? (trimFront cs)
  else (number? 2 (trimFront cs)).map fun (n, rest) => ((n : Int), rest)

/-- The nanoseconds that the digits after a point denote. At least one digit is required; those
after the ninth are skipped. -/
def nanoseconds? (cs : List Char) : Option (Nat × List Char) :=
  let digits := cs.takeWhile Char.isDigit
  let kept := digits.take 9
  if kept.isEmpty then none
  else some (numeral 10 kept * 10 ^ (9 - kept.length), cs.drop digits.length)

/-- The nanoseconds of an optional fraction. -/
def fraction? (cs : List Char) : Option (Nat × List Char) :=
  match cs with
  | '.' :: rest => nanoseconds? rest
  | all => some (0, all)

/-- Reads a text by a layout. The whole text must be used up. -/
def Layout.fields? : Layout → Fields → List Char → Option Fields
  | [], f, cs => if cs.isEmpty then some f else none
  | .literal c :: items, f, cs => if cs.head? = some c then fields? items f (cs.drop 1) else none
  | .blanks :: items, f, cs => fields? items f (trimFront cs)
  | .field field :: items, f, cs =>
    (fieldNumber? field cs).bind fun (n, rest) => fields? items (f.set field n) rest
  | .fraction :: items, f, cs =>
    (fraction? cs).bind fun (n, rest) => fields? items { f with nano := n } rest

/-- The moment a text denotes by a layout. -/
def Layout.read? (layout : Layout) (cs : List Char) : Option DateTime :=
  (layout.fields? .empty cs).bind Fields.moment?

/-! ## The layouts in use -/

/-- `year-month-day` -/
def isoDate : Layout :=
  [.field .year, .literal '-', .field .month, .literal '-', .field .day]

/-- `month/day/year` -/
def slashDate : Layout :=
  [.field .month, .literal '/', .field .day, .literal '/', .field .year]

/-- `hour:minute` -/
def clock : Layout :=
  [.field .hour, .literal ':', .field .minute]

/-- `hour:minute:second` -/
def fullClock : Layout :=
  clock ++ [.literal ':', .field .second]

/-- The layouts without an offset, in the order in which they are tried. -/
def layouts : List Layout :=
  [isoDate ++ .literal 'T' :: fullClock,
    isoDate ++ .literal 'T' :: fullClock ++ [.fraction],
    isoDate ++ .blanks :: fullClock,
    isoDate ++ .blanks :: fullClock ++ [.fraction],
    isoDate ++ .literal 'T' :: clock,
    isoDate ++ .blanks :: clock,
    slashDate ++ .blanks :: fullClock,
    slashDate ++ .blanks :: clock,
    isoDate,
    slashDate]

/-! ## The form with an offset -/

/-- Takes one character that `accept` holds of. -/
def one? (accept : Char → Bool) (cs : List Char) : Option (List Char) :=
  match cs with
  | [] => none
  | c :: rest => if accept c then some rest else none

/-- An offset in seconds: `Z`, or a sign, two digits of hours, a colon and two of minutes. The
sign may be the typographic minus. -/
def offset? (cs : List Char) : Option (Int × List Char) :=
  match cs with
  | [] => none
  | c :: rest =>
    if c == 'Z' || c == 'z' then some (0, rest)
    else if c == '+' || c == '-' || c == '\u2212' then do
      let (hours, rest) ← exactNumber? 2 rest
      let rest ← one? (· == ':') rest
      let (minutes, rest) ← exactNumber? 2 rest
      if hours < 24 ∧ minutes < 60 then
        let seconds : Int := hours * 3600 + minutes * 60
        some (if c == '+' then seconds else -seconds, rest)
      else none
    else none

/-- The internet date-time form: fixed widths, `T` or a space, and an offset, which is taken off
so that the result is in universal time. -/
def readInternet? (cs : List Char) : Option DateTime := do
  let (year, rest) ← exactNumber? 4 cs
  let rest ← one? (· == '-') rest
  let (month, rest) ← exactNumber? 2 rest
  let rest ← one? (· == '-') rest
  let (day, rest) ← exactNumber? 2 rest
  let rest ← one? (fun c => c == 't' || c == 'T' || c == ' ') rest
  let (hour, rest) ← exactNumber? 2 rest
  let rest ← one? (· == ':') rest
  let (minute, rest) ← exactNumber? 2 rest
  let rest ← one? (· == ':') rest
  let (second, rest) ← exactNumber? 2 rest
  let (nano, rest) ← fraction? rest
  let (offset, rest) ← offset? rest
  if rest.isEmpty then
    let local? := Fields.moment? ⟨year, month, day, hour, minute, second, nano⟩
    local?.bind fun t => t.shift? (-offset)
  else none

/-- Reads a date-time in any of the accepted forms; blanks around it do not matter. -/
def read? (s : String) : Option DateTime :=
  let cs := trimChars s.toList
  (readInternet? cs).orElse fun _ => layouts.findSome? (Layout.read? · cs)

end GatedPredicate.Time
