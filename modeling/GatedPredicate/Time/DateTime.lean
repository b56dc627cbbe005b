import GatedPredicate.Number.Shortest

/-!
# Dates and date-times

Days of the Gregorian calendar, extended backwards without a gap, and moments of a day to the
nanosecond. A leap second is the last second of a minute with a nanosecond of `10 ^ 9` or more.

- `Date`, `Date.make?`, `Date.next?`, `Date.previous?`
- `Date.ordinal`, `Date.weekday`
- `DateTime`, `DateTime.make?`, `DateTime.compare`, `DateTime.shift?`
- `Date.text`, `DateTime.text`
-/

namespace GatedPredicate

open GatedPredicate.Number

/-! ## Dates -/

/-- Whether a year has 366 days. -/
def isLeapYear (year : Int) : Bool :=
  year % 4 == 0 && (year % 100 != 0 || year % 400 == 0)

/-- The number of days in a month, zero for a month that there is not. -/
def daysInMonth (year : Int) (month : Nat) : Nat :=
  match month with
  | 1 | 3 | 5 | 7 | 8 | 10 | 12 => 31
  | 4 | 6 | 9 | 11 => 30
  | 2 => if isLeapYear year then 29 else 28
  | _ => 0

/-- A day of the calendar. -/
structure Date where
  year : Int
  month : Nat
  day : Nat
  year_range : -262143 ≤ year ∧ year ≤ 262142
  day_range : 1 ≤ day ∧ day ≤ daysInMonth year month
deriving DecidableEq

namespace Date

/-- The date with the given parts, if there is one. -/
def make? (year : Int) (month day : Nat) : Option Date :=
  if h : (-262143 ≤ year ∧ year ≤ 262142) ∧ 1 ≤ day ∧ day ≤ daysInMonth year month then
    some ⟨year, month, day, h.1, h.2⟩
  else none

/-- The following day. -/
def next? (d : Date) : Option Date :=
  (make? d.year d.month (d.day + 1)).orElse fun _ =>
    (make? d.year (d.month + 1) 1).orElse fun _ => make? (d.year + 1) 1 1

/-- The day before. -/
def previous? (d : Date) : Option Date :=
  if 1 < d.day then make? d.year d.month (d.day - 1)
  else if 1 < d.month then make? d.year (d.month - 1) (daysInMonth d.year (d.month - 1))
  else make? (d.year - 1) 12 31

/-- The number of the day in its year, from 1. -/
def ordinal (d : Date) : Nat :=
  ((List.range d.month).map (daysInMonth d.year)).foldl (· + ·) d.day

/-- The number of days since the first day of the year 1. -/
def dayNumber (d : Date) : Int :=
  let y := d.year - 1
  365 * y + y / 4 - y / 100 + y / 400 + d.ordinal - 1

/-- The day of the week, from Sunday as zero. -/
def weekday (d : Date) : Nat :=
  ((d.dayNumber + 1) % 7).toNat

/-- Comparison in calendar order. -/
def compare (a b : Date) : Ordering :=
  (Ord.compare a.year b.year).then <|
    (Ord.compare a.month b.month).then (Ord.compare a.day b.day)

end Date

/-! ## Date-times -/

/-- A day, a second of it and a nanosecond. -/
structure DateTime where
  date : Date
  second : Nat
  nano : Nat
  second_lt : second < 86400
  nano_lt : nano < 2 * 10 ^ 9
deriving DecidableEq

namespace DateTime

/-- The moment `seconds` into a day, if it is inside the day. -/
def ofSecond? (date : Date) (seconds nano : Nat) : Option DateTime :=
  if h : seconds < 86400 ∧ nano < 2 * 10 ^ 9 then some ⟨date, seconds, nano, h.1, h.2⟩ else none

/-- The moment with the given clock reading; only second 59 may run over. -/
def make? (date : Date) (hour minute second nano : Nat) : Option DateTime :=
  if hour < 24 ∧ minute < 60 ∧ second < 60 ∧ (nano < 10 ^ 9 ∨ second = 59) then
    ofSecond? date (hour * 3600 + minute * 60 + second) nano
  else none

/-- The start of a day. -/
def midnight (date : Date) : DateTime :=
  ⟨date, 0, 0, by decide, by decide⟩

/-- The hour, from 0 to 23. -/
def hour (t : DateTime) : Nat := t.second / 3600

/-- The minute of the hour. -/
def minute (t : DateTime) : Nat := t.second / 60 % 60

/-- The second of the minute; a leap second counts as 59. -/
def secondOfMinute (t : DateTime) : Nat := t.second % 60

/-- Comparison in order of time. -/
def compare (a b : DateTime) : Ordering :=
  (a.date.compare b.date).then <|
    (Ord.compare a.second b.second).then (Ord.compare a.nano b.nano)

/-- The moment a number of seconds later, for less than a day either way. -/
def shift? (t : DateTime) (seconds : Int) : Option DateTime :=
  let moved := (t.second : Int) + seconds
  if moved < 0 then t.date.previous?.bind (ofSecond? · (moved + 86400).toNat t.nano)
  else if moved < 86400 then ofSecond? t.date moved.toNat t.nano
  else t.date.next?.bind (ofSecond? · (moved - 86400).toNat t.nano)

end DateTime

/-! ## Text -/

/-- A number with zeros in front up to a width. -/
def padded (width n : Nat) : List Char :=
  let digits := decimalDigits n
  zeros (width - digits.length) ++ digits

/-- A year with at least four digits. Years outside 0 to 9999 have a sign. -/
def yearText (year : Int) : List Char :=
  if year < 0 then '-' :: padded 4 year.natAbs
  else if year ≤ 9999 then padded 4 year.natAbs
  else '+' :: padded 4 year.natAbs

/-- The text `year-month-day`. -/
def Date.text (d : Date) : List Char :=
  yearText d.year ++ '-' :: padded 2 d.month ++ '-' :: padded 2 d.day

/-- The text `month/day/year hour:minute:second`, in which a leap second is 60. -/
def DateTime.text (t : DateTime) : List Char :=
  padded 2 t.date.month ++ '/' :: padded 2 t.date.day ++ '/' :: yearText t.date.year ++
    ' ' :: padded 2 t.hour ++ ':' :: padded 2 t.minute ++
    ':' :: padded 2 (t.secondOfMinute + t.nano / 10 ^ 9)

end GatedPredicate
