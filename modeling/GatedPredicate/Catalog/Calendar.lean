import GatedPredicate.Catalog.Module
import GatedPredicate.Catalog.Object
import GatedPredicate.Time.Reader

/-!
# Dates and times

Reading date-times and asking for their parts. Days of the week count from Sunday as zero.
-/

namespace GatedPredicate.Catalog

/-- The tag of the functions and members of date-times. -/
def dateTimeTag : String := "System.DateTime"

def dayOfWeekTag : String := "System.DayOfWeek"

/-- The names of the days of the week. -/
def dayNames : List String :=
  ["Sunday", "Monday", "Tuesday", "Wednesday", "Thursday", "Friday", "Saturday"]

/-- Reads a date-time. -/
def parseDateTime (v : Value) : Outcome Value :=
  (textArgument "DateTime.Parse" v).bind fun s =>
    match Time.read? s with
    | some t => .ok (.dateTime t)
    | none => .error (.functionFailed "DateTime.Parse" .malformedDateTime)

def dateTimeModule : Module where
  tag := dateTimeTag
  aliases := ["DateTime"]
  imported := false
  functions := [⟨"Parse", [.unary (.fixed .dateTime) parseDateTime]⟩]
  constants := []

def dayOfWeekModule : Module where
  tag := dayOfWeekTag
  aliases := ["DayOfWeek"]
  imported := false
  functions := []
  constants := dayNames.zipIdx.map fun (day, i) => (day, .ofNat i)

/-- The moment that receives a member. -/
def momentReceiver (v : Value) : Outcome DateTime :=
  match v with
  | .dateTime t => .ok t
  | other => .error (.expected "DateTime member" "DateTime" other.type)

/-- A property that is a number. -/
def component (name : String) (read : DateTime → Int) : Member :=
  ⟨name, dateTimeTag, .dateTime, true, [.getter .int fun v =>
    (momentReceiver v).map fun t => .int (Int64.ofInt (read t))]⟩

def dateTimeMembers : List Member :=
  [component "Year" fun t => t.date.year,
    component "Month" fun t => t.date.month,
    component "Day" fun t => t.date.day,
    component "Hour" fun t => t.hour,
    component "Minute" fun t => t.minute,
    component "Second" fun t => t.secondOfMinute,
    component "DayOfYear" fun t => t.date.ordinal,
    component "DayOfWeek" fun t => t.date.weekday,
    ⟨"Date", dateTimeTag, .dateTime, true, [.getter .dateTime fun v =>
      (momentReceiver v).map fun t => .dateTime (.midnight t.date)]⟩]

end GatedPredicate.Catalog
