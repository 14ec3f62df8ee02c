/-
The proleptic Gregorian calendar, and moments in it.

A moment is a day and a time of day; the day is counted from 1970-01-01, so days
of the week and lengths of time are plain arithmetic, and only month arithmetic
and text need the year, month and day of a date. The calendar is bounded: it runs
from the first day of the year -262143 to the last day of the year 262142, and
every operation that would leave it has no result.
-/
import MonitorControl.Text.Integer

set_option autoImplicit false

namespace MonitorControl

/-! ## Dates -/

/-- **A date** of the proleptic Gregorian calendar; the year before 1 is 0. -/
structure Date where
  year : Int
  month : Nat
  day : Nat
  deriving DecidableEq, Repr

/-- A leap year has 29 days in February. -/
def isLeapYear (year : Int) : Bool :=
  year % 4 == 0 && (year % 100 != 0 || year % 400 == 0)

/-- The number of days in a month. -/
def daysInMonth (year : Int) (month : Nat) : Nat :=
  if month == 2 then (if isLeapYear year then 29 else 28)
  else if month == 4 || month == 6 || month == 9 || month == 11 then 30
  else 31

/-- The number of days from 1970-01-01 to a date.

Years are counted from March, so that a leap day is the last of its year, in eras of 400 years,
each of 146097 days. -/
def Date.toDayNumber (d : Date) : Int :=
  let year := if d.month ≤ 2 then d.year - 1 else d.year
  let era := year / 400
  let yearOfEra := year % 400
  let monthFromMarch : Int := ((d.month + 9) % 12 : Nat)
  let dayOfYear := (153 * monthFromMarch + 2) / 5 + d.day - 1
  let dayOfEra := yearOfEra * 365 + yearOfEra / 4 - yearOfEra / 100 + dayOfYear
  era * 146097 + dayOfEra - 719468

/-- The date that is `n` days after 1970-01-01. -/
def Date.ofDayNumber (n : Int) : Date :=
  let shifted := n + 719468
  let era := shifted / 146097
  let dayOfEra := shifted % 146097
  let yearOfEra := (dayOfEra - dayOfEra / 1460 + dayOfEra / 36524 - dayOfEra / 146096) / 365
  let dayOfYear := dayOfEra - (365 * yearOfEra + yearOfEra / 4 - yearOfEra / 100)
  let monthFromMarch := (5 * dayOfYear + 2) / 153
  let day := dayOfYear - (153 * monthFromMarch + 2) / 5 + 1
  let month := if monthFromMarch < 10 then monthFromMarch + 3 else monthFromMarch - 9
  { year := yearOfEra + era * 400 + (if month ≤ 2 then 1 else 0)
    month := month.toNat
    day := day.toNat }

/-- The first year of the calendar. -/
def firstYear : Int := -262143

/-- The last year of the calendar. -/
def lastYear : Int := 262142

/-- The year, month and day name a date of the calendar. -/
def Date.isValid (d : Date) : Bool :=
  firstYear ≤ d.year && d.year ≤ lastYear && 1 ≤ d.month && d.month ≤ 12 && 1 ≤ d.day &&
    d.day ≤ daysInMonth d.year d.month

/-- The first day of the calendar. -/
def firstDay : Int := (Date.mk firstYear 1 1).toDayNumber

/-- The last day of the calendar. -/
def lastDay : Int := (Date.mk lastYear 12 31).toDayNumber

/-! ## Days of the week -/

/-- **A day of the week.** -/
inductive Weekday where
  | monday
  | tuesday
  | wednesday
  | thursday
  | friday
  | saturday
  | sunday
  deriving DecidableEq, Repr

/-- The number of days since Monday. -/
def Weekday.fromMonday : Weekday → Nat
  | .monday => 0
  | .tuesday => 1
  | .wednesday => 2
  | .thursday => 3
  | .friday => 4
  | .saturday => 5
  | .sunday => 6

/-- The place of a day in its week, counted from Monday; 1970-01-01 was a Thursday. -/
def weekdayIndex (day : Int) : Int := (day + 3) % 7

/-! ## Moments -/

/-- **A moment**: a day and a time of day. Second 60 is a leap second; it can be written in an
absolute time, and no seconds that are added lead to it. -/
structure Moment where
  day : Int
  hour : Nat
  minute : Nat
  second : Nat
  deriving DecidableEq, Repr

/-- The number of seconds in a day. -/
def secondsPerDay : Int := 86400

namespace Moment

/-- The seconds from the start of 1970 to a moment. -/
def toSeconds (m : Moment) : Int :=
  m.day * secondsPerDay + Int.ofNat (m.hour * 3600 + m.minute * 60 + m.second)

/-- The moment a number of seconds after the start of 1970. -/
def ofSeconds (s : Int) : Moment :=
  let inDay := (s % secondsPerDay).toNat
  { day := s / secondsPerDay
    hour := inDay / 3600
    minute := inDay / 60 % 60
    second := inDay % 60 }

/-- The moment lies in the calendar. -/
def inCalendar (m : Moment) : Bool := firstDay ≤ m.day && m.day ≤ lastDay

/-- The moment, if it lies in the calendar. -/
def inCalendar? (m : Moment) : Option Moment := if m.inCalendar then some m else none

/-- The start of the day. -/
def midnight (m : Moment) : Moment := ⟨m.day, 0, 0, 0⟩

/-- The date of a moment. -/
def date (m : Moment) : Date := .ofDayNumber m.day

/-! ## Arithmetic -/

/-- **Adding seconds**; none if the result leaves the calendar. From a leap second, seconds forwards
are counted from the second before it, and seconds backwards from the second after it. -/
def addSeconds? (m : Moment) (s : Int) : Option Moment :=
  if s == 0 then m.inCalendar?
  else if m.second == 60 && 0 < s then (ofSeconds (m.toSeconds - 1 + s)).inCalendar?
  else (ofSeconds (m.toSeconds + s)).inCalendar?

/-- The same time of day, some days later. -/
def shiftDays (m : Moment) (days : Int) : Moment := { m with day := m.day + days }

/-- **Adding months** keeps the day of the month, or takes the last day of a shorter month; none if
the result leaves the calendar. -/
def addMonths? (m : Moment) (months : Int) : Option Moment :=
  let date := m.date
  let total := date.year * 12 + Int.ofNat date.month - 1 + months
  let year := total / 12
  let month := (total % 12).toNat + 1
  if firstYear ≤ year && year ≤ lastYear then
    some { m with day := (Date.mk year month (min date.day (daysInMonth year month))).toDayNumber }
  else none

/-! ## Text -/

/-- The text of a year: four digits from 0 to 9999, else a sign and at least four digits. -/
def yearText (year : Int) : Text :=
  if year < 0 then '-' :: Text.ofNatPadded 4 year.natAbs
  else if year ≤ 9999 then Text.ofNatPadded 4 year.natAbs
  else '+' :: Text.ofNatPadded 4 year.natAbs

/-- **The text of a moment**: `YYYY-MM-DD HH:MM:SS`. -/
def display (m : Moment) : Text :=
  let date := m.date
  yearText date.year ++ '-' :: Text.ofNatPadded 2 date.month ++ '-' :: Text.ofNatPadded 2 date.day ++
    ' ' :: Text.ofNatPadded 2 m.hour ++ ':' :: Text.ofNatPadded 2 m.minute ++
    ':' :: Text.ofNatPadded 2 m.second

end Moment

end MonitorControl
