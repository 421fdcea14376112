import Telecontrol.Text

/-!
# Calendar

The Gregorian calendar, extended to all years, and the wall clock.

* `Date`: a day of the calendar; `Date.Valid` says which triples are days.
* `Date.dayNumber`, `Date.ofDayNumber`: days counted from the first of March of the year zero. A year
  that starts in March has its leap day at the end, so both are arithmetic without a table.
* `WallClock`: a date with a time of day, and `WallClock.shift` to another offset.
-/

namespace Telecontrol

def isLeapYear (year : Int) : Bool :=
  decide (year % 4 = 0 ∧ (year % 100 ≠ 0 ∨ year % 400 = 0))

def daysInMonth (year : Int) (month : Nat) : Nat :=
  if month = 2 then if isLeapYear year then 29 else 28
  else if month = 4 ∨ month = 6 ∨ month = 9 ∨ month = 11 then 30
  else 31

structure Date where
  year : Int
  month : Nat
  day : Nat
  deriving DecidableEq, Repr, Inhabited

namespace Date

/-- Dates reach from this year up to `lastYear`. -/
def firstYear : Int := -262143

def lastYear : Int := 262142

def Valid (d : Date) : Prop :=
  firstYear ≤ d.year ∧ d.year ≤ lastYear ∧ 1 ≤ d.month ∧ d.month ≤ 12 ∧ 1 ≤ d.day
    ∧ d.day ≤ daysInMonth d.year d.month

instance (d : Date) : Decidable d.Valid := by unfold Valid; infer_instance

/-- Days since the first of March of the year zero. -/
def dayNumber (d : Date) : Int :=
  let year := if d.month ≤ 2 then d.year - 1 else d.year
  let month : Int := ((d.month + 9) % 12 : Nat)
  365 * year + year / 4 - year / 100 + year / 400 + (153 * month + 2) / 5 + d.day - 1

def ofDayNumber (n : Int) : Date :=
  let cycle := n / 146097
  let dayOfCycle := n % 146097
  let yearOfCycle :=
    (dayOfCycle - dayOfCycle / 1460 + dayOfCycle / 36524 - dayOfCycle / 146096) / 365
  let dayOfYear := dayOfCycle - (365 * yearOfCycle + yearOfCycle / 4 - yearOfCycle / 100)
  let month := (5 * dayOfYear + 2) / 153
  let year := 400 * cycle + yearOfCycle
  { year := if month < 10 then year else year + 1
    month := (if month < 10 then month + 3 else month - 9).toNat
    day := (dayOfYear - (153 * month + 2) / 5 + 1).toNat }

/-- Day of the week, from 1 for Monday. -/
def dayOfWeek (d : Date) : Nat := ((d.dayNumber + 2) % 7).toNat + 1

end Date

/-- A date with a time of day. Within a leap second the nanoseconds go on beyond a second. -/
structure WallClock where
  date : Date
  hour : Nat := 0
  minute : Nat := 0
  second : Nat := 0
  nanosecond : Nat := 0
  deriving DecidableEq, Repr, Inhabited

namespace WallClock

def secondOfDay (c : WallClock) : Nat := c.hour * 3600 + c.minute * 60 + c.second

/-- The same instant on a clock that is `seconds` ahead. -/
def shift (c : WallClock) (seconds : Int) : WallClock :=
  let total := c.date.dayNumber * 86400 + c.secondOfDay + seconds
  let second := (total % 86400).toNat
  { date := .ofDayNumber (total / 86400)
    hour := second / 3600
    minute := second % 3600 / 60
    second := second % 60
    nanosecond := c.nanosecond }

/-- A year with four digits; other years carry a sign. -/
def yearText (year : Int) : String :=
  if year < 0 then "-" ++ Text.padded 4 year.natAbs
  else if 9999 < year then "+" ++ toString year
  else Text.padded 4 year.natAbs

/-- Date and time to the millisecond, separated by a `T`. -/
def iso (c : WallClock) : String :=
  let two := Text.padded 2
  let date := s!"{yearText c.date.year}-{two c.date.month}-{two c.date.day}"
  let time := s!"{two c.hour}:{two c.minute}:{two c.second}"
  s!"{date}T{time}.{Text.padded 3 (c.nanosecond / 1000000)}"

end WallClock

end Telecontrol
