import Telecontrol.Time.Tag
import Telecontrol.Time.Calendar

/-!
# Times across centuries

A `Cp56Time` has a year of two digits. The year that it means is found from the first year of a window
of a hundred years.

* `Cp56Time.ofWallClock`: the time tag of a wall clock.
* `Cp56Time.fullYear`, `Cp56Time.toWallClock?`: the year and the wall clock of a time tag.
-/

namespace Telecontrol.Cp56Time

/-- The first year of the window that is used unless another is given. -/
def defaultStartYear : Int := 1970

/-- The time tag of a wall clock, cut to whole milliseconds. -/
def ofWallClock (c : WallClock) : Cp56Time where
  milliseconds := UInt16.ofNat (c.second * 1000 + min (c.nanosecond / 1000000) 999)
  minutes := UInt8.ofNat c.minute
  hours := UInt8.ofNat c.hour
  day := UInt8.ofNat c.date.day
  dayOfWeek := UInt8.ofNat c.date.dayOfWeek
  month := UInt8.ofNat c.date.month
  year := UInt8.ofNat (c.date.year % 100).toNat

/-- The year of a time tag. A year below that of `startYear` within the century belongs to the next
century. -/
def fullYear (t : Cp56Time) (startYear : Int) : Int :=
  let century := startYear.tdiv 100 * 100
  let year : Int := t.year.toNat
  if year < startYear.tmod 100 then century + 100 + year else century + year

/-- The wall clock of a time tag, if its fields name a day and a time of day. -/
def toWallClock? (t : Cp56Time) (startYear : Int) : Option WallClock :=
  let date : Date := ⟨t.fullYear startYear, t.month.toNat, t.day.toNat⟩
  if date.Valid ∧ t.hours.toNat < 24 ∧ t.minutes.toNat < 60 ∧ t.second.toNat < 60 then
    some
      { date
        hour := t.hours.toNat
        minute := t.minutes.toNat
        second := t.second.toNat
        nanosecond := t.millisecond.toNat * 1000000 }
  else none

end Telecontrol.Cp56Time
