import Telecontrol.Quality
import Telecontrol.Text

/-!
# Binary times

The three binary time formats. The fields are kept as they are given; only the bits that a field has on
the wire travel.

* `Cp16Time`: an elapsed time.
* `Cp24Time`: a time within the hour.
* `Cp56Time`: a date and a time of day, with a year of two digits.
-/

namespace Telecontrol

/-- An elapsed time in two octets. -/
structure Cp16Time where
  milliseconds : UInt16 := 0
  deriving DecidableEq, Repr, Inhabited

def Cp16Time.layout : Layout Cp16Time := Layout.word16.map Cp16Time.mk Cp16Time.milliseconds

/-- The octet of a minute with its two flags. -/
def minuteOctet (minutes : UInt8) (substituted invalid : Bool) : UInt8 :=
  minutes &&& 0x3F ||| flagBits substituted 0x40 ||| flagBits invalid 0x80

/-- A time within the hour in three octets; the milliseconds count within the minute. -/
structure Cp24Time where
  milliseconds : UInt16 := 0
  minutes : UInt8 := 0
  substituted : Bool := false
  invalid : Bool := false
  deriving DecidableEq, Repr, Inhabited

namespace Cp24Time

/-- The time tag of a minute, a second and a millisecond; each is cut to the end of its range. -/
def ofParts (minute second : UInt8) (millisecond : UInt16) : Cp24Time where
  milliseconds := (min second 59).toUInt16 * 1000 + min millisecond 999
  minutes := min minute 59

def second (t : Cp24Time) : UInt8 := (t.milliseconds / 1000).toUInt8

def millisecond (t : Cp24Time) : UInt16 := t.milliseconds % 1000

def layout : Layout Cp24Time :=
  (Layout.word16.followedBy .octet).map
    (fun (milliseconds, b) =>
      { milliseconds, minutes := b &&& 0x3F, substituted := hasBits b 0x40
        invalid := hasBits b 0x80 })
    fun t => (t.milliseconds, minuteOctet t.minutes t.substituted t.invalid)

end Cp24Time

/-- A date and a time of day in seven octets. The milliseconds count within the minute and the
year within the century; a day of the week counts from 1 for Monday, and 0 is none. -/
structure Cp56Time where
  milliseconds : UInt16 := 0
  minutes : UInt8 := 0
  hours : UInt8 := 0
  day : UInt8 := 0
  dayOfWeek : UInt8 := 0
  month : UInt8 := 0
  year : UInt8 := 0
  invalid : Bool := false
  substituted : Bool := false
  summerTime : Bool := false
  deriving DecidableEq, Repr, Inhabited

namespace Cp56Time

def second (t : Cp56Time) : UInt8 := (t.milliseconds / 1000).toUInt8

def millisecond (t : Cp56Time) : UInt16 := t.milliseconds % 1000

def layout : Layout Cp56Time :=
  (Layout.word16.followedBy (.followedBy .octet (.followedBy .octet (.followedBy .octet
      (.followedBy .octet .octet))))).map
    (fun (milliseconds, minute, hour, day, month, year) =>
      { milliseconds
        minutes := minute &&& 0x3F
        substituted := hasBits minute 0x40
        invalid := hasBits minute 0x80
        hours := hour &&& 0x1F
        summerTime := hasBits hour 0x80
        day := day &&& 0x1F
        dayOfWeek := day >>> (5 : UInt8)
        month := month &&& 0x0F
        year := year &&& 0x7F })
    fun t =>
      (t.milliseconds,
        minuteOctet t.minutes t.substituted t.invalid,
        t.hours &&& 0x1F ||| flagBits t.summerTime 0x80,
        t.day &&& 0x1F ||| (t.dayOfWeek &&& 0x07) <<< (5 : UInt8),
        t.month &&& 0x0F,
        t.year &&& 0x7F)

end Cp56Time

instance : ToString Cp56Time where
  toString t :=
    let two (b : UInt8) := Text.padded 2 b.toNat
    let date := s!"{two t.year}-{two t.month}-{two t.day}"
    let time := s!"{two t.hours}:{two t.minutes}:{two t.second}"
    let mark := if t.invalid then " IV" else ""
    s!"{date} {time}.{Text.padded 3 t.millisecond.toNat}{mark}"

end Telecontrol
