import Telecontrol.ShortFloat

/-!
# Analog values

Measured values and set points in two octets.

* `Scaled`: a signed integer; what does not fit is clamped.
* `Normalized`: a fraction of the full scale in [-1, 1]; the full scale is 32767.
-/

namespace Telecontrol

def signed16 : Layout Int16 := Layout.word16.map UInt16.toInt16 Int16.toUInt16

def signed32 : Layout Int32 := Layout.word32.map UInt32.toInt32 Int32.toUInt32

/-- The nearest number that two octets can hold. -/
def clamp16 (n : Int) : Int16 := Int16.ofInt (max (-32768) (min 32767 n))

structure Scaled where
  raw : Int16 := 0
  deriving DecidableEq, Repr, Inhabited

namespace Scaled

def ofInt (n : Int) : Scaled := ⟨clamp16 n⟩

/-- The scaled value nearest to a floating point number, a tie going away from zero. -/
def ofFloat (f : ShortFloat) : Scaled := ofInt f.datum.roundAway

def layout : Layout Scaled := signed16.map Scaled.mk Scaled.raw

end Scaled

structure Normalized where
  raw : Int16 := 0
  deriving DecidableEq, Repr, Inhabited

namespace Normalized

/-- The raw number of the fraction one. -/
def fullScale : Nat := 32767

/-- The product of a value with the full scale, rounded to a floating point number. Values beyond the
unit interval count as its ends, and not-a-number counts as zero. -/
def scaledUp : ShortFloat.Datum → ShortFloat
  | .nan => ⟨0⟩
  | .infinite negative => .ofRatio negative fullScale 1
  | .finite negative units =>
    .ofUnits negative (min units ShortFloat.unitsPerOne * fullScale) 1

/-- The normalized value nearest to a floating point number, a tie going away from zero. -/
def ofFloat (f : ShortFloat) : Normalized :=
  ⟨clamp16 (scaledUp f.datum).datum.roundAway⟩

def toFloat (v : Normalized) : ShortFloat :=
  .ofRatio (decide (v.raw.toInt < 0)) v.raw.toInt.natAbs fullScale

def layout : Layout Normalized := signed16.map Normalized.mk Normalized.raw

end Normalized

end Telecontrol
