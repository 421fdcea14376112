import Telecontrol.Value.Analog
import Telecontrol.Quality

/-!
# Counter readings

`CounterReading` is an integrated total with its sequence number and flags.
-/

namespace Telecontrol

/-- Reading of a counter; five bits of its number travel. The counter may have overflowed
(`carry`) or been set (`adjusted`) in its period. -/
structure CounterReading where
  value : Int32 := 0
  sequenceNumber : UInt8 := 0
  carry : Bool := false
  adjusted : Bool := false
  invalid : Bool := false
  deriving DecidableEq, Repr, Inhabited

namespace CounterReading

/-- A valid reading, its sequence number reduced to five bits. -/
def reading (value : Int32) (sequenceNumber : UInt8) : CounterReading :=
  { value, sequenceNumber := sequenceNumber &&& 0x1F }

/-- The octet of the sequence number and the flags. -/
def flagOctet (r : CounterReading) : UInt8 :=
  r.sequenceNumber &&& 0x1F ||| flagBits r.carry 0x20 ||| flagBits r.adjusted 0x40
    ||| flagBits r.invalid 0x80

def ofFlagOctet (value : Int32) (b : UInt8) : CounterReading where
  value := value
  sequenceNumber := b &&& 0x1F
  carry := hasBits b 0x20
  adjusted := hasBits b 0x40
  invalid := hasBits b 0x80

def layout : Layout CounterReading :=
  (signed32.followedBy .octet).map (fun (value, b) => ofFlagOctet value b)
    fun r => (r.value, r.flagOctet)

end CounterReading

end Telecontrol
