import Telecontrol.Value.Point

/-!
# Protection equipment

* `ProtectionState`: the state of one event with its quality, in one octet.
* `StartEvents`: which parts of a protection started.
* `OutputCircuits`: which circuits a protection commanded.
-/

namespace Telecontrol

/-- State of a protection event with its quality. -/
structure ProtectionState where
  state : DoublePoint := .intermediate
  quality : ProtectionQuality := {}
  deriving DecidableEq, Repr, Inhabited

namespace ProtectionState

def ofOctet (b : UInt8) : ProtectionState := ⟨.ofOctet b, .ofOctet (b &&& 0xFC)⟩

def toOctet (e : ProtectionState) : UInt8 := e.state.toOctet ||| e.quality.toOctet &&& 0xFC

def layout : Layout ProtectionState := .packed ofOctet toOctet

end ProtectionState

/-- Start of operation of protection equipment. -/
structure StartEvents where
  general : Bool := false
  phaseL1 : Bool := false
  phaseL2 : Bool := false
  phaseL3 : Bool := false
  earthCurrent : Bool := false
  reverseDirection : Bool := false
  deriving DecidableEq, Repr, Inhabited

namespace StartEvents

def ofOctet (b : UInt8) : StartEvents where
  general := hasBits b 0x01
  phaseL1 := hasBits b 0x02
  phaseL2 := hasBits b 0x04
  phaseL3 := hasBits b 0x08
  earthCurrent := hasBits b 0x10
  reverseDirection := hasBits b 0x20

def toOctet (e : StartEvents) : UInt8 :=
  flagBits e.general 0x01 ||| flagBits e.phaseL1 0x02 ||| flagBits e.phaseL2 0x04
    ||| flagBits e.phaseL3 0x08 ||| flagBits e.earthCurrent 0x10
    ||| flagBits e.reverseDirection 0x20

def layout : Layout StartEvents := .packed ofOctet toOctet

end StartEvents

/-- Commands of protection equipment to output circuits. -/
structure OutputCircuits where
  general : Bool := false
  phaseL1 : Bool := false
  phaseL2 : Bool := false
  phaseL3 : Bool := false
  deriving DecidableEq, Repr, Inhabited

namespace OutputCircuits

def ofOctet (b : UInt8) : OutputCircuits where
  general := hasBits b 0x01
  phaseL1 := hasBits b 0x02
  phaseL2 := hasBits b 0x04
  phaseL3 := hasBits b 0x08

def toOctet (c : OutputCircuits) : UInt8 :=
  flagBits c.general 0x01 ||| flagBits c.phaseL1 0x02 ||| flagBits c.phaseL2 0x04
    ||| flagBits c.phaseL3 0x08

def layout : Layout OutputCircuits := .packed ofOctet toOctet

end OutputCircuits

end Telecontrol
