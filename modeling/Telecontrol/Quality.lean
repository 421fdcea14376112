import Telecontrol.Layout

/-!
# Quality descriptors

The flags that say how far a reported value can be trusted.

* `Quality`: the descriptor of measured values and points. It has an octet of its own, or it shares the
  octet of a point, whose value bits then take the place of the overflow flag.
* `ProtectionQuality`: the descriptor of events of protection equipment.
-/

namespace Telecontrol

/-- The bits of `mask` if a flag is set. -/
def flagBits (flag : Bool) (mask : UInt8) : UInt8 := if flag then mask else 0

def hasBits (octet mask : UInt8) : Bool := octet &&& mask != 0

structure Quality where
  overflow : Bool := false
  blocked : Bool := false
  substituted : Bool := false
  notTopical : Bool := false
  invalid : Bool := false
  deriving DecidableEq, Repr, Inhabited

namespace Quality

/-- The quality of a value that must not be used. -/
def unusable : Quality := { invalid := true }

def ofOctet (b : UInt8) : Quality where
  overflow := hasBits b 0x01
  blocked := hasBits b 0x10
  substituted := hasBits b 0x20
  notTopical := hasBits b 0x40
  invalid := hasBits b 0x80

/-- The quality in the upper half of the octet of a point. -/
def ofPointOctet (b : UInt8) : Quality := ofOctet (b &&& 0xF0)

/-- The bits that the quality takes in the octet of a point. -/
def toPointOctet (q : Quality) : UInt8 :=
  flagBits q.blocked 0x10 ||| flagBits q.substituted 0x20 ||| flagBits q.notTopical 0x40
    ||| flagBits q.invalid 0x80

def toOctet (q : Quality) : UInt8 := q.toPointOctet ||| flagBits q.overflow 0x01

/-- Whether no flag is set. -/
def isGood (q : Quality) : Bool := q.toOctet == 0

def layout : Layout Quality := .packed ofOctet toOctet

end Quality

/-- Quality of an event of protection equipment. -/
structure ProtectionQuality where
  reserved : Bool := false
  elapsedTimeInvalid : Bool := false
  blocked : Bool := false
  substituted : Bool := false
  notTopical : Bool := false
  invalid : Bool := false
  deriving DecidableEq, Repr, Inhabited

namespace ProtectionQuality

/-- The quality in an octet; the two low bits belong to other fields. -/
def ofOctet (b : UInt8) : ProtectionQuality where
  reserved := hasBits b 0x04
  elapsedTimeInvalid := hasBits b 0x08
  blocked := hasBits b 0x10
  substituted := hasBits b 0x20
  notTopical := hasBits b 0x40
  invalid := hasBits b 0x80

def toOctet (q : ProtectionQuality) : UInt8 :=
  flagBits q.reserved 0x04 ||| flagBits q.elapsedTimeInvalid 0x08 ||| flagBits q.blocked 0x10
    ||| flagBits q.substituted 0x20 ||| flagBits q.notTopical 0x40 ||| flagBits q.invalid 0x80

def layout : Layout ProtectionQuality := .packed ofOctet toOctet

end ProtectionQuality

end Telecontrol
