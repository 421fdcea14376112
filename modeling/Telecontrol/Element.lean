import Telecontrol.Element.Value

/-!
# Elements

The element of an information object: the value and the time tag that its type calls for.

* `TypeId.layout`: value and time tag back to back.
* `Element`: an element of some type; `Element.write`, `Element.read`.
-/

namespace Telecontrol

def TypeId.layout (t : TypeId) : Layout (t.kind.Value × t.timeTag.Stamp) :=
  t.kind.layout.followedBy t.timeTag.layout

def TypeId.elementSize (t : TypeId) : Nat := t.layout.size

/-- The entry of a type in a diagnostic record. -/
def TypeId.describe (t : TypeId) : String :=
  Text.record "CatalogEntry"
    [("type_id", t.label), ("size", toString t.elementSize),
      ("supports_sequence", toString t.supportsSequence)]
    false

/-- An element of an information object. -/
structure Element where
  typeId : TypeId
  value : typeId.kind.Value
  time : typeId.timeTag.Stamp
  deriving DecidableEq, Inhabited

namespace Element

def size (e : Element) : Nat := e.typeId.elementSize

def write (e : Element) : Octets := e.typeId.layout.write (e.value, e.time)

/-- The element of a type at the front of an octet string; there is none in a string that is too
short. -/
def read (t : TypeId) (bs : Octets) : Option Element :=
  (t.layout.read bs).map fun ((value, time), _) => ⟨t, value, time⟩

def endOfInitialization (cause : UInt8) : Element := ⟨.endOfInitialization, cause, ()⟩

def interrogation (qualifier : UInt8) : Element := ⟨.interrogation, qualifier, ()⟩

def counterInterrogation (qualifier : UInt8) : Element := ⟨.counterInterrogation, qualifier, ()⟩

def readRequest : Element := ⟨.read, (), ()⟩

def clockSync (time : Cp56Time) : Element := ⟨.clockSync, time, ()⟩

def test (pattern : UInt16) : Element := ⟨.test, pattern, ()⟩

def testWithTime (counter : UInt16) (time : Cp56Time) : Element := ⟨.test56, counter, time⟩

def resetProcess (qualifier : UInt8) : Element := ⟨.resetProcess, qualifier, ()⟩

def delayAcquisition (delay : Cp16Time) : Element := ⟨.delayAcquisition, delay, ()⟩

end Element

/-! ## Qualifiers with a standard meaning -/

def stationInterrogation : UInt8 := 20

def generalCounterRequest : UInt8 := 5

def generalReset : UInt8 := 1

/-- Qualifier of a reset of the pending events with a time tag. -/
def pendingEventsReset : UInt8 := 2

def testPattern : UInt16 := 0x55AA

end Telecontrol
