import Telecontrol.Element
import Telecontrol.Parameters

/-!
# Information objects

An information object is an element under an address. Where elements are packed as a sequence only the
first has an address on the wire, and the others count up from it.

* `Parameters.writeAddress`, `Parameters.readAddress`: the address field, of any width.
* `InformationObject`: an object, with `InformationObject.encode` and `InformationObject.decode`.
-/

namespace Telecontrol

namespace Parameters

/-- The octets of an object address; octets beyond the fourth are zero. -/
def writeAddress (p : Parameters) (address : UInt32) : Octets :=
  Octets.ofNat p.objectAddressSize address.toNat

/-- The object address at the front of an octet string and the octets behind it; octets of the address
beyond the fourth do not count. -/
def readAddress (p : Parameters) (bs : Octets) : Except Fault (UInt32 × Octets) :=
  match Octets.split? p.objectAddressSize bs with
  | some (field, rest) => .ok (UInt32.ofNat (Octets.toNat field), rest)
  | none =>
    .error (.parsing
      s!"need {p.objectAddressSize} bytes for object address, got {bs.length}")

end Parameters

/-- An element under an address. -/
structure InformationObject where
  address : UInt32
  element : Element
  deriving DecidableEq, Inhabited

namespace InformationObject

def encodedSize (o : InformationObject) (p : Parameters) (withAddress : Bool) : Nat :=
  o.element.size + if withAddress then p.objectAddressSize else 0

def encode (o : InformationObject) (p : Parameters) (withAddress : Bool) : Octets :=
  (if withAddress then p.writeAddress o.address else []) ++ o.element.write

/-- The object of a type whose element is at the front of an octet string. -/
def ofElement (t : TypeId) (address : UInt32) (bs : Octets) : Except Fault InformationObject :=
  match Element.read t bs with
  | some element => .ok ⟨address, element⟩
  | none =>
    .error (.parsing s!"{t} element needs {t.elementSize} bytes, got {bs.length}")

/-- The object of a type at the front of an octet string. A later element of a sequence has no address
in the string: its address is given. -/
def decode (t : TypeId) (p : Parameters) (bs : Octets) (given : Option UInt32) :
    Except Fault InformationObject := do
  match given with
  | some address => ofElement t address bs
  | none =>
    let (address, rest) ← p.readAddress bs
    ofElement t address rest

end InformationObject

end Telecontrol
