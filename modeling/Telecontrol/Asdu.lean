import Telecontrol.Apdu
import Telecontrol.Cause
import Telecontrol.InformationObject

/-!
# Application service data units

An ASDU carries up to 127 information objects of one type under a common header. The objects are kept
as octets: an ASDU that is built appends to them, an ASDU that was received keeps them as they came, so
that it can be sent back unchanged.

* `StructureQualifier`: number of objects and the flag that tells how they are packed.
* `Asdu`: an ASDU; `Asdu.empty` starts one, `Asdu.add?` adds an object where it fits.
* `Asdu.element`, `Asdu.elements`: the objects of an ASDU.
* `Asdu.encode`, `Asdu.parse`: the octets of an ASDU; a supported type needs exactly as many octets as
  its objects take.
-/

namespace Telecontrol

/-- Number of objects of an ASDU and how they are packed: in a sequence only the first has an
address. -/
structure StructureQualifier where
  count : Nat := 0
  sequence : Bool := false
  deriving DecidableEq, Repr, Inhabited

namespace StructureQualifier

def ofOctet (b : UInt8) : StructureQualifier := ⟨b.toNat % 128, hasBits b 0x80⟩

/-- The octet of a qualifier; seven bits of the count travel. -/
def toOctet (q : StructureQualifier) : UInt8 :=
  UInt8.ofNat (q.count % 128) ||| flagBits q.sequence 0x80

end StructureQualifier

/-- Application service data unit. Its type may be unsupported, and its objects are kept as they
are encoded with the field widths of its parameters. -/
structure Asdu where
  parameters : Parameters
  typeCode : UInt8 := 0
  qualifier : StructureQualifier := {}
  cause : Cause
  test : Bool := false
  negative : Bool := false
  originator : UInt8
  commonAddress : UInt16
  payload : Octets := []
  deriving DecidableEq, Repr, Inhabited

namespace Asdu

def maxElements : Nat := 127

/-! ## Building -/

/-- An ASDU without objects. The first object gives it its type. -/
def empty (p : Parameters) (cause : Cause) (commonAddress : UInt16) : Asdu where
  parameters := p
  cause := cause
  originator := p.originator
  commonAddress := commonAddress

/-- Chooses how objects are packed, as long as there are none. -/
def withSequence (a : Asdu) (sequence : Bool) : Asdu :=
  if a.qualifier.count = 0 then { a with qualifier := { a.qualifier with sequence } } else a

def withCause (a : Asdu) (cause : Cause) : Asdu := { a with cause }

def withTest (a : Asdu) (test : Bool) : Asdu := { a with test }

def withNegative (a : Asdu) (negative : Bool) : Asdu := { a with negative }

def withOriginator (a : Asdu) (originator : UInt8) : Asdu := { a with originator }

def typeId? (a : Asdu) : Option TypeId := TypeId.ofCode? a.typeCode

def count (a : Asdu) : Nat := a.qualifier.count

def isSequence (a : Asdu) : Bool := a.qualifier.sequence

def encodedLength (a : Asdu) : Nat := a.parameters.headerSize + a.payload.length

/-- Whether an address continues those of a sequence. -/
def continues (a : Asdu) (address : UInt32) : Bool :=
  match a.parameters.readAddress a.payload with
  | .ok (first, _) => address == first + UInt32.ofNat a.count
  | .error _ => false

/-- Whether an object is packed with its address. -/
def packsAddress (a : Asdu) : Bool := !(a.isSequence && decide (0 < a.count))

/-- Whether an object can be added: it has the type of the objects before it, there are fewer than 127
of them, it continues the sequence if there is one, and it fits into a frame. -/
def accepts (a : Asdu) (o : InformationObject) : Bool :=
  (a.count == 0 || o.element.typeId.code == a.typeCode)
    && decide (a.count < maxElements)
    && (!a.isSequence
      || o.element.typeId.supportsSequence && (a.count == 0 || a.continues o.address))
    && decide
      (a.encodedLength + o.encodedSize a.parameters a.packsAddress ≤ Apdu.maxAsduLength)

/-- The ASDU with one more object, if the object can be added. -/
def add? (a : Asdu) (o : InformationObject) : Option Asdu :=
  if a.accepts o then
    some
      { a with
        typeCode := o.element.typeId.code
        qualifier := { a.qualifier with count := a.count + 1 }
        payload := a.payload ++ o.encode a.parameters a.packsAddress }
  else none

/-- Adds the objects that can be added, in order. -/
def addAll (a : Asdu) (objects : List InformationObject) : Asdu :=
  objects.foldl (fun a o => (a.add? o).getD a) a

/-! ## Reading -/

def element (a : Asdu) (index : Nat) : Except Fault InformationObject := do
  let t ← TypeId.ofCode a.typeCode
  if a.count ≤ index then
    throw (.parsing s!"element index {index} out of bounds ({a.count} elements)")
  let width := a.parameters.objectAddressSize
  if a.isSequence && decide (0 < index) then
    let (first, _) ← a.parameters.readAddress a.payload
    let field := a.payload.drop (width + index * t.elementSize)
    InformationObject.decode t a.parameters field (some (first + UInt32.ofNat index))
  else
    let field := a.payload.drop (index * (width + t.elementSize))
    InformationObject.decode t a.parameters field none

def elements (a : Asdu) : List (Except Fault InformationObject) :=
  (List.range a.count).map a.element

/-! ## On the wire -/

/-- The octet of the cause with its two flags. -/
def causeOctet (a : Asdu) : UInt8 :=
  a.cause.code ||| flagBits a.test 0x80 ||| flagBits a.negative 0x40

/-- The data unit identifier. -/
def header (a : Asdu) : Octets :=
  [a.typeCode, a.qualifier.toOctet, a.causeOctet]
    ++ (if a.parameters.causeSize = 2 then [a.originator] else [])
    ++ Octets.ofNat (if a.parameters.commonAddressSize = 2 then 2 else 1) a.commonAddress.toNat

def encode (a : Asdu) : Octets := a.header ++ a.payload

/-- Number of octets that `count` objects of a type take. -/
def payloadSize (p : Parameters) (t : TypeId) (q : StructureQualifier) : Nat :=
  if q.count = 0 then 0
  else if q.sequence then p.objectAddressSize + q.count * t.elementSize
  else q.count * (p.objectAddressSize + t.elementSize)

/-- The ASDU whose header and payload are given by their octets. -/
def ofOctets (p : Parameters) (bs : Octets) : Asdu :=
  let octet (i : Nat) : UInt8 := bs.getD i 0
  let afterCause := if p.causeSize = 2 then 4 else 3
  let addressSize := if p.commonAddressSize = 2 then 2 else 1
  { parameters := p
    typeCode := octet 0
    qualifier := .ofOctet (octet 1)
    cause := .ofCode (octet 2)
    test := hasBits (octet 2) 0x80
    negative := hasBits (octet 2) 0x40
    originator := if p.causeSize = 2 then octet 3 else 0
    commonAddress := UInt16.ofNat (Octets.toNat ((bs.drop afterCause).take addressSize))
    payload := bs.drop p.headerSize }

/-- The ASDU of an octet string. A supported type must come with exactly the octets of its objects; an
unsupported type and a cause without a meaning are kept as they are. -/
def parse (p : Parameters) (bs : Octets) : Except Fault Asdu :=
  if bs.length < p.headerSize then
    .error (.parsing s!"ASDU needs {p.headerSize} header bytes, got {bs.length}")
  else
    let a := ofOctets p bs
    match a.typeId? with
    | none => .ok a
    | some t =>
      let expected := payloadSize p t a.qualifier
      if a.payload.length = expected then .ok a
      else
        let need := s!"needs {expected} payload bytes, got {a.payload.length}"
        .error (.parsing s!"{t} with {a.count} elements {need}")

end Asdu

instance : ToString Asdu where
  toString a :=
    let name :=
      match a.typeId? with
      | some t => toString t
      | none => s!"type {a.typeCode}"
    let mark (flag : Bool) (text : String) := if flag then text else ""
    s!"{name} COT={a.cause} CA={a.commonAddress} n={a.count}"
      ++ mark a.isSequence " SQ" ++ mark a.negative " NEG" ++ mark a.test " TEST"

end Telecontrol
