import Telecontrol.Apci

/-!
# Frames

A frame on the byte stream is a start octet, a length octet, four control octets and, in an I-frame,
an ASDU. The framing is strict: a stream that departs from it cannot be recovered.

* `Apdu`: a frame; `Apdu.encode` writes it.
* `Apdu.decode`: what stands at the front of a received octet string. An incomplete frame stays
  where it is.
* `Apdu.decodeAll`: the frames of an octet string up to the first fault or the first incomplete one.
-/

namespace Telecontrol

/-- A frame: control information and, in an I-frame, the octets of an ASDU. -/
structure Apdu where
  apci : Apci
  asdu : Option Octets := none
  deriving DecidableEq, Repr, Inhabited

inductive Direction where
  | sent
  | received
  deriving DecidableEq, Repr, Inhabited

def Direction.label : Direction → String
  | sent => "Sent"
  | received => "Received"

namespace Apdu

def startOctet : UInt8 := 0x68

/-- The smallest value of the length octet: the control octets alone. -/
def minLength : Nat := 4

/-- The largest value of the length octet. -/
def maxLength : Nat := 253

def maxAsduLength : Nat := maxLength - minLength

def information (send receive : Nat) (asdu : Octets) : Apdu := ⟨.information send receive, some asdu⟩

def supervisory (receive : Nat) : Apdu := ⟨.supervisory receive, none⟩

def unnumbered (function : ControlFunction) : Apdu := ⟨.unnumbered function, none⟩

def asduLength (a : Apdu) : Nat := (a.asdu.getD []).length

/-- The octets of a frame, if its ASDU is not too long. -/
def encode (a : Apdu) : Except Fault Octets :=
  if maxAsduLength < a.asduLength then
    .error (.protocol s!"ASDU of {a.asduLength} bytes exceeds {maxAsduLength}")
  else
    .ok (startOctet :: UInt8.ofNat (minLength + a.asduLength) :: a.apci.encode ++ a.asdu.getD [])

/-- The frame that a complete string of start, length, control and ASDU octets holds. -/
def ofOctets (frame : Octets) : Except Fault Apdu := do
  let apci ← Apci.parse (frame.drop 2)
  let asdu := frame.drop 6
  match apci.isInformation, asdu.isEmpty with
  | true, false => return ⟨apci, some asdu⟩
  | true, true => throw (.protocol "I-frame without ASDU")
  | false, false => throw (.protocol s!"{apci} frame with {asdu.length} trailing bytes")
  | false, true => return ⟨apci, none⟩

/-- What stands at the front of a received octet string: a frame that is not complete yet, octets
that no frame can start with, or a complete frame, the octets behind it and what it holds. Only a
complete frame is taken. -/
inductive Decoded where
  | incomplete
  | refused (fault : Fault)
  | frame (octets rest : Octets) (content : Except Fault Apdu)

/-- Looks for a frame at the front of an octet string. -/
def decode : Octets → Decoded
  | [] => .incomplete
  | [start] =>
    if start ≠ startOctet then .refused (.protocol s!"invalid start byte 0x{Text.hexOctet start}")
    else .incomplete
  | start :: length :: body =>
    if start ≠ startOctet then .refused (.protocol s!"invalid start byte 0x{Text.hexOctet start}")
    else if length.toNat < minLength ∨ maxLength < length.toNat then
      .refused (.protocol s!"invalid APDU length {length}")
    else if body.length < length.toNat then .incomplete
    else
      let octets := start :: length :: body.take length.toNat
      .frame octets (body.drop length.toNat) (ofOctets octets)

/-- The codec of a stream as a diagnostic record; `observed` tells whether its frames are reported. -/
def describeCodec (observed : Bool) : String :=
  Text.record "Iec104Codec" [("raw_handler", toString observed)] false

/-- Every frame takes octets off the stream. -/
theorem length_rest_lt {bs octets rest : Octets} {content : Except Fault Apdu}
    (h : decode bs = .frame octets rest content) : rest.length < bs.length := by
  match bs with
  | [] => simp [decode] at h
  | [start] =>
    simp only [decode] at h
    split at h <;> cases h
  | start :: length :: body =>
    simp only [decode] at h
    split at h
    · cases h
    · split at h
      · cases h
      · split at h
        · cases h
        · cases h
          simp only [List.length_drop, List.length_cons]
          omega

/-- What a received octet string holds, up to the first fault. `seen` holds the octets of every
complete frame: one more than `apdus` if the last is malformed. -/
structure Decoding where
  apdus : List Apdu := []
  seen : List Octets := []
  fault : Option Fault := none
  rest : Octets := []

/-- Decodes frame after frame until one is incomplete or faulty. -/
def decodeAll (bs : Octets) : Decoding :=
  match _h : decode bs with
  | .incomplete => { rest := bs }
  | .refused fault => { fault := some fault, rest := bs }
  | .frame octets rest (.error fault) => { seen := [octets], fault := some fault, rest }
  | .frame octets rest (.ok apdu) =>
    let later := decodeAll rest
    { later with apdus := apdu :: later.apdus, seen := octets :: later.seen }
  termination_by bs.length
  decreasing_by exact length_rest_lt (by assumption)

end Apdu

instance : ToString Apdu where
  toString a :=
    match a.asdu with
    | some asdu => s!"{a.apci} [{asdu.length} bytes]"
    | none => toString a.apci

end Telecontrol
