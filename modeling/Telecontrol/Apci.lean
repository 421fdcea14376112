import Telecontrol.Octets
import Telecontrol.Fault
import Telecontrol.Text

/-!
# Control information

The four control octets that open every frame, in the three formats of the standard.

* `ControlFunction`: the functions of unnumbered frames and which of them confirms which.
* `Apci`: numbered information frames, supervisory frames and unnumbered frames, with
  `Apci.encode` and `Apci.parse`.

Sequence numbers count modulo `Apci.sequenceModulus`; the encoder reduces them.
-/

namespace Telecontrol

/-- Function of an unnumbered frame. -/
inductive ControlFunction where
  | startAct
  | startCon
  | stopAct
  | stopCon
  | testAct
  | testCon
  | undefined (octet : UInt8)
  deriving DecidableEq, Repr, Inhabited

namespace ControlFunction

def toOctet : ControlFunction → UInt8
  | startAct => 0x07
  | startCon => 0x0B
  | stopAct => 0x13
  | stopCon => 0x23
  | testAct => 0x43
  | testCon => 0x83
  | undefined octet => octet

def ofOctet (octet : UInt8) : ControlFunction :=
  if octet = 0x07 then startAct
  else if octet = 0x0B then startCon
  else if octet = 0x13 then stopAct
  else if octet = 0x23 then stopCon
  else if octet = 0x43 then testAct
  else if octet = 0x83 then testCon
  else undefined octet

/-- The function of a control octet, if one is defined. -/
def ofOctet? (octet : UInt8) : Except Fault ControlFunction :=
  match ofOctet octet with
  | undefined octet => .error (.protocol s!"unknown U-frame function 0x{Text.hexOctet octet}")
  | function => .ok function

def label : ControlFunction → String
  | startAct => "StartDtAct"
  | startCon => "StartDtCon"
  | stopAct => "StopDtAct"
  | stopCon => "StopDtCon"
  | testAct => "TestFrAct"
  | testCon => "TestFrCon"
  | undefined octet => s!"Unknown({octet})"

/-- The confirmation that answers an activation. -/
def confirmation : ControlFunction → Option ControlFunction
  | startAct => some startCon
  | stopAct => some stopCon
  | testAct => some testCon
  | _ => none

end ControlFunction

instance : ToString ControlFunction where
  toString
    | .startAct => "STARTDT act"
    | .startCon => "STARTDT con"
    | .stopAct => "STOPDT act"
    | .stopCon => "STOPDT con"
    | .testAct => "TESTFR act"
    | .testCon => "TESTFR con"
    | .undefined octet => s!"0x{Text.hexOctet octet}"

/-- Control information of a frame. `send` is the frame's own number N(S), and `receive` the
number N(R) of the frame expected next. -/
inductive Apci where
  | information (send receive : Nat)
  | supervisory (receive : Nat)
  | unnumbered (function : ControlFunction)
  deriving DecidableEq, Repr, Inhabited

inductive FrameFormat where
  | information
  | supervisory
  | unnumbered
  deriving DecidableEq, Repr, Inhabited

def FrameFormat.label : FrameFormat → String
  | information => "IFrame"
  | supervisory => "SFrame"
  | unnumbered => "UFrame"

namespace Apci

def sequenceModulus : Nat := 32768

/-- A sequence number in two octets: seven bits above an unused bit, then eight bits. -/
def encodeNumber (n : Nat) : Octets :=
  [UInt8.ofNat (n % sequenceModulus % 128 * 2), UInt8.ofNat (n % sequenceModulus / 128)]

def decodeNumber (low high : UInt8) : Nat :=
  high.toNat * 128 + low.toNat / 2

/-- The four control octets. -/
def encode : Apci → Octets
  | information send receive => encodeNumber send ++ encodeNumber receive
  | supervisory receive => [0x01, 0x00] ++ encodeNumber receive
  | unnumbered function => [function.toOctet, 0x00, 0x00, 0x00]

/-- The control information at the front of an octet string. -/
def parse : Octets → Except Fault Apci
  | a :: b :: c :: d :: _ =>
    if a.toNat % 2 = 0 then .ok (information (decodeNumber a b) (decodeNumber c d))
    else if a.toNat % 4 = 1 then .ok (supervisory (decodeNumber c d))
    else .ok (unnumbered (.ofOctet a))
  | control => .error (.protocol s!"control field needs 4 bytes, got {control.length}")

def format : Apci → FrameFormat
  | information .. => .information
  | supervisory .. => .supervisory
  | unnumbered .. => .unnumbered

def isInformation : Apci → Bool
  | information .. => true
  | _ => false

def sendNumber? : Apci → Option Nat
  | information send _ => some send
  | _ => none

def receiveNumber? : Apci → Option Nat
  | information _ receive | supervisory receive => some receive
  | unnumbered _ => none

end Apci

instance : ToString Apci where
  toString
    | .information send receive => s!"I(S={send}, R={receive})"
    | .supervisory receive => s!"S(R={receive})"
    | .unnumbered function => s!"U({function})"

end Telecontrol
