import Telecontrol.Asdu

/-!
# Requests of a master

The commands that a master sends, each as an ASDU with one information object.

* `Request`: the commands, with what the caller chooses; the rest follows from the standard.
* `Request.cause`, `Request.commonAddress`, `Request.object`: the parts of the ASDU.
* `Request.asdu`: the ASDU, if the object fits into one.
-/

namespace Telecontrol

/-- A command to an outstation. -/
inductive Request where
  | interrogation (cause : Cause) (commonAddress : UInt16) (qualifier : UInt8)
  | counterInterrogation (cause : Cause) (commonAddress : UInt16) (qualifier : UInt8)
  | read (commonAddress : UInt16) (address : UInt32)
  | clockSync (commonAddress : UInt16) (time : Cp56Time)
  | test (commonAddress : UInt16)
  | testWithTime (commonAddress : UInt16) (counter : UInt16) (time : Cp56Time)
  | resetProcess (cause : Cause) (commonAddress : UInt16) (qualifier : UInt8)
  | delayAcquisition (cause : Cause) (commonAddress : UInt16) (delay : Cp16Time)
  | control (cause : Cause) (commonAddress : UInt16) (object : InformationObject)
  deriving DecidableEq, Inhabited

namespace Request

/-- The cause of a command: what the caller chose, or the only one that the standard allows. -/
def cause : Request → Cause
  | interrogation cause .. | counterInterrogation cause .. | resetProcess cause ..
  | delayAcquisition cause .. | control cause .. => cause
  | read .. => .request
  | clockSync .. | test .. | testWithTime .. => .activation

def commonAddress : Request → UInt16
  | interrogation _ ca _ | counterInterrogation _ ca _ | read ca _ | clockSync ca _ | test ca
  | testWithTime ca .. | resetProcess _ ca _ | delayAcquisition _ ca _ | control _ ca _ => ca

/-- The information object of a command; commands to a station as a whole have the address zero. -/
def object : Request → InformationObject
  | interrogation _ _ qualifier => ⟨0, .interrogation qualifier⟩
  | counterInterrogation _ _ qualifier => ⟨0, .counterInterrogation qualifier⟩
  | read _ address => ⟨address, .readRequest⟩
  | clockSync _ time => ⟨0, .clockSync time⟩
  | test _ => ⟨0, .test testPattern⟩
  | testWithTime _ counter time => ⟨0, .testWithTime counter time⟩
  | resetProcess _ _ qualifier => ⟨0, .resetProcess qualifier⟩
  | delayAcquisition _ _ delay => ⟨0, .delayAcquisition delay⟩
  | control _ _ object => object

/-- The ASDU of a command, if its object fits into one. -/
def asdu (r : Request) (p : Parameters) : Except Fault Asdu :=
  match (Asdu.empty p r.cause r.commonAddress).add? r.object with
  | some asdu => .ok asdu
  | none =>
    .error (.range s!"information object {r.object.address} does not fit into an ASDU")

end Request

end Telecontrol
