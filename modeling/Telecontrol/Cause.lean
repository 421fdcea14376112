import Telecontrol.Fault

/-!
# Causes of transmission

Why an ASDU was sent. On the wire a cause is a six-bit code, which shares its octet with the test flag
and the negative-confirmation flag of the ASDU.

* `Cause`: the causes of the standard, and any other code, which is kept so that it can be echoed.
* `Cause.code`, `Cause.ofCode`: the code of a cause, and the cause of a code.
* `Cause.isConfirmation`, `Cause.isRefusal`, `Cause.isInterrogated`, `Cause.isCounterRequested`: groups
  of causes.
-/

namespace Telecontrol

/-- Cause of transmission. -/
inductive Cause where
  | periodic
  | background
  | spontaneous
  | initialized
  | request
  | activation
  | activationConfirm
  | deactivation
  | deactivationConfirm
  | activationTermination
  | returnRemote
  | returnLocal
  | fileTransfer
  | authentication
  | sessionKey
  | userRole
  | interrogatedStation
  | interrogatedGroup1
  | interrogatedGroup2
  | interrogatedGroup3
  | interrogatedGroup4
  | interrogatedGroup5
  | interrogatedGroup6
  | interrogatedGroup7
  | interrogatedGroup8
  | interrogatedGroup9
  | interrogatedGroup10
  | interrogatedGroup11
  | interrogatedGroup12
  | interrogatedGroup13
  | interrogatedGroup14
  | interrogatedGroup15
  | interrogatedGroup16
  | counterGeneral
  | counterGroup1
  | counterGroup2
  | counterGroup3
  | counterGroup4
  | unknownTypeId
  | unknownCause
  | unknownCommonAddress
  | unknownObjectAddress
  | other (code : UInt8)
  deriving DecidableEq, Repr, Inhabited

namespace Cause

/-- The causes with a standard meaning: code, cause and name. -/
def table : List (UInt8 × Cause × String) :=
  [(1, periodic, "Periodic"),
    (2, background, "Background"),
    (3, spontaneous, "Spontaneous"),
    (4, initialized, "Initialized"),
    (5, request, "Request"),
    (6, activation, "Activation"),
    (7, activationConfirm, "ActivationConfirm"),
    (8, deactivation, "Deactivation"),
    (9, deactivationConfirm, "DeactivationConfirm"),
    (10, activationTermination, "ActivationTermination"),
    (11, returnRemote, "ReturnRemoteCommand"),
    (12, returnLocal, "ReturnLocalCommand"),
    (13, fileTransfer, "FileTransfer"),
    (14, authentication, "Authentication"),
    (15, sessionKey, "MaintenanceOfAuthSessionKey"),
    (16, userRole, "MaintenanceOfUserRoleAndUpdateKey"),
    (20, interrogatedStation, "InterrogatedByStation"),
    (21, interrogatedGroup1, "InterrogatedByGroup1"),
    (22, interrogatedGroup2, "InterrogatedByGroup2"),
    (23, interrogatedGroup3, "InterrogatedByGroup3"),
    (24, interrogatedGroup4, "InterrogatedByGroup4"),
    (25, interrogatedGroup5, "InterrogatedByGroup5"),
    (26, interrogatedGroup6, "InterrogatedByGroup6"),
    (27, interrogatedGroup7, "InterrogatedByGroup7"),
    (28, interrogatedGroup8, "InterrogatedByGroup8"),
    (29, interrogatedGroup9, "InterrogatedByGroup9"),
    (30, interrogatedGroup10, "InterrogatedByGroup10"),
    (31, interrogatedGroup11, "InterrogatedByGroup11"),
    (32, interrogatedGroup12, "InterrogatedByGroup12"),
    (33, interrogatedGroup13, "InterrogatedByGroup13"),
    (34, interrogatedGroup14, "InterrogatedByGroup14"),
    (35, interrogatedGroup15, "InterrogatedByGroup15"),
    (36, interrogatedGroup16, "InterrogatedByGroup16"),
    (37, counterGeneral, "RequestedByGeneralCounter"),
    (38, counterGroup1, "RequestedByGroup1Counter"),
    (39, counterGroup2, "RequestedByGroup2Counter"),
    (40, counterGroup3, "RequestedByGroup3Counter"),
    (41, counterGroup4, "RequestedByGroup4Counter"),
    (44, unknownTypeId, "UnknownTypeId"),
    (45, unknownCause, "UnknownCot"),
    (46, unknownCommonAddress, "UnknownCommonAddress"),
    (47, unknownObjectAddress, "UnknownIoa")]

def code : Cause → UInt8
  | other code => code &&& 0x3F
  | cause => ((table.find? (·.2.1 = cause)).map (·.1)).getD 0

/-- The cause of a code, of which only six bits count. -/
def ofCode (octet : UInt8) : Cause :=
  ((table.find? (·.1 = octet &&& 0x3F)).map (·.2.1)).getD (other (octet &&& 0x3F))

/-- The cause of a code, if it has a standard meaning. -/
def ofCode? (octet : UInt8) : Except Fault Cause :=
  match ofCode octet with
  | other code => .error (.unknownCause code)
  | cause => .ok cause

def isStandard : Cause → Bool
  | other _ => false
  | _ => true

/-- Whether the cause confirms or terminates a command. -/
def isConfirmation : Cause → Bool
  | activationConfirm | deactivationConfirm | activationTermination => true
  | _ => false

/-- Whether the cause says why a command was not understood. -/
def isRefusal : Cause → Bool
  | unknownTypeId | unknownCause | unknownCommonAddress | unknownObjectAddress => true
  | _ => false

def isInterrogated (c : Cause) : Bool :=
  20 ≤ c.code.toNat ∧ c.code.toNat ≤ 36

def isCounterRequested (c : Cause) : Bool :=
  37 ≤ c.code.toNat ∧ c.code.toNat ≤ 41

end Cause

instance : ToString Cause where
  toString
    | .other code => s!"Other({code})"
    | cause => ((Cause.table.find? (·.2.1 = cause)).map (·.2.2)).getD ""

end Telecontrol
