import Telecontrol.Fault

/-!
# Type identifications

The type identification of an ASDU says what its elements hold: a value of some kind and a time tag.

* `TypeId`: the supported type identifications, with their codes and standard names.
* `ElementKind`, `TimeTag`: the two halves of an element, `TypeId.kind` and `TypeId.timeTag`.
* `TypeId.ofCode?`: the type identification of a code, if it is supported.
-/

namespace Telecontrol

/-- What the value of an element is. -/
inductive ElementKind where
  | singlePoint
  | doublePoint
  | stepPosition
  | bitstring
  | normalized
  | scaled
  | float
  | counter
  | protectionEvent
  | startEvents
  | outputCircuits
  | packedPoints
  | bareNormalized
  | singleCommand
  | doubleCommand
  | stepCommand
  | normalizedSetpoint
  | scaledSetpoint
  | floatSetpoint
  | word32
  | octet
  | nothing
  | clock
  | word16
  | elapsed
  | normalizedParameter
  | scaledParameter
  | floatParameter
  deriving DecidableEq, Repr, Inhabited

/-- The time tag behind the value of an element. -/
inductive TimeTag where
  | none
  | cp24
  | cp56
  deriving DecidableEq, Repr, Inhabited

def TimeTag.label : TimeTag → String
  | none => "None"
  | cp24 => "Cp24"
  | cp56 => "Cp56"

/-- Supported type identifications. -/
inductive TypeId where
  | singlePoint
  | singlePoint24
  | doublePoint
  | doublePoint24
  | stepPosition
  | stepPosition24
  | bitstring
  | bitstring24
  | normalized
  | normalized24
  | scaled
  | scaled24
  | float
  | float24
  | counter
  | counter24
  | protectionEvent24
  | startEvents24
  | outputCircuits24
  | packedPoints
  | bareNormalized
  | singlePoint56
  | doublePoint56
  | stepPosition56
  | bitstring56
  | normalized56
  | scaled56
  | float56
  | counter56
  | protectionEvent56
  | startEvents56
  | outputCircuits56
  | singleCommand
  | doubleCommand
  | stepCommand
  | normalizedSetpoint
  | scaledSetpoint
  | floatSetpoint
  | bitstringCommand
  | singleCommand56
  | doubleCommand56
  | stepCommand56
  | normalizedSetpoint56
  | scaledSetpoint56
  | floatSetpoint56
  | bitstringCommand56
  | endOfInitialization
  | interrogation
  | counterInterrogation
  | read
  | clockSync
  | test
  | resetProcess
  | delayAcquisition
  | test56
  | normalizedParameter
  | scaledParameter
  | floatParameter
  | parameterActivation
  deriving DecidableEq, Repr, Inhabited

namespace TypeId

def all : List TypeId :=
  [singlePoint, singlePoint24, doublePoint, doublePoint24, stepPosition, stepPosition24,
    bitstring, bitstring24, normalized, normalized24, scaled, scaled24, float, float24, counter,
    counter24, protectionEvent24, startEvents24, outputCircuits24, packedPoints, bareNormalized,
    singlePoint56, doublePoint56, stepPosition56, bitstring56, normalized56, scaled56, float56,
    counter56, protectionEvent56, startEvents56, outputCircuits56, singleCommand, doubleCommand,
    stepCommand, normalizedSetpoint, scaledSetpoint, floatSetpoint, bitstringCommand,
    singleCommand56, doubleCommand56, stepCommand56, normalizedSetpoint56, scaledSetpoint56,
    floatSetpoint56, bitstringCommand56, endOfInitialization, interrogation,
    counterInterrogation, read, clockSync, test, resetProcess, delayAcquisition, test56,
    normalizedParameter, scaledParameter, floatParameter, parameterActivation]

def code : TypeId → UInt8
  | singlePoint => 1
  | singlePoint24 => 2
  | doublePoint => 3
  | doublePoint24 => 4
  | stepPosition => 5
  | stepPosition24 => 6
  | bitstring => 7
  | bitstring24 => 8
  | normalized => 9
  | normalized24 => 10
  | scaled => 11
  | scaled24 => 12
  | float => 13
  | float24 => 14
  | counter => 15
  | counter24 => 16
  | protectionEvent24 => 17
  | startEvents24 => 18
  | outputCircuits24 => 19
  | packedPoints => 20
  | bareNormalized => 21
  | singlePoint56 => 30
  | doublePoint56 => 31
  | stepPosition56 => 32
  | bitstring56 => 33
  | normalized56 => 34
  | scaled56 => 35
  | float56 => 36
  | counter56 => 37
  | protectionEvent56 => 38
  | startEvents56 => 39
  | outputCircuits56 => 40
  | singleCommand => 45
  | doubleCommand => 46
  | stepCommand => 47
  | normalizedSetpoint => 48
  | scaledSetpoint => 49
  | floatSetpoint => 50
  | bitstringCommand => 51
  | singleCommand56 => 58
  | doubleCommand56 => 59
  | stepCommand56 => 60
  | normalizedSetpoint56 => 61
  | scaledSetpoint56 => 62
  | floatSetpoint56 => 63
  | bitstringCommand56 => 64
  | endOfInitialization => 70
  | interrogation => 100
  | counterInterrogation => 101
  | read => 102
  | clockSync => 103
  | test => 104
  | resetProcess => 105
  | delayAcquisition => 106
  | test56 => 107
  | normalizedParameter => 110
  | scaledParameter => 111
  | floatParameter => 112
  | parameterActivation => 113

def standardName : TypeId → String
  | singlePoint => "M_SP_NA_1"
  | singlePoint24 => "M_SP_TA_1"
  | doublePoint => "M_DP_NA_1"
  | doublePoint24 => "M_DP_TA_1"
  | stepPosition => "M_ST_NA_1"
  | stepPosition24 => "M_ST_TA_1"
  | bitstring => "M_BO_NA_1"
  | bitstring24 => "M_BO_TA_1"
  | normalized => "M_ME_NA_1"
  | normalized24 => "M_ME_TA_1"
  | scaled => "M_ME_NB_1"
  | scaled24 => "M_ME_TB_1"
  | float => "M_ME_NC_1"
  | float24 => "M_ME_TC_1"
  | counter => "M_IT_NA_1"
  | counter24 => "M_IT_TA_1"
  | protectionEvent24 => "M_EP_TA_1"
  | startEvents24 => "M_EP_TB_1"
  | outputCircuits24 => "M_EP_TC_1"
  | packedPoints => "M_PS_NA_1"
  | bareNormalized => "M_ME_ND_1"
  | singlePoint56 => "M_SP_TB_1"
  | doublePoint56 => "M_DP_TB_1"
  | stepPosition56 => "M_ST_TB_1"
  | bitstring56 => "M_BO_TB_1"
  | normalized56 => "M_ME_TD_1"
  | scaled56 => "M_ME_TE_1"
  | float56 => "M_ME_TF_1"
  | counter56 => "M_IT_TB_1"
  | protectionEvent56 => "M_EP_TD_1"
  | startEvents56 => "M_EP_TE_1"
  | outputCircuits56 => "M_EP_TF_1"
  | singleCommand => "C_SC_NA_1"
  | doubleCommand => "C_DC_NA_1"
  | stepCommand => "C_RC_NA_1"
  | normalizedSetpoint => "C_SE_NA_1"
  | scaledSetpoint => "C_SE_NB_1"
  | floatSetpoint => "C_SE_NC_1"
  | bitstringCommand => "C_BO_NA_1"
  | singleCommand56 => "C_SC_TA_1"
  | doubleCommand56 => "C_DC_TA_1"
  | stepCommand56 => "C_RC_TA_1"
  | normalizedSetpoint56 => "C_SE_TA_1"
  | scaledSetpoint56 => "C_SE_TB_1"
  | floatSetpoint56 => "C_SE_TC_1"
  | bitstringCommand56 => "C_BO_TA_1"
  | endOfInitialization => "M_EI_NA_1"
  | interrogation => "C_IC_NA_1"
  | counterInterrogation => "C_CI_NA_1"
  | read => "C_RD_NA_1"
  | clockSync => "C_CS_NA_1"
  | test => "C_TS_NA_1"
  | resetProcess => "C_RP_NA_1"
  | delayAcquisition => "C_CD_NA_1"
  | test56 => "C_TS_TA_1"
  | normalizedParameter => "P_ME_NA_1"
  | scaledParameter => "P_ME_NB_1"
  | floatParameter => "P_ME_NC_1"
  | parameterActivation => "P_AC_NA_1"

/-- The name in diagnostic records. -/
def label : TypeId → String
  | singlePoint => "SinglePoint"
  | singlePoint24 => "SinglePointTime24"
  | doublePoint => "DoublePoint"
  | doublePoint24 => "DoublePointTime24"
  | stepPosition => "StepPosition"
  | stepPosition24 => "StepPositionTime24"
  | bitstring => "Bitstring32"
  | bitstring24 => "Bitstring32Time24"
  | normalized => "MeasuredNormalized"
  | normalized24 => "MeasuredNormalizedTime24"
  | scaled => "MeasuredScaled"
  | scaled24 => "MeasuredScaledTime24"
  | float => "MeasuredFloat"
  | float24 => "MeasuredFloatTime24"
  | counter => "IntegratedTotals"
  | counter24 => "IntegratedTotalsTime24"
  | protectionEvent24 => "ProtectionEventTime24"
  | startEvents24 => "PackedStartEventsTime24"
  | outputCircuits24 => "PackedOutputCircuitTime24"
  | packedPoints => "PackedSinglePoint"
  | bareNormalized => "MeasuredNormalizedNoQuality"
  | singlePoint56 => "SinglePointTime56"
  | doublePoint56 => "DoublePointTime56"
  | stepPosition56 => "StepPositionTime56"
  | bitstring56 => "Bitstring32Time56"
  | normalized56 => "MeasuredNormalizedTime56"
  | scaled56 => "MeasuredScaledTime56"
  | float56 => "MeasuredFloatTime56"
  | counter56 => "IntegratedTotalsTime56"
  | protectionEvent56 => "ProtectionEventTime56"
  | startEvents56 => "PackedStartEventsTime56"
  | outputCircuits56 => "PackedOutputCircuitTime56"
  | singleCommand => "SingleCommand"
  | doubleCommand => "DoubleCommand"
  | stepCommand => "RegulatingStep"
  | normalizedSetpoint => "SetpointNormalized"
  | scaledSetpoint => "SetpointScaled"
  | floatSetpoint => "SetpointFloat"
  | bitstringCommand => "Bitstring32Command"
  | singleCommand56 => "SingleCommandTime56"
  | doubleCommand56 => "DoubleCommandTime56"
  | stepCommand56 => "RegulatingStepTime56"
  | normalizedSetpoint56 => "SetpointNormalizedTime56"
  | scaledSetpoint56 => "SetpointScaledTime56"
  | floatSetpoint56 => "SetpointFloatTime56"
  | bitstringCommand56 => "Bitstring32CommandTime56"
  | endOfInitialization => "EndOfInit"
  | interrogation => "InterrogationCommand"
  | counterInterrogation => "CounterInterrogation"
  | read => "ReadCommand"
  | clockSync => "ClockSync"
  | test => "TestCommand"
  | resetProcess => "ResetProcess"
  | delayAcquisition => "DelayAcquisition"
  | test56 => "TestCommandTime56"
  | normalizedParameter => "ParameterNormalized"
  | scaledParameter => "ParameterScaled"
  | floatParameter => "ParameterFloat"
  | parameterActivation => "ParameterActivation"

/-- The name of an element of the type in diagnostic records. -/
def elementLabel : TypeId → String
  | singlePoint => "SinglePoint"
  | singlePoint24 => "SinglePointCp24"
  | doublePoint => "DoublePoint"
  | doublePoint24 => "DoublePointCp24"
  | stepPosition => "StepPosition"
  | stepPosition24 => "StepPositionCp24"
  | bitstring => "Bitstring32"
  | bitstring24 => "Bitstring32Cp24"
  | normalized => "MeasuredNormalized"
  | normalized24 => "MeasuredNormalizedCp24"
  | scaled => "MeasuredScaled"
  | scaled24 => "MeasuredScaledCp24"
  | float => "MeasuredFloat"
  | float24 => "MeasuredFloatCp24"
  | counter => "IntegratedTotals"
  | counter24 => "IntegratedTotalsCp24"
  | protectionEvent24 => "ProtectionEventCp24"
  | startEvents24 => "PackedStartEventsCp24"
  | outputCircuits24 => "PackedOutputCircuitCp24"
  | packedPoints => "PackedSinglePoint"
  | bareNormalized => "MeasuredNormalizedNoQuality"
  | singlePoint56 => "SinglePointCp56"
  | doublePoint56 => "DoublePointCp56"
  | stepPosition56 => "StepPositionCp56"
  | bitstring56 => "Bitstring32Cp56"
  | normalized56 => "MeasuredNormalizedCp56"
  | scaled56 => "MeasuredScaledCp56"
  | float56 => "MeasuredFloatCp56"
  | counter56 => "IntegratedTotalsCp56"
  | protectionEvent56 => "ProtectionEventCp56"
  | startEvents56 => "PackedStartEventsCp56"
  | outputCircuits56 => "PackedOutputCircuitCp56"
  | singleCommand => "SingleCommand"
  | doubleCommand => "DoubleCommand"
  | stepCommand => "StepCommand"
  | normalizedSetpoint => "SetpointNormalized"
  | scaledSetpoint => "SetpointScaled"
  | floatSetpoint => "SetpointFloat"
  | bitstringCommand => "Bitstring32Command"
  | singleCommand56 => "SingleCommandCp56"
  | doubleCommand56 => "DoubleCommandCp56"
  | stepCommand56 => "StepCommandCp56"
  | normalizedSetpoint56 => "SetpointNormalizedCp56"
  | scaledSetpoint56 => "SetpointScaledCp56"
  | floatSetpoint56 => "SetpointFloatCp56"
  | bitstringCommand56 => "Bitstring32CommandCp56"
  | endOfInitialization => "EndOfInitialization"
  | interrogation => "Interrogation"
  | counterInterrogation => "CounterInterrogation"
  | read => "Read"
  | clockSync => "ClockSync"
  | test => "Test"
  | resetProcess => "ResetProcess"
  | delayAcquisition => "DelayAcquisition"
  | test56 => "TestWithTime"
  | normalizedParameter => "ParameterNormalized"
  | scaledParameter => "ParameterScaled"
  | floatParameter => "ParameterFloat"
  | parameterActivation => "ParameterActivation"

def kind : TypeId → ElementKind
  | singlePoint => .singlePoint
  | singlePoint24 => .singlePoint
  | doublePoint => .doublePoint
  | doublePoint24 => .doublePoint
  | stepPosition => .stepPosition
  | stepPosition24 => .stepPosition
  | bitstring => .bitstring
  | bitstring24 => .bitstring
  | normalized => .normalized
  | normalized24 => .normalized
  | scaled => .scaled
  | scaled24 => .scaled
  | float => .float
  | float24 => .float
  | counter => .counter
  | counter24 => .counter
  | protectionEvent24 => .protectionEvent
  | startEvents24 => .startEvents
  | outputCircuits24 => .outputCircuits
  | packedPoints => .packedPoints
  | bareNormalized => .bareNormalized
  | singlePoint56 => .singlePoint
  | doublePoint56 => .doublePoint
  | stepPosition56 => .stepPosition
  | bitstring56 => .bitstring
  | normalized56 => .normalized
  | scaled56 => .scaled
  | float56 => .float
  | counter56 => .counter
  | protectionEvent56 => .protectionEvent
  | startEvents56 => .startEvents
  | outputCircuits56 => .outputCircuits
  | singleCommand => .singleCommand
  | doubleCommand => .doubleCommand
  | stepCommand => .stepCommand
  | normalizedSetpoint => .normalizedSetpoint
  | scaledSetpoint => .scaledSetpoint
  | floatSetpoint => .floatSetpoint
  | bitstringCommand => .word32
  | singleCommand56 => .singleCommand
  | doubleCommand56 => .doubleCommand
  | stepCommand56 => .stepCommand
  | normalizedSetpoint56 => .normalizedSetpoint
  | scaledSetpoint56 => .scaledSetpoint
  | floatSetpoint56 => .floatSetpoint
  | bitstringCommand56 => .word32
  | endOfInitialization => .octet
  | interrogation => .octet
  | counterInterrogation => .octet
  | read => .nothing
  | clockSync => .clock
  | test => .word16
  | resetProcess => .octet
  | delayAcquisition => .elapsed
  | test56 => .word16
  | normalizedParameter => .normalizedParameter
  | scaledParameter => .scaledParameter
  | floatParameter => .floatParameter
  | parameterActivation => .octet

def timeTag : TypeId → TimeTag
  | singlePoint => .none
  | singlePoint24 => .cp24
  | doublePoint => .none
  | doublePoint24 => .cp24
  | stepPosition => .none
  | stepPosition24 => .cp24
  | bitstring => .none
  | bitstring24 => .cp24
  | normalized => .none
  | normalized24 => .cp24
  | scaled => .none
  | scaled24 => .cp24
  | float => .none
  | float24 => .cp24
  | counter => .none
  | counter24 => .cp24
  | protectionEvent24 => .cp24
  | startEvents24 => .cp24
  | outputCircuits24 => .cp24
  | packedPoints => .none
  | bareNormalized => .none
  | singlePoint56 => .cp56
  | doublePoint56 => .cp56
  | stepPosition56 => .cp56
  | bitstring56 => .cp56
  | normalized56 => .cp56
  | scaled56 => .cp56
  | float56 => .cp56
  | counter56 => .cp56
  | protectionEvent56 => .cp56
  | startEvents56 => .cp56
  | outputCircuits56 => .cp56
  | singleCommand => .none
  | doubleCommand => .none
  | stepCommand => .none
  | normalizedSetpoint => .none
  | scaledSetpoint => .none
  | floatSetpoint => .none
  | bitstringCommand => .none
  | singleCommand56 => .cp56
  | doubleCommand56 => .cp56
  | stepCommand56 => .cp56
  | normalizedSetpoint56 => .cp56
  | scaledSetpoint56 => .cp56
  | floatSetpoint56 => .cp56
  | bitstringCommand56 => .cp56
  | endOfInitialization => .none
  | interrogation => .none
  | counterInterrogation => .none
  | read => .none
  | clockSync => .none
  | test => .none
  | resetProcess => .none
  | delayAcquisition => .none
  | test56 => .cp56
  | normalizedParameter => .none
  | scaledParameter => .none
  | floatParameter => .none
  | parameterActivation => .none

/-- Whether elements may be packed behind one address, which then counts up. -/
def supportsSequence : TypeId → Bool
  | singlePoint | doublePoint | stepPosition | bitstring | normalized | scaled | float
  | counter | counter24 | startEvents24 | packedPoints | counter56 | startEvents56 => true
  | _ => false

def ofCode? (code : UInt8) : Option TypeId := all.find? fun t => t.code = code

def ofCode (code : UInt8) : Except Fault TypeId :=
  match ofCode? code with
  | some t => .ok t
  | none => .error (.unknownTypeId code)

def hasTimeTag (t : TypeId) : Bool := t.timeTag != .none

/-- Whether the type is sent by the controlled station. -/
def isMonitoring (t : TypeId) : Bool :=
  decide (1 ≤ t.code.toNat ∧ t.code.toNat ≤ 40 ∨ t.code.toNat = 70)

/-- Whether the type is sent by the controlling station. -/
def isControl (t : TypeId) : Bool :=
  decide (45 ≤ t.code.toNat ∧ t.code.toNat ≤ 64 ∨ 100 ≤ t.code.toNat ∧ t.code.toNat ≤ 113)

end TypeId

instance : ToString TypeId := ⟨TypeId.standardName⟩

end Telecontrol
