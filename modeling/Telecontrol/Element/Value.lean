import Telecontrol.Time.Tag
import Telecontrol.Value.Counter
import Telecontrol.Value.Position
import Telecontrol.Value.Protection
import Telecontrol.Value.Command
import Telecontrol.TypeId

/-!
# Element values

The value of an element depends on its kind, and its time tag on the type.

* `Qualified`, `ProtectionEvent`, `ProtectionReport`, `Setpoint`, `MeasurementParameter`: values that
  are made of several fields.
* `ElementKind.Value`, `TimeTag.Stamp`: the types of values and time tags.
* `ElementKind.layout`, `TimeTag.layout`: how they are laid out.
-/

namespace Telecontrol

/-- A value with its quality. -/
structure Qualified (α : Type) where
  value : α
  quality : Quality := {}
  deriving DecidableEq, Repr, Inhabited

namespace Qualified

variable {α : Type}

def layout (field : Layout α) : Layout (Qualified α) :=
  (field.followedBy Quality.layout).map (fun (value, quality) => ⟨value, quality⟩)
    fun v => (v.value, v.quality)

/-- A point whose state shares its octet with the quality. -/
def pointLayout (state : UInt8 → α) (bits : α → UInt8) : Layout (Qualified α) :=
  .packed (fun b => ⟨state b, .ofPointOctet b⟩) fun v => bits v.value ||| v.quality.toPointOctet

end Qualified

/-- An event of protection equipment. -/
structure ProtectionEvent where
  event : ProtectionState := {}
  elapsed : Cp16Time := {}
  deriving DecidableEq, Repr, Inhabited

def ProtectionEvent.layout : Layout ProtectionEvent :=
  (ProtectionState.layout.followedBy Cp16Time.layout).map (fun (event, elapsed) => ⟨event, elapsed⟩)
    fun v => (v.event, v.elapsed)

/-- A report of protection equipment with the time that the relay took. -/
structure ProtectionReport (α : Type) where
  report : α
  quality : ProtectionQuality := {}
  elapsed : Cp16Time := {}
  deriving DecidableEq, Repr, Inhabited

def ProtectionReport.layout {α : Type} (field : Layout α) : Layout (ProtectionReport α) :=
  (field.followedBy (ProtectionQuality.layout.followedBy Cp16Time.layout)).map
    (fun (report, quality, elapsed) => ⟨report, quality, elapsed⟩)
    fun v => (v.report, v.quality, v.elapsed)

structure Setpoint (α : Type) where
  value : α
  qualifier : SetpointQualifier := {}
  deriving DecidableEq, Repr, Inhabited

def Setpoint.layout {α : Type} (field : Layout α) : Layout (Setpoint α) :=
  (field.followedBy SetpointQualifier.layout).map (fun (value, qualifier) => ⟨value, qualifier⟩)
    fun v => (v.value, v.qualifier)

/-- A threshold, filter or limit of a measured value with its qualifier. -/
structure MeasurementParameter (α : Type) where
  value : α
  qualifier : UInt8 := 0
  deriving DecidableEq, Repr, Inhabited

def MeasurementParameter.layout {α : Type} (field : Layout α) : Layout (MeasurementParameter α) :=
  (field.followedBy .octet).map (fun (value, qualifier) => ⟨value, qualifier⟩)
    fun v => (v.value, v.qualifier)

namespace ElementKind

def Value : ElementKind → Type
  | singlePoint => Qualified Bool
  | doublePoint => Qualified DoublePoint
  | stepPosition => Qualified StepPosition
  | bitstring => Qualified UInt32
  | normalized => Qualified Normalized
  | scaled => Qualified Scaled
  | float => Qualified ShortFloat
  | counter => CounterReading
  | protectionEvent => ProtectionEvent
  | startEvents => ProtectionReport StartEvents
  | outputCircuits => ProtectionReport OutputCircuits
  | packedPoints => Qualified PackedPoints
  | bareNormalized => Normalized
  | singleCommand => Command Bool
  | doubleCommand => Command DoubleCommandState
  | stepCommand => Command StepCommandState
  | normalizedSetpoint => Setpoint Normalized
  | scaledSetpoint => Setpoint Scaled
  | floatSetpoint => Setpoint ShortFloat
  | word32 => UInt32
  | octet => UInt8
  | nothing => Unit
  | clock => Cp56Time
  | word16 => UInt16
  | elapsed => Cp16Time
  | normalizedParameter => MeasurementParameter Normalized
  | scaledParameter => MeasurementParameter Scaled
  | floatParameter => MeasurementParameter ShortFloat

instance (k : ElementKind) : Inhabited k.Value := by
  cases k <;> (dsimp only [Value]; infer_instance)

instance (k : ElementKind) : DecidableEq k.Value := by
  cases k <;> (dsimp only [Value]; infer_instance)

def layout : (k : ElementKind) → Layout k.Value
  | singlePoint => Qualified.pointLayout (fun b => hasBits b 0x01) fun state => flagBits state 0x01
  | doublePoint => Qualified.pointLayout DoublePoint.ofOctet DoublePoint.toOctet
  | stepPosition => Qualified.layout StepPosition.layout
  | bitstring => Qualified.layout Layout.word32
  | normalized => Qualified.layout Normalized.layout
  | scaled => Qualified.layout Scaled.layout
  | float => Qualified.layout ShortFloat.layout
  | counter => CounterReading.layout
  | protectionEvent => ProtectionEvent.layout
  | startEvents => ProtectionReport.layout StartEvents.layout
  | outputCircuits => ProtectionReport.layout OutputCircuits.layout
  | packedPoints => Qualified.layout PackedPoints.layout
  | bareNormalized => Normalized.layout
  | singleCommand => Command.singleLayout
  | doubleCommand => Command.doubleLayout
  | stepCommand => Command.stepLayout
  | normalizedSetpoint => Setpoint.layout Normalized.layout
  | scaledSetpoint => Setpoint.layout Scaled.layout
  | floatSetpoint => Setpoint.layout ShortFloat.layout
  | word32 => Layout.word32
  | octet => Layout.octet
  | nothing => Layout.nothing
  | clock => Cp56Time.layout
  | word16 => Layout.word16
  | elapsed => Cp16Time.layout
  | normalizedParameter => MeasurementParameter.layout Normalized.layout
  | scaledParameter => MeasurementParameter.layout Scaled.layout
  | floatParameter => MeasurementParameter.layout ShortFloat.layout

end ElementKind

namespace TimeTag

def Stamp : TimeTag → Type
  | none => Unit
  | cp24 => Cp24Time
  | cp56 => Cp56Time

instance (t : TimeTag) : Inhabited t.Stamp := by
  cases t <;> (dsimp only [Stamp]; infer_instance)

instance (t : TimeTag) : DecidableEq t.Stamp := by
  cases t <;> (dsimp only [Stamp]; infer_instance)

def layout : (t : TimeTag) → Layout t.Stamp
  | none => Layout.nothing
  | cp24 => Cp24Time.layout
  | cp56 => Cp56Time.layout

end TimeTag

end Telecontrol
