import Telecontrol.Element
import Telecontrol.Plain

/-!
# Values as plain data

* `Quality.form`, `Cp24Time.form` and their like: the values that elements are made of.
* `ElementKind.form`, `TimeTag.form`: the value and the time tag of an element.
* `Element.form`: an element, with the name of its type.
-/

namespace Telecontrol

open Form (field record)

/-! ## Qualities -/

def Quality.form : Form Quality :=
  record {}
    [field "overflow" .bit (·.overflow) ({ · with overflow := · }),
      field "blocked" .bit (·.blocked) ({ · with blocked := · }),
      field "substituted" .bit (·.substituted) ({ · with substituted := · }),
      field "not_topical" .bit (·.notTopical) ({ · with notTopical := · }),
      field "invalid" .bit (·.invalid) ({ · with invalid := · })]

def ProtectionQuality.form : Form ProtectionQuality :=
  record {}
    [field "reserved" .bit (·.reserved) ({ · with reserved := · }),
      field "elapsed_time_invalid" .bit (·.elapsedTimeInvalid) ({ · with elapsedTimeInvalid := · }),
      field "blocked" .bit (·.blocked) ({ · with blocked := · }),
      field "substituted" .bit (·.substituted) ({ · with substituted := · }),
      field "not_topical" .bit (·.notTopical) ({ · with notTopical := · }),
      field "invalid" .bit (·.invalid) ({ · with invalid := · })]

/-! ## Times -/

def Cp16Time.form : Form Cp16Time :=
  (record {} [field "milliseconds" .word16 (·.milliseconds) ({ · with milliseconds := · })]).orNew
    fun args => Cp16Time.mk <$> Form.word16.argument args 0

/-- A time within the hour; its constructor takes minute, second and millisecond. -/
def Cp24Time.form : Form Cp24Time :=
  (record {}
    [field "milliseconds" .word16 (·.milliseconds) ({ · with milliseconds := · }),
      field "minutes" .octet (·.minutes) ({ · with minutes := · }),
      field "substituted" .bit (·.substituted) ({ · with substituted := · }),
      field "invalid" .bit (·.invalid) ({ · with invalid := · })]).orNew fun args => do
    return .ofParts (← Form.octet.argument args 0) (← Form.octet.argument args 1)
      (← Form.word16.argument args 2)

def Cp56Time.form : Form Cp56Time :=
  record {}
    [field "milliseconds" .word16 (·.milliseconds) ({ · with milliseconds := · }),
      field "minutes" .octet (·.minutes) ({ · with minutes := · }),
      field "hours" .octet (·.hours) ({ · with hours := · }),
      field "day" .octet (·.day) ({ · with day := · }),
      field "day_of_week" .octet (·.dayOfWeek) ({ · with dayOfWeek := · }),
      field "month" .octet (·.month) ({ · with month := · }),
      field "year" .octet (·.year) ({ · with year := · }),
      field "invalid" .bit (·.invalid) ({ · with invalid := · }),
      field "substituted" .bit (·.substituted) ({ · with substituted := · }),
      field "summer_time" .bit (·.summerTime) ({ · with summerTime := · })]

/-! ## Measured values, points and positions -/

def ShortFloat.form : Form ShortFloat := Form.word32.map ShortFloat.mk ShortFloat.bits

/-- A scaled value by any number, by a floating point number or by the number on the wire. -/
def Scaled.form : Form Scaled :=
  ((Form.int.map Scaled.ofInt (·.raw.toInt)).orAs "i16" .int fun n => ⟨Int16.ofInt n⟩).orAs
    "f32" ShortFloat.form .ofFloat

/-- A normalized value by the number on the wire or by a floating point number. -/
def Normalized.form : Form Normalized :=
  (Form.int.map (fun n => ⟨Int16.ofInt n⟩) (·.raw.toInt)).orAs "f32" ShortFloat.form .ofFloat

/-- A step position; one out of range is refused. -/
def StepPosition.form : Form StepPosition where
  read p := do
    Refusal.ofResult (StepPosition.ofInt? (← Form.int.get p "value") (← Form.bit.get p "transient"))
  write v := .record [("value", .number v.value), ("transient", .bit v.transient)]
  default := default

def DoublePoint.form : Form DoublePoint := .named all label .intermediate

def DoubleCommandState.form : Form DoubleCommandState := .named all label .notPermitted0

def StepCommandState.form : Form StepCommandState := .named all label .notPermitted0

def PackedPoints.form : Form PackedPoints :=
  record {}
    [field "status" .word16 (·.status) ({ · with status := · }),
      field "change_detection" .word16 (·.changes) ({ · with changes := · })]

/-- A counter reading; its constructor takes value and sequence number. -/
def CounterReading.form : Form CounterReading :=
  let number := Form.int.map Int32.ofInt Int32.toInt
  (record {}
    [field "value" number (·.value) ({ · with value := · }),
      field "sequence_number" .octet (·.sequenceNumber) ({ · with sequenceNumber := · }),
      field "carry" .bit (·.carry) ({ · with carry := · }),
      field "adjusted" .bit (·.adjusted) ({ · with adjusted := · }),
      field "invalid" .bit (·.invalid) ({ · with invalid := · })]).orNew fun args => do
    return .reading (← number.argument args 0) (← Form.octet.argument args 1)

/-- A value with its quality; the constructor takes the value alone. -/
def Qualified.form {α : Type} (f : Form α) (key : String) : Form (Qualified α) :=
  (record ⟨f.default, {}⟩
    [field key f (·.value) ({ · with value := · }),
      field "quality" Quality.form (·.quality) ({ · with quality := · })]).orNew fun args => do
    return { value := ← f.argument args 0 }

/-! ## Protection equipment -/

def ProtectionState.form : Form ProtectionState :=
  record {}
    [field "state" DoublePoint.form (·.state) ({ · with state := · }),
      field "quality" ProtectionQuality.form (·.quality) ({ · with quality := · })]

def ProtectionEvent.form : Form ProtectionEvent :=
  record {}
    [field "event" ProtectionState.form (·.event) ({ · with event := · }),
      field "elapsed_time" Cp16Time.form (·.elapsed) ({ · with elapsed := · })]

def StartEvents.form : Form StartEvents :=
  record {}
    [field "general_start" .bit (·.general) ({ · with general := · }),
      field "phase_l1" .bit (·.phaseL1) ({ · with phaseL1 := · }),
      field "phase_l2" .bit (·.phaseL2) ({ · with phaseL2 := · }),
      field "phase_l3" .bit (·.phaseL3) ({ · with phaseL3 := · }),
      field "earth_current" .bit (·.earthCurrent) ({ · with earthCurrent := · }),
      field "reverse_direction" .bit (·.reverseDirection) ({ · with reverseDirection := · })]

def OutputCircuits.form : Form OutputCircuits :=
  record {}
    [field "general" .bit (·.general) ({ · with general := · }),
      field "phase_l1" .bit (·.phaseL1) ({ · with phaseL1 := · }),
      field "phase_l2" .bit (·.phaseL2) ({ · with phaseL2 := · }),
      field "phase_l3" .bit (·.phaseL3) ({ · with phaseL3 := · })]

/-- A report of protection equipment, whose fields have names of their own in each type. -/
def ProtectionReport.form {α : Type} (f : Form α) (key time : String) : Form (ProtectionReport α) :=
  record { report := f.default }
    [field key f (·.report) ({ · with report := · }),
      field "quality" ProtectionQuality.form (·.quality) ({ · with quality := · }),
      field time Cp16Time.form (·.elapsed) ({ · with elapsed := · })]

/-! ## Commands and parameters -/

/-- A command; the constructor takes the state alone. -/
def Command.form {State : Type} (f : Form State) : Form (Command State) :=
  (record { state := f.default }
    [field "state" f (·.state) ({ · with state := · }),
      field "qualifier" .octet (·.qualifier) ({ · with qualifier := · }),
      field "select" .bit (·.select) ({ · with select := · })]).orNew fun args => do
    return { state := ← f.argument args 0 }

def SetpointQualifier.form : Form SetpointQualifier :=
  (record {}
    [field "ql" .octet (·.qualifier) ({ · with qualifier := · }),
      field "select" .bit (·.select) ({ · with select := · })]).orNew fun args => do
    return .reduced (← Form.octet.argument args 0) (← Form.bit.argument args 1)

def Setpoint.form {α : Type} (f : Form α) : Form (Setpoint α) :=
  record { value := f.default }
    [field "value" f (·.value) ({ · with value := · }),
      field "qualifier" SetpointQualifier.form (·.qualifier) ({ · with qualifier := · })]

def MeasurementParameter.form {α : Type} (f : Form α) : Form (MeasurementParameter α) :=
  record { value := f.default }
    [field "value" f (·.value) ({ · with value := · }),
      field "qpm" .octet (·.qualifier) ({ · with qualifier := · })]

/-! ## Elements -/

def ElementKind.form : (k : ElementKind) → Form k.Value
  | singlePoint => Qualified.form Form.bit "value"
  | doublePoint => Qualified.form DoublePoint.form "value"
  | stepPosition => Qualified.form StepPosition.form "position"
  | bitstring => Qualified.form Form.word32 "value"
  | normalized => Qualified.form Normalized.form "value"
  | scaled => Qualified.form Scaled.form "value"
  | float => Qualified.form ShortFloat.form "value"
  | counter => CounterReading.form
  | protectionEvent => ProtectionEvent.form
  | startEvents => ProtectionReport.form StartEvents.form "event" "elapsed_time"
  | outputCircuits => ProtectionReport.form OutputCircuits.form "circuit" "operating_time"
  | packedPoints => Qualified.form PackedPoints.form "scd"
  | bareNormalized => Normalized.form
  | singleCommand => Command.form Form.bit
  | doubleCommand => Command.form DoubleCommandState.form
  | stepCommand => Command.form StepCommandState.form
  | normalizedSetpoint => Setpoint.form Normalized.form
  | scaledSetpoint => Setpoint.form Scaled.form
  | floatSetpoint => Setpoint.form ShortFloat.form
  | word32 => Form.word32
  | octet => Form.octet
  | nothing => Form.nothing
  | clock => Cp56Time.form
  | word16 => Form.word16
  | elapsed => Cp16Time.form
  | normalizedParameter => MeasurementParameter.form Normalized.form
  | scaledParameter => MeasurementParameter.form Scaled.form
  | floatParameter => MeasurementParameter.form ShortFloat.form

def TimeTag.form : (t : TimeTag) → Form t.Stamp
  | none => Form.nothing
  | cp24 => Cp24Time.form
  | cp56 => Cp56Time.form

def TypeId.form : Form TypeId := .named TypeId.all TypeId.elementLabel .singlePoint

/-- An element; value and time tag are written where its type has them. -/
def Element.form : Form Element where
  read p := do
    let t ← TypeId.form.get p "type"
    return ⟨t, ← t.kind.form.get p "value", ← t.timeTag.form.get p "time"⟩
  write e :=
    let t := e.typeId
    .present
      [("type", some (TypeId.form.write t)),
        ("value", if t.kind = .nothing then none else some (t.kind.form.write e.value)),
        ("time", if t.hasTimeTag then some (t.timeTag.form.write e.time) else none)]
  default := default

end Telecontrol
