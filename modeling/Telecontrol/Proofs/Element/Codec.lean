import Telecontrol.Element
import Telecontrol.Proofs.Element.Fields

/-!
# Elements on the wire

What the octets of an element carry, for all type identifications.

* `ElementKind.canonical`, `TimeTag.canonical`, `Element.canonical`: an element as its octets carry it.
* `ElementKind.usedBits`, `TimeTag.usedBits`, `TypeId.usedBits`: the octets of an element without the
  reserved bits.
* `Element.read_write`, `Element.read_of_length_le`, `Element.read_of_length_lt`: an element that was
  written, a string that is long enough and one that is not; `Element.read_append` for what follows.
-/

namespace Telecontrol

open Layout (Lawful)

namespace ElementKind

/-- A value as its octets carry it. -/
def canonical : (k : ElementKind) → k.Value → k.Value
  | singlePoint | doublePoint => Qualified.ofPoint
  | counter => CounterReading.canonical
  | singleCommand | doubleCommand | stepCommand => Command.canonical
  | normalizedSetpoint | scaledSetpoint | floatSetpoint => Setpoint.canonical
  | clock => Cp56Time.canonical
  | stepPosition | bitstring | normalized | scaled | float | protectionEvent | startEvents
  | outputCircuits | packedPoints | bareNormalized | word32 | octet | nothing | word16 | elapsed
  | normalizedParameter | scaledParameter | floatParameter => id

/-- The octets of a value without their reserved bits. -/
def usedBits : ElementKind → Octets
  | singlePoint => [0xF1]
  | doublePoint => [0xF3]
  | stepPosition => [0xFF, 0xF1]
  | normalized | scaled => [0xFF, 0xFF, 0xF1]
  | bitstring | float | packedPoints => [0xFF, 0xFF, 0xFF, 0xFF, 0xF1]
  | startEvents => [0x3F, 0xFC, 0xFF, 0xFF]
  | outputCircuits => [0x0F, 0xFC, 0xFF, 0xFF]
  | singleCommand => [0xFD]
  | clock => Cp56Time.usedBits
  | nothing => []
  | doubleCommand | stepCommand | octet => [0xFF]
  | bareNormalized | word16 | elapsed => [0xFF, 0xFF]
  | protectionEvent | normalizedSetpoint | scaledSetpoint | normalizedParameter
  | scaledParameter => [0xFF, 0xFF, 0xFF]
  | word32 => [0xFF, 0xFF, 0xFF, 0xFF]
  | counter | floatSetpoint | floatParameter => [0xFF, 0xFF, 0xFF, 0xFF, 0xFF]

theorem lawful : (k : ElementKind) → k.layout.Lawful k.canonical k.usedBits
  | singlePoint => Qualified.lawful_single
  | doublePoint => Qualified.lawful_double
  | stepPosition => Qualified.lawful StepPosition.lawful
  | bitstring => Qualified.lawful Layout.lawful_word32
  | normalized => Qualified.lawful Normalized.lawful
  | scaled => Qualified.lawful Scaled.lawful
  | float => Qualified.lawful ShortFloat.lawful
  | counter => CounterReading.lawful
  | protectionEvent => ProtectionEvent.lawful
  | startEvents => ProtectionReport.lawful StartEvents.lawful
  | outputCircuits => ProtectionReport.lawful OutputCircuits.lawful
  | packedPoints => Qualified.lawful PackedPoints.lawful
  | bareNormalized => Normalized.lawful
  | singleCommand => Command.lawful_single
  | doubleCommand => Command.lawful_double
  | stepCommand => Command.lawful_step
  | normalizedSetpoint => Setpoint.lawful Normalized.lawful
  | scaledSetpoint => Setpoint.lawful Scaled.lawful
  | floatSetpoint => Setpoint.lawful ShortFloat.lawful
  | word32 => Layout.lawful_word32
  | octet => Layout.lawful_octet
  | nothing => Layout.lawful_nothing
  | clock => Cp56Time.lawful
  | word16 => Layout.lawful_word16
  | elapsed => Cp16Time.lawful
  | normalizedParameter => MeasurementParameter.lawful Normalized.lawful
  | scaledParameter => MeasurementParameter.lawful Scaled.lawful
  | floatParameter => MeasurementParameter.lawful ShortFloat.lawful

end ElementKind

namespace TimeTag

/-- A time tag as its octets carry it. -/
def canonical : (t : TimeTag) → t.Stamp → t.Stamp
  | none => id
  | cp24 => Cp24Time.canonical
  | cp56 => Cp56Time.canonical

/-- The octets of a time tag without their reserved bits. -/
def usedBits : TimeTag → Octets
  | none => []
  | cp24 => [0xFF, 0xFF, 0xFF]
  | cp56 => Cp56Time.usedBits

theorem lawful : (t : TimeTag) → t.layout.Lawful t.canonical t.usedBits
  | none => Layout.lawful_nothing
  | cp24 => Cp24Time.lawful
  | cp56 => Cp56Time.lawful

end TimeTag

namespace TypeId

/-- The octets of an element without their reserved bits. -/
def usedBits (t : TypeId) : Octets := t.kind.usedBits ++ t.timeTag.usedBits

theorem lawful (t : TypeId) :
    t.layout.Lawful (Prod.map t.kind.canonical t.timeTag.canonical) t.usedBits :=
  t.kind.lawful.followedBy t.timeTag.lawful

theorem elementSize_le (t : TypeId) : t.elementSize ≤ 12 := by
  cases t <;> decide

end TypeId

namespace Element

/-- An element as its octets carry it. -/
def canonical (e : Element) : Element :=
  ⟨e.typeId, e.typeId.kind.canonical e.value, e.typeId.timeTag.canonical e.time⟩

variable {t : TypeId} {bs : Octets}

theorem length_write (e : Element) : e.write.length = e.size :=
  e.typeId.lawful.length_write (e.value, e.time)

theorem read_write (e : Element) (rest : Octets) :
    read e.typeId (e.write ++ rest) = some e.canonical := by
  have h := e.typeId.lawful.read_write (e.value, e.time) rest
  unfold read write
  rw [h]
  rfl

theorem read_of_length_le (h : t.elementSize ≤ bs.length) :
    ∃ e, read t bs = some e ∧ e.typeId = t ∧
      e.write = Octets.masked (bs.take t.elementSize) t.usedBits := by
  obtain ⟨⟨value, time⟩, -, hread, hwrite⟩ := t.lawful.read_front h
  refine ⟨⟨t, value, time⟩, ?_, rfl, hwrite⟩
  unfold read
  rw [hread]
  rfl

/-- An element does not depend on what follows its octets. -/
theorem read_append (h : t.elementSize ≤ bs.length) (more : Octets) : read t (bs ++ more) = read t bs := by
  obtain ⟨a, hmore, hread, -⟩ := t.lawful.read_front h
  unfold read
  rw [hread, hmore]
  rfl

theorem read_of_length_lt (h : bs.length < t.elementSize) : read t bs = none := by
  unfold read
  rw [t.lawful.read_short bs h]
  rfl

end Element

end Telecontrol
