import Telecontrol.Element.Value
import Telecontrol.Proofs.Time.Tag

/-!
# The fields of elements

The laws of the fields that elements are made of. Each value type comes with what a field keeps of it and
with the bits that the standard does not reserve.

* `Quality.lawful`, `Qualified.lawful_point`, `Command.lawful`, ...: the laws, one for each value type.
-/

namespace Telecontrol

open Layout (Lawful)

/-! ## Quality -/

namespace Quality

/-- The quality without the overflow flag, as points have it. -/
def ofPoint (q : Quality) : Quality := { q with overflow := false }

theorem ofOctet_toOctet (q : Quality) : ofOctet q.toOctet = q := by
  obtain ⟨overflow, blocked, substituted, notTopical, invalid⟩ := q
  revert overflow blocked substituted notTopical invalid
  decide

theorem toOctet_ofOctet (b : UInt8) : (ofOctet b).toOctet = b &&& 0xF1 := by
  unfold toOctet toPointOctet ofOctet
  simp (disch := decide) only [flagBits_hasBits, and_or]
  rfl

theorem lawful : layout.Lawful id [0xF1] := Layout.lawful_packed ofOctet_toOctet toOctet_ofOctet

theorem toPointOctet_high (q : Quality) : q.toPointOctet &&& 0xF0 = q.toPointOctet := by
  obtain ⟨overflow, blocked, substituted, notTopical, invalid⟩ := q
  revert overflow blocked substituted notTopical invalid
  decide

theorem ofOctet_toPointOctet (q : Quality) : ofOctet q.toPointOctet = q.ofPoint := by
  obtain ⟨overflow, blocked, substituted, notTopical, invalid⟩ := q
  revert overflow blocked substituted notTopical invalid
  decide

theorem toPointOctet_ofPointOctet (b : UInt8) : (ofPointOctet b).toPointOctet = b &&& 0xF0 := by
  unfold toPointOctet ofPointOctet ofOctet
  simp (disch := decide) only [flagBits_hasBits, UInt8.and_assoc, and_or]
  rfl

end Quality

namespace ProtectionQuality

theorem ofOctet_toOctet (q : ProtectionQuality) : ofOctet q.toOctet = q := by
  obtain ⟨reserved, elapsedTimeInvalid, blocked, substituted, notTopical, invalid⟩ := q
  revert reserved elapsedTimeInvalid blocked substituted notTopical invalid
  decide

theorem toOctet_ofOctet (b : UInt8) : (ofOctet b).toOctet = b &&& 0xFC := by
  unfold toOctet ofOctet
  simp (disch := decide) only [flagBits_hasBits, and_or]
  rfl

theorem lawful : layout.Lawful id [0xFC] := Layout.lawful_packed ofOctet_toOctet toOctet_ofOctet

end ProtectionQuality

/-! ## Points -/

namespace DoublePoint

theorem ofOctet_low (b : UInt8) : ofOctet (b &&& 0x03) = ofOctet b := by
  unfold ofOctet
  rw [toNat_and_three, Nat.mod_mod]

theorem ofOctet_toOctet (p : DoublePoint) : ofOctet p.toOctet = p := by
  cases p <;> rfl

theorem toOctet_low (p : DoublePoint) : p.toOctet &&& 0x03 = p.toOctet := by
  cases p <;> rfl

theorem toOctet_ofOctet (b : UInt8) : (ofOctet b).toOctet = b &&& 0x03 := by
  rw [← ofOctet_low]
  exact forall_and_three (p := fun b => (ofOctet b).toOctet = b) (by decide) b

end DoublePoint

/-- A point as its octet carries it. -/
def Qualified.ofPoint {α : Type} (v : Qualified α) : Qualified α :=
  { v with quality := v.quality.ofPoint }

/-- A state in the low bits of an octet leaves the quality in the high bits alone, and the other way
round. -/
theorem Qualified.lawful_point {α : Type} {state : UInt8 → α} {bits : α → UInt8} {low : UInt8}
    (hs : ∀ b, state (b &&& 0x03) = state b) (hb : ∀ s, state (bits s) = s)
    (hl : ∀ s, bits s &&& 0x03 = bits s) (hc : ∀ b, bits (state b) = b &&& low) :
    (pointLayout state bits).Lawful Qualified.ofPoint [low ||| 0xF0] := by
  refine Layout.lawful_packed (fun v => ?_) fun b => ?_
  · have hq : v.quality.toPointOctet &&& 0x03 = 0 := by
      rw [← v.quality.toPointOctet_high, UInt8.and_assoc]
      exact UInt8.and_zero
    have hstate : state (bits v.value ||| v.quality.toPointOctet) = v.value := by
      rw [← hs, ← hl v.value, field_and hq, hl, hb]
    have hquality : Quality.ofPointOctet (bits v.value ||| v.quality.toPointOctet) =
        v.quality.ofPoint := by
      have hd : (0x03 : UInt8) &&& 0xF0 = 0 := rfl
      unfold Quality.ofPointOctet
      rw [← hl v.value, and_field hd, Quality.toPointOctet_high, Quality.ofOctet_toPointOctet]
    rw [hstate, hquality]
    rfl
  · dsimp only
    rw [hc, Quality.toPointOctet_ofPointOctet, UInt8.and_comm b low, UInt8.and_comm b 0xF0, ← or_and,
      UInt8.and_comm]

theorem Qualified.lawful_single :
    (pointLayout (fun b => hasBits b 0x01) fun state => flagBits state 0x01).Lawful Qualified.ofPoint
      [0x01 ||| 0xF0] := by
  refine lawful_point (fun b => ?_) (by decide) (by decide) fun b => ?_
  · exact hasBits_and b 0x03 0x01
  · exact flagBits_hasBits b (by decide)

theorem Qualified.lawful_double :
    (pointLayout DoublePoint.ofOctet DoublePoint.toOctet).Lawful Qualified.ofPoint [0x03 ||| 0xF0] :=
  lawful_point DoublePoint.ofOctet_low DoublePoint.ofOctet_toOctet DoublePoint.toOctet_low
    DoublePoint.toOctet_ofOctet

theorem Qualified.lawful {α : Type} {field : Layout α} {used : Octets} (h : field.Lawful id used) :
    (Qualified.layout field).Lawful id (used ++ [0xF1]) :=
  (h.followedBy Quality.lawful).view (fun _ => rfl) fun _ => rfl

theorem PackedPoints.lawful : layout.Lawful id [0xFF, 0xFF, 0xFF, 0xFF] :=
  (Layout.lawful_word16.followedBy Layout.lawful_word16).view (fun _ => rfl) fun _ => rfl

/-! ## Numbers -/

theorem lawful_signed16 : signed16.Lawful id [0xFF, 0xFF] :=
  Layout.lawful_word16.view UInt16.toUInt16_toInt16 Int16.toInt16_toUInt16

theorem lawful_signed32 : signed32.Lawful id [0xFF, 0xFF, 0xFF, 0xFF] :=
  Layout.lawful_word32.view UInt32.toUInt32_toInt32 Int32.toInt32_toUInt32

theorem Scaled.lawful : layout.Lawful id [0xFF, 0xFF] :=
  lawful_signed16.view (fun _ => rfl) fun _ => rfl

theorem Normalized.lawful : layout.Lawful id [0xFF, 0xFF] :=
  lawful_signed16.view (fun _ => rfl) fun _ => rfl

/-- A floating point number is kept bit by bit. -/
theorem ShortFloat.lawful : layout.Lawful id [0xFF, 0xFF, 0xFF, 0xFF] :=
  Layout.lawful_word32.view (fun _ => rfl) fun _ => rfl

namespace StepPosition

theorem toOctet_ofOctet : ∀ b : UInt8, (ofOctet b).toOctet = b := by decide +kernel

theorem ofOctet_toOctet (p : StepPosition) : ofOctet p.toOctet = p := by
  obtain ⟨value, transient, hlo, hhi⟩ := p
  have hn : (value % 128).toNat < 128 := by omega
  obtain ⟨hvalue, htransient⟩ := seven_bits hn transient
  unfold ofOctet toOctet
  simp only [hvalue, htransient, mk.injEq, and_true]
  split <;> omega

theorem lawful : layout.Lawful id [0xFF] := by
  refine Layout.lawful_packed ofOctet_toOctet fun b => ?_
  rw [toOctet_ofOctet]
  exact UInt8.and_neg_one.symm

end StepPosition

def CounterReading.canonical (r : CounterReading) : CounterReading :=
  { r with sequenceNumber := r.sequenceNumber &&& 0x1F }

namespace CounterReading

theorem ofFlagOctet_flagOctet (r : CounterReading) : ofFlagOctet r.value r.flagOctet = r.canonical := by
  have hflags : r.flagOctet = r.sequenceNumber &&& 0x1F |||
      (flagBits r.carry 0x20 ||| flagBits r.adjusted 0x40 ||| flagBits r.invalid 0x80) := by
    unfold flagOctet
    rw [UInt8.or_assoc, UInt8.or_assoc, UInt8.or_assoc]
  have hbits : ∀ carry adjusted invalid,
      let b := flagBits carry 0x20 ||| flagBits adjusted 0x40 ||| flagBits invalid 0x80
      b &&& 0x1F = 0 ∧ hasBits b 0x20 = carry ∧ hasBits b 0x40 = adjusted ∧ hasBits b 0x80 = invalid := by
    decide
  obtain ⟨hnumber, hcarry, hadjusted, hinvalid⟩ := hbits r.carry r.adjusted r.invalid
  unfold ofFlagOctet canonical
  rw [hflags, field_and hnumber, hasBits_field rfl, hasBits_field rfl, hasBits_field rfl, hcarry,
    hadjusted, hinvalid]

theorem flagOctet_ofFlagOctet (value : Int32) (b : UInt8) : (ofFlagOctet value b).flagOctet = b := by
  unfold flagOctet ofFlagOctet
  simp (disch := decide) only [flagBits_hasBits, UInt8.and_assoc, and_or]
  exact UInt8.and_neg_one

theorem lawful : layout.Lawful canonical [0xFF, 0xFF, 0xFF, 0xFF, 0xFF] := by
  refine (lawful_signed32.followedBy Layout.lawful_octet).view (fun vb => ?_) ofFlagOctet_flagOctet
  exact congrArg (Prod.mk vb.1) (flagOctet_ofFlagOctet vb.1 vb.2)

end CounterReading

/-! ## Protection equipment -/

namespace ProtectionState

theorem ofOctet_toOctet (e : ProtectionState) : ofOctet e.toOctet = e := by
  have hlow := e.state.toOctet_low
  have hhigh : e.quality.toOctet &&& 0xFC = e.quality.toOctet := by
    rw [← ProtectionQuality.toOctet_ofOctet, ProtectionQuality.ofOctet_toOctet]
  have hdisjoint : e.quality.toOctet &&& 0x03 = 0 := by
    rw [← hhigh, UInt8.and_assoc]
    exact UInt8.and_zero
  have hstate : DoublePoint.ofOctet e.toOctet = e.state := by
    unfold toOctet
    rw [hhigh, ← DoublePoint.ofOctet_low, ← hlow, field_and hdisjoint, hlow, DoublePoint.ofOctet_toOctet]
  have hquality : ProtectionQuality.ofOctet (e.toOctet &&& 0xFC) = e.quality := by
    have hd : (0x03 : UInt8) &&& 0xFC = 0 := rfl
    unfold toOctet
    rw [hhigh, ← hlow, and_field hd, hhigh, ProtectionQuality.ofOctet_toOctet]
  unfold ofOctet
  rw [hstate, hquality]

theorem toOctet_ofOctet (b : UInt8) : (ofOctet b).toOctet = b &&& 0xFF := by
  unfold toOctet ofOctet
  dsimp only
  rw [DoublePoint.toOctet_ofOctet, ProtectionQuality.toOctet_ofOctet, UInt8.and_assoc, UInt8.and_assoc,
    and_or]
  rfl

theorem lawful : layout.Lawful id [0xFF] := Layout.lawful_packed ofOctet_toOctet toOctet_ofOctet

end ProtectionState

theorem StartEvents.lawful : layout.Lawful id [0x3F] := by
  refine Layout.lawful_packed ?_ fun b => ?_
  · rintro ⟨general, phaseL1, phaseL2, phaseL3, earthCurrent, reverseDirection⟩
    revert general phaseL1 phaseL2 phaseL3 earthCurrent reverseDirection
    decide
  · unfold toOctet ofOctet
    simp (disch := decide) only [flagBits_hasBits, and_or]
    rfl

theorem OutputCircuits.lawful : layout.Lawful id [0x0F] := by
  refine Layout.lawful_packed ?_ fun b => ?_
  · rintro ⟨general, phaseL1, phaseL2, phaseL3⟩
    revert general phaseL1 phaseL2 phaseL3
    decide
  · unfold toOctet ofOctet
    simp (disch := decide) only [flagBits_hasBits, and_or]
    rfl

theorem ProtectionEvent.lawful : layout.Lawful id [0xFF, 0xFF, 0xFF] :=
  (ProtectionState.lawful.followedBy Cp16Time.lawful).view (fun _ => rfl) fun _ => rfl

theorem ProtectionReport.lawful {α : Type} {field : Layout α} {used : Octets}
    (h : field.Lawful id used) :
    (ProtectionReport.layout field).Lawful id (used ++ [0xFC, 0xFF, 0xFF]) :=
  (h.followedBy (ProtectionQuality.lawful.followedBy Cp16Time.lawful)).view (fun _ => rfl)
    fun _ => rfl

/-! ## Commands -/

namespace DoubleCommandState

theorem ofOctet_low (b : UInt8) : ofOctet (b &&& 0x03) = ofOctet b := by
  unfold ofOctet
  rw [toNat_and_three, Nat.mod_mod]

theorem ofOctet_toOctet (s : DoubleCommandState) : ofOctet s.toOctet = s := by
  cases s <;> rfl

theorem toOctet_low (s : DoubleCommandState) : s.toOctet &&& 0x03 = s.toOctet := by
  cases s <;> rfl

theorem toOctet_ofOctet (b : UInt8) : (ofOctet b).toOctet = b &&& 0x03 := by
  rw [← ofOctet_low]
  exact forall_and_three (p := fun b => (ofOctet b).toOctet = b) (by decide) b

end DoubleCommandState

namespace StepCommandState

theorem ofOctet_low (b : UInt8) : ofOctet (b &&& 0x03) = ofOctet b := by
  unfold ofOctet
  rw [toNat_and_three, Nat.mod_mod]

theorem ofOctet_toOctet (s : StepCommandState) : ofOctet s.toOctet = s := by
  cases s <;> rfl

theorem toOctet_low (s : StepCommandState) : s.toOctet &&& 0x03 = s.toOctet := by
  cases s <;> rfl

theorem toOctet_ofOctet (b : UInt8) : (ofOctet b).toOctet = b &&& 0x03 := by
  rw [← ofOctet_low]
  exact forall_and_three (p := fun b => (ofOctet b).toOctet = b) (by decide) b

end StepCommandState

/-- A command as its octet carries it. -/
def Command.canonical {State : Type} (c : Command State) : Command State :=
  { c with qualifier := c.qualifier &&& 0x1F }

namespace Command

variable {State : Type} {state : UInt8 → State} {bits : State → UInt8} {low : UInt8}

/-- The qualifier and the flag of a command leave the two low bits of its octet to the state. -/
theorem lawful (hs : ∀ b, state (b &&& 0x03) = state b) (hb : ∀ s, state (bits s) = s)
    (hl : ∀ s, bits s &&& 0x03 = bits s) (hc : ∀ b, bits (state b) &&& 0x03 = b &&& low) :
    (layout state bits).Lawful canonical [low ||| 0xFC] := by
  have hbits : ∀ (qualifier : UInt8) (select : Bool),
      let b := (qualifier &&& 0x1F) <<< (2 : UInt8) ||| flagBits select 0x80
      b &&& 0x03 = 0 ∧ (b &&& 0x7C) >>> (2 : UInt8) = qualifier &&& 0x1F ∧ hasBits b 0x80 = select := by
    decide +kernel
  have hback : ∀ b : UInt8, ((b &&& 0x7C) >>> (2 : UInt8) &&& 0x1F) <<< (2 : UInt8) |||
      flagBits (hasBits b 0x80) 0x80 = b &&& 0xFC := by
    decide +kernel
  refine Layout.lawful_packed (fun c => ?_) fun b => ?_
  · obtain ⟨hstate, hqualifier, hselect⟩ := hbits c.qualifier c.select
    have hdisjoint : (0x03 : UInt8) &&& 0x7C = 0 := rfl
    unfold ofOctet toOctet canonical
    rw [UInt8.or_assoc, ← hs, field_and hstate, hl, hb, ← hl c.state, and_field hdisjoint, hqualifier,
      hasBits_field rfl, hselect]
  · unfold ofOctet toOctet
    dsimp only
    rw [UInt8.or_assoc, hback, hc, UInt8.and_comm b low, UInt8.and_comm b 0xFC, ← or_and,
      UInt8.and_comm]

theorem lawful_single : singleLayout.Lawful canonical [0xFD] := by
  show singleLayout.Lawful canonical [0x01 ||| 0xFC]
  refine lawful (fun b => ?_) (by decide) (by decide) fun b => ?_
  · exact hasBits_and b 0x03 0x01
  · rw [flagBits_hasBits b (by decide), UInt8.and_assoc]
    rfl

theorem lawful_double : doubleLayout.Lawful canonical [0xFF] := by
  show doubleLayout.Lawful canonical [0x03 ||| 0xFC]
  refine lawful DoubleCommandState.ofOctet_low DoubleCommandState.ofOctet_toOctet
    DoubleCommandState.toOctet_low fun b => ?_
  rw [DoubleCommandState.toOctet_low, DoubleCommandState.toOctet_ofOctet]

theorem lawful_step : stepLayout.Lawful canonical [0xFF] := by
  show stepLayout.Lawful canonical [0x03 ||| 0xFC]
  refine lawful StepCommandState.ofOctet_low StepCommandState.ofOctet_toOctet
    StepCommandState.toOctet_low fun b => ?_
  rw [StepCommandState.toOctet_low, StepCommandState.toOctet_ofOctet]

end Command

def SetpointQualifier.canonical (q : SetpointQualifier) : SetpointQualifier :=
  { q with qualifier := q.qualifier &&& 0x7F }

theorem SetpointQualifier.lawful : layout.Lawful canonical [0xFF] := by
  refine Layout.lawful_packed (fun q => ?_) fun b => ?_
  · have hbits : ∀ select, flagBits select 0x80 &&& 0x7F = 0 ∧ hasBits (flagBits select 0x80) 0x80 = select := by
      decide
    obtain ⟨hqualifier, hselect⟩ := hbits q.select
    unfold ofOctet toOctet canonical
    rw [field_and hqualifier, hasBits_field rfl, hselect]
  · unfold toOctet ofOctet
    simp (disch := decide) only [flagBits_hasBits, UInt8.and_assoc, and_or]
    rfl

def Setpoint.canonical {α : Type} (v : Setpoint α) : Setpoint α :=
  { v with qualifier := v.qualifier.canonical }

theorem Setpoint.lawful {α : Type} {field : Layout α} {used : Octets} (h : field.Lawful id used) :
    (Setpoint.layout field).Lawful Setpoint.canonical (used ++ [0xFF]) :=
  (h.followedBy SetpointQualifier.lawful).view (fun _ => rfl) fun _ => rfl

theorem MeasurementParameter.lawful {α : Type} {field : Layout α} {used : Octets}
    (h : field.Lawful id used) : (MeasurementParameter.layout field).Lawful id (used ++ [0xFF]) :=
  (h.followedBy Layout.lawful_octet).view (fun _ => rfl) fun _ => rfl

end Telecontrol
