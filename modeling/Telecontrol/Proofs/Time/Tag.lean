import Telecontrol.Proofs.Bits
import Telecontrol.Time.Tag

/-!
# Binary times on the wire

The laws of the three time formats.

* `Cp24Time.canonical`, `Cp56Time.canonical`: what the octets of a time carry.
* `Cp16Time.lawful`, `Cp24Time.lawful`, `Cp56Time.lawful`: the laws.
-/

namespace Telecontrol

open Layout (Lawful)

theorem Cp16Time.lawful : layout.Lawful id [0xFF, 0xFF] :=
  Layout.lawful_word16.view (fun _ => rfl) fun _ => rfl

theorem minuteOctet_fields (minutes : UInt8) (substituted invalid : Bool) :
    minuteOctet minutes substituted invalid &&& 0x3F = minutes &&& 0x3F ∧
      hasBits (minuteOctet minutes substituted invalid) 0x40 = substituted ∧
      hasBits (minuteOctet minutes substituted invalid) 0x80 = invalid := by
  have hbits : ∀ substituted invalid,
      let b := flagBits substituted 0x40 ||| flagBits invalid 0x80
      b &&& 0x3F = 0 ∧ hasBits b 0x40 = substituted ∧ hasBits b 0x80 = invalid := by
    decide
  obtain ⟨hminutes, hsubstituted, hinvalid⟩ := hbits substituted invalid
  unfold minuteOctet
  rw [UInt8.or_assoc, hasBits_field rfl, hasBits_field rfl]
  exact ⟨field_and hminutes, hsubstituted, hinvalid⟩

theorem minuteOctet_ofFields (b : UInt8) :
    minuteOctet (b &&& 0x3F) (hasBits b 0x40) (hasBits b 0x80) = b := by
  unfold minuteOctet
  simp (disch := decide) only [flagBits_hasBits, UInt8.and_assoc, and_or]
  exact UInt8.and_neg_one

/-- A time within the hour as its octets carry it. -/
def Cp24Time.canonical (t : Cp24Time) : Cp24Time := { t with minutes := t.minutes &&& 0x3F }

theorem Cp24Time.lawful : layout.Lawful canonical [0xFF, 0xFF, 0xFF] := by
  refine (Layout.lawful_word16.followedBy Layout.lawful_octet).view (fun mb => ?_) fun t => ?_
  · exact congrArg (Prod.mk mb.1) (minuteOctet_ofFields mb.2)
  · obtain ⟨hminutes, hsubstituted, hinvalid⟩ := minuteOctet_fields t.minutes t.substituted t.invalid
    dsimp only [Prod.map, id]
    rw [hminutes, hsubstituted, hinvalid]
    rfl

/-- A date and a time of day as its octets carry it. -/
def Cp56Time.canonical (t : Cp56Time) : Cp56Time :=
  { t with
    minutes := t.minutes &&& 0x3F
    hours := t.hours &&& 0x1F
    day := t.day &&& 0x1F
    dayOfWeek := t.dayOfWeek &&& 0x07
    month := t.month &&& 0x0F
    year := t.year &&& 0x7F }

namespace Cp56Time

theorem hourOctet_fields (hours : UInt8) (summerTime : Bool) :
    (hours &&& 0x1F ||| flagBits summerTime 0x80) &&& 0x1F = hours &&& 0x1F ∧
      hasBits (hours &&& 0x1F ||| flagBits summerTime 0x80) 0x80 = summerTime := by
  have hbits : ∀ summerTime,
      flagBits summerTime 0x80 &&& 0x1F = 0 ∧ hasBits (flagBits summerTime 0x80) 0x80 = summerTime := by
    decide
  obtain ⟨hhours, hsummer⟩ := hbits summerTime
  rw [hasBits_field rfl]
  exact ⟨field_and hhours, hsummer⟩

theorem hourOctet_ofFields (b : UInt8) :
    b &&& 0x1F &&& 0x1F ||| flagBits (hasBits b 0x80) 0x80 = b &&& 0x9F := by
  simp (disch := decide) only [flagBits_hasBits, UInt8.and_assoc, and_or]
  rfl

theorem dayOctet_fields (day dayOfWeek : UInt8) :
    (day &&& 0x1F ||| (dayOfWeek &&& 0x07) <<< (5 : UInt8)) &&& 0x1F = day &&& 0x1F ∧
      (day &&& 0x1F ||| (dayOfWeek &&& 0x07) <<< (5 : UInt8)) >>> (5 : UInt8) = dayOfWeek &&& 0x07 := by
  have hlow : ∀ w : UInt8, (w &&& 0x07) <<< (5 : UInt8) &&& 0x1F = 0 := by decide +kernel
  have hhigh : ∀ w : UInt8, (w &&& 0x07) <<< (5 : UInt8) >>> (5 : UInt8) = w &&& 0x07 := by
    decide +kernel
  have hday : ∀ d : UInt8, (d &&& 0x1F) >>> (5 : UInt8) = 0 := by decide +kernel
  rw [UInt8.shiftRight_or, hday, hhigh]
  exact ⟨field_and (hlow dayOfWeek), UInt8.zero_or⟩

theorem dayOctet_ofFields :
    ∀ b : UInt8, b &&& 0x1F &&& 0x1F ||| (b >>> (5 : UInt8) &&& 0x07) <<< (5 : UInt8) = b := by
  decide +kernel

/-- The octets of a time without their reserved bits. -/
def usedBits : Octets := [0xFF, 0xFF, 0xFF, 0x9F, 0xFF, 0x0F, 0x7F]

theorem lawful : layout.Lawful canonical usedBits := by
  have hoctets : (Layout.word16.followedBy (.followedBy .octet (.followedBy .octet (.followedBy .octet
      (.followedBy .octet .octet))))).Lawful _ _ :=
    Layout.lawful_word16.followedBy (Layout.lawful_octet.followedBy (Layout.lawful_octet.followedBy
      (Layout.lawful_octet.followedBy (Layout.lawful_octet.followedBy Layout.lawful_octet))))
  refine hoctets.map rfl (fun t => ?_) fun bs ⟨ms, minute, hour, day, month, year⟩ h => ?_
  · obtain ⟨hminutes, hsubstituted, hinvalid⟩ := minuteOctet_fields t.minutes t.substituted t.invalid
    obtain ⟨hhours, hsummer⟩ := hourOctet_fields t.hours t.summerTime
    obtain ⟨hday, hweek⟩ := dayOctet_fields t.day t.dayOfWeek
    dsimp only [Prod.map, id]
    rw [hminutes, hsubstituted, hinvalid, hhours, hsummer, hday, hweek, UInt8.and_assoc, UInt8.and_self,
      UInt8.and_assoc, UInt8.and_self]
    rfl
  · -- The octets that were read are masked a second time, since the inner fields use every bit.
    have hfull (b : UInt8) : b &&& 0xFF = b := UInt8.and_neg_one
    have hused : Octets.masked [0xFF, 0xFF, 0xFF, 0xFF, 0xFF, 0xFF, 0xFF] usedBits = usedBits := rfl
    have hbs := Octets.masked_masked bs [0xFF, 0xFF, 0xFF, 0xFF, 0xFF, 0xFF, 0xFF] usedBits
    rw [hused] at hbs
    rw [← hbs]
    have h' : bs.masked [0xFF, 0xFF, 0xFF, 0xFF, 0xFF, 0xFF, 0xFF] =
        [UInt8.ofNat ms.toNat, UInt8.ofNat (ms.toNat / 256), minute, hour, day, month, year] := h.symm
    rw [h']
    show [UInt8.ofNat ms.toNat, UInt8.ofNat (ms.toNat / 256),
      minuteOctet (minute &&& 0x3F) (hasBits minute 0x40) (hasBits minute 0x80),
      hour &&& 0x1F &&& 0x1F ||| flagBits (hasBits hour 0x80) 0x80,
      day &&& 0x1F &&& 0x1F ||| (day >>> (5 : UInt8) &&& 0x07) <<< (5 : UInt8),
      month &&& 0x0F &&& 0x0F, year &&& 0x7F &&& 0x7F] = _
    rw [minuteOctet_ofFields, hourOctet_ofFields, dayOctet_ofFields, UInt8.and_assoc month, UInt8.and_assoc year]
    simp only [Octets.masked, usedBits, List.zipWith_cons_cons, List.zipWith_nil_left, hfull,
      UInt8.and_self]

end Cp56Time

end Telecontrol
