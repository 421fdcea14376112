import Telecontrol.Asdu
import Telecontrol.Proofs.Bits
import Telecontrol.Proofs.Parameters

/-!
# The data unit identifier

The header of an ASDU is written and read in the four combinations of widths that the standard has.

* `Asdu.received`: an ASDU as its octets carry it.
* `Asdu.ofOctets_encode`: the header and the payload of an ASDU that was written.
* `Asdu.length_encode`: its length.
-/

namespace Telecontrol

/-! ## The octets of the header -/

theorem StructureQualifier.ofOctet_toOctet {q : StructureQualifier} (h : q.count < 128) :
    ofOctet q.toOctet = q := by
  obtain ⟨count, sequence⟩ := q
  have hcount : count % 128 = count := Nat.mod_eq_of_lt h
  obtain ⟨hn, hs⟩ := seven_bits h sequence
  unfold ofOctet toOctet
  dsimp only
  rw [hcount, hn, hs]

namespace Cause

theorem code_and (c : Cause) : c.code &&& 0x3F = c.code := by
  cases c with
  | other code =>
    show code &&& 0x3F &&& 0x3F = code &&& 0x3F
    rw [UInt8.and_assoc, UInt8.and_self]
  | _ => rfl

theorem ofCode_and (b : UInt8) : ofCode (b &&& 0x3F) = ofCode b := by
  unfold ofCode
  rw [UInt8.and_assoc, UInt8.and_self]

end Cause

namespace Asdu

theorem causeOctet_eq (a : Asdu) : a.causeOctet = a.cause.code &&& 0x3F |||
    (flagBits a.test 0x80 ||| flagBits a.negative 0x40) := by
  unfold causeOctet
  rw [Cause.code_and, UInt8.or_assoc]

theorem ofCode_causeOctet (a : Asdu) : Cause.ofCode a.causeOctet = Cause.ofCode a.cause.code := by
  have hflags : ∀ test negative,
      (flagBits test 0x80 ||| flagBits negative 0x40) &&& 0x3F = 0 := by
    decide
  rw [causeOctet_eq, ← Cause.ofCode_and, field_and (hflags _ _), Cause.code_and]

theorem causeOctet_flags (a : Asdu) :
    hasBits a.causeOctet 0x80 = a.test ∧ hasBits a.causeOctet 0x40 = a.negative := by
  have hflags : ∀ test negative,
      hasBits (flagBits test 0x80 ||| flagBits negative 0x40) 0x80 = test ∧
        hasBits (flagBits test 0x80 ||| flagBits negative 0x40) 0x40 = negative := by
    decide
  rw [causeOctet_eq, hasBits_field rfl, hasBits_field rfl]
  exact hflags a.test a.negative

/-! ## The header -/

/-- An ASDU as its octets carry it. -/
def received (a : Asdu) : Asdu :=
  { a with
    cause := .ofCode a.cause.code
    originator := if a.parameters.causeSize = 1 then 0 else a.originator
    commonAddress :=
      if a.parameters.commonAddressSize = 1 then a.commonAddress % 256 else a.commonAddress }

variable {a : Asdu}

theorem length_header (h : a.parameters.StandardHeader) :
    a.header.length = a.parameters.headerSize := by
  unfold header Parameters.headerSize
  rw [h.typeIdSize, h.qualifierSize]
  rcases h.causeSize with h1 | h1 <;> rcases h.commonAddressSize with h2 | h2 <;> simp [h1, h2]

theorem length_encode (h : a.parameters.StandardHeader) : a.encode.length = a.encodedLength := by
  unfold encode encodedLength
  rw [List.length_append, length_header h]

theorem commonAddress_field (p : Parameters) (h : p.StandardHeader) (address : UInt16) :
    UInt16.ofNat (Octets.toNat (Octets.ofNat (if p.commonAddressSize = 2 then 2 else 1) address.toNat)) =
      if p.commonAddressSize = 1 then address % 256 else address := by
  rw [Octets.toNat_ofNat]
  rcases h.commonAddressSize with h2 | h2
  · rw [h2, if_neg (by decide), if_pos rfl]
    apply UInt16.toNat_inj.1
    rw [UInt16.toNat_mod, UInt16.toNat_ofNat']
    have := address.toNat_lt
    show address.toNat % 256 % 65536 = address.toNat % 256
    omega
  · rw [h2, if_pos rfl, if_neg (by decide)]
    have hlt : address.toNat < Nat.pow 256 2 := address.toNat_lt
    rw [Nat.mod_eq_of_lt hlt, UInt16.ofNat_toNat]

theorem ofOctets_encode (h : a.parameters.StandardHeader) (hc : a.count < 128) :
    ofOctets a.parameters a.encode = a.received := by
  have hpayload : a.encode.drop a.parameters.headerSize = a.payload :=
    List.drop_left' (length_header h)
  have haddress := commonAddress_field a.parameters h a.commonAddress
  obtain ⟨htest, hnegative⟩ := a.causeOctet_flags
  unfold ofOctets
  rw [hpayload]
  unfold encode header received
  -- The width of the cause decides where the common address starts.
  rcases h.causeSize with h1 | h1 <;>
    simp [h1, htest, hnegative, ofCode_causeOctet, StructureQualifier.ofOctet_toOctet hc, haddress]

end Asdu

end Telecontrol
