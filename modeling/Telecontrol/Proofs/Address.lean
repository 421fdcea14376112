import Telecontrol.Proofs.InformationObject

/-!
# Address fields of any width

An address is a word of 32 bits, and its field may be narrower or wider than the four octets of one. A
narrow field takes the low octets, a wide one has zeros behind the four. A reader shifts the octets of the
field into a word from the last to the first, so that what stands behind the fourth octet is shifted out again.

* `Octets.toWord`: a word by shifting octets in; `Octets.toWord_eq` says which number it holds.
* `Octets.ofNat_add`, `Octets.take_ofNat`, `Octets.ofNat_toNat_take`: numbers that are cut or padded.
* `Parameters.writeAddress_padded`: what is written is the four octets of a word, cut or padded.
* `Parameters.address_faithful`: reading and writing at every width.
-/

namespace Telecontrol

namespace Octets

/-! ## Numbers that are cut or padded -/

theorem ofNat_zero (w : Nat) : ofNat w 0 = List.replicate w 0 := by
  induction w with
  | zero => rfl
  | succ w ih =>
    show 0 :: ofNat w 0 = _
    rw [ih, List.replicate_succ]

theorem ofNat_add (v w n : Nat) : ofNat (v + w) n = ofNat v n ++ ofNat w (n / Nat.pow 256 v) := by
  induction v generalizing n with
  | zero =>
    rw [Nat.zero_add]
    show ofNat w n = ofNat w (n / 1)
    rw [Nat.div_one]
  | succ v ih =>
    have hpow : Nat.pow 256 (v + 1) = 256 * Nat.pow 256 v := Nat.mul_comm _ _
    rw [Nat.succ_add]
    show UInt8.ofNat n :: ofNat (v + w) (n / 256) = UInt8.ofNat n :: (ofNat v (n / 256) ++ _)
    rw [ih, Nat.div_div_eq_div_mul, hpow]

theorem take_ofNat {v w : Nat} (h : v ≤ w) (n : Nat) : (ofNat w n).take v = ofNat v n := by
  obtain ⟨d, rfl⟩ := Nat.exists_eq_add_of_le h
  rw [ofNat_add]
  exact List.take_left' (length_ofNat v n)

/-- The low octets of a number are the first of its octets. -/
theorem ofNat_toNat_take {v : Nat} {bs : Octets} (h : v ≤ bs.length) : ofNat v (toNat bs) = bs.take v := by
  rw [← take_ofNat h, ofNat_toNat]

/-! ## Words -/

/-- The word that octets are shifted into, from the last to the first. What leaves the word is lost. -/
def toWord (bs : Octets) : UInt32 := bs.foldr (fun b word => word <<< (8 : UInt32) ||| b.toUInt32) 0

/-- Shifting a word by an octet leaves room for one, and the highest octet is lost. -/
theorem shiftLeft_or_octet (word : UInt32) (b : UInt8) :
    (word <<< (8 : UInt32) ||| b.toUInt32).toNat = (b.toNat + 256 * word.toNat) % 4294967296 := by
  have hb : b.toNat < 2 ^ 8 := b.toNat_lt
  have hshift : word.toNat <<< 8 % 4294967296 = (word.toNat % 16777216) <<< 8 := by
    rw [Nat.shiftLeft_eq, Nat.shiftLeft_eq]
    omega
  rw [UInt32.toNat_or, UInt32.toNat_shiftLeft, UInt8.toNat_toUInt32]
  show word.toNat <<< 8 % 4294967296 ||| b.toNat = _
  rw [hshift, ← Nat.shiftLeft_add_eq_or_of_lt hb, Nat.shiftLeft_eq]
  omega

/-- A word holds the number of all the octets that were shifted into it, reduced to 32 bits. -/
theorem toWord_eq (bs : Octets) : bs.toWord = UInt32.ofNat bs.toNat := by
  induction bs with
  | nil => rfl
  | cons b bs ih =>
    apply UInt32.toNat_inj.1
    show (toWord bs <<< (8 : UInt32) ||| b.toUInt32).toNat = (UInt32.ofNat (b.toNat + 256 * toNat bs)).toNat
    rw [shiftLeft_or_octet, ih, UInt32.toNat_ofNat', UInt32.toNat_ofNat']
    show (b.toNat + 256 * (toNat bs % 4294967296)) % 4294967296 = (b.toNat + 256 * toNat bs) % 4294967296
    omega

end Octets

/-! ## Fields -/

namespace Parameters

variable (p : Parameters)

/-- What is written of an address is its four octets, cut to the field or with zeros behind them. -/
theorem writeAddress_padded (address : UInt32) : p.writeAddress address =
    (Octets.ofNat 4 address.toNat).take p.objectAddressSize ++ List.replicate (p.objectAddressSize - 4) 0 := by
  unfold writeAddress
  by_cases hw : p.objectAddressSize ≤ 4
  · have hpad : p.objectAddressSize - 4 = 0 := by omega
    rw [Octets.take_ofNat hw, hpad, List.replicate_zero, List.append_nil]
  · obtain ⟨d, hd⟩ := Nat.exists_eq_add_of_le (Nat.le_of_not_le hw)
    have hpad : p.objectAddressSize - 4 = d := by omega
    have hhigh : address.toNat / Nat.pow 256 4 = 0 := Nat.div_eq_of_lt address.toNat_lt
    have hshort : (Octets.ofNat 4 address.toNat).length ≤ 4 + d := by
      rw [Octets.length_ofNat]
      omega
    rw [hpad, hd, Octets.ofNat_add, hhigh, Octets.ofNat_zero, List.take_of_length_le hshort]

theorem readAddress_toWord {bs : Octets} (h : p.objectAddressSize ≤ bs.length) : p.readAddress bs =
    .ok (Octets.toWord (bs.take p.objectAddressSize), bs.drop p.objectAddressSize) := by
  unfold readAddress Octets.split?
  rw [if_pos h, Octets.toWord_eq]

/-- The octets of a word are those that were shifted into it, as far as it has room for them. -/
theorem take_ofNat_toWord (bs : Octets) :
    (Octets.ofNat 4 bs.toWord.toNat).take bs.length = bs.take (min bs.length 4) := by
  have hmod : Octets.ofNat 4 bs.toWord.toNat = Octets.ofNat 4 bs.toNat := by
    rw [Octets.toWord_eq, UInt32.toNat_ofNat']
    exact Octets.ofNat_mod 4 bs.toNat
  rw [hmod]
  by_cases hw : bs.length ≤ 4
  · rw [Octets.take_ofNat hw, Nat.min_eq_left hw, Octets.ofNat_toNat_take (Nat.le_refl _)]
  · have hfour : 4 ≤ bs.length := Nat.le_of_not_le hw
    have hlong : (Octets.ofNat 4 bs.toNat).length ≤ bs.length := by
      rw [Octets.length_ofNat]
      exact hfour
    rw [List.take_of_length_le hlong, Nat.min_eq_right hfour, Octets.ofNat_toNat_take hfour]

/-- **Addresses survive their field.** At every width an address is written in exactly the octets of its
field, its own octets cut or padded, and read back as far as the field carries it, whatever follows. A string
that is long enough is read by shifting its octets into a word, and the address is written as the octets that
were read, with zeros for those beyond the fourth. A shorter string is refused. -/
theorem address_faithful :
    (∀ (address : UInt32) (rest : Octets),
      (p.writeAddress address).length = p.objectAddressSize ∧
      p.writeAddress address = (Octets.ofNat 4 address.toNat).take p.objectAddressSize ++
        List.replicate (p.objectAddressSize - 4) 0 ∧
      p.readAddress (p.writeAddress address ++ rest) =
        .ok (UInt32.ofNat (address.toNat % Nat.pow 2 (8 * min p.objectAddressSize 4)), rest)) ∧
    (∀ bs : Octets, p.objectAddressSize ≤ bs.length → ∃ address,
      p.readAddress bs = .ok (address, bs.drop p.objectAddressSize) ∧
      address = Octets.toWord (bs.take p.objectAddressSize) ∧
      p.writeAddress address =
        bs.take (min p.objectAddressSize 4) ++ List.replicate (p.objectAddressSize - 4) 0) ∧
    ∀ bs : Octets, bs.length < p.objectAddressSize → p.readAddress bs =
      .error (.parsing s!"need {p.objectAddressSize} bytes for object address, got {bs.length}") := by
  refine ⟨?_, ?_, ?_⟩
  · intro address rest
    exact ⟨p.length_writeAddress address, p.writeAddress_padded address,
      p.readAddress_writeAddress address rest⟩
  · intro bs h
    have hfield : (bs.take p.objectAddressSize).length = p.objectAddressSize := List.length_take_of_le h
    have hoctets := take_ofNat_toWord (bs.take p.objectAddressSize)
    rw [hfield, List.take_take, Nat.min_eq_left (Nat.min_le_left _ _)] at hoctets
    refine ⟨_, p.readAddress_toWord h, rfl, ?_⟩
    rw [writeAddress_padded, hoctets]
  · intro bs h
    unfold readAddress
    rw [Octets.split?_eq_none_iff.2 h]

/-- A field of five octets, of which the last is lost, and a string that is too short for it. -/
theorem address_faithful_wide :
    let p : Parameters := { objectAddressSize := 5 }
    let bs : Octets := [0x78, 0x56, 0x34, 0x12, 0xFF, 0x2A]
    (5 ≤ bs.length ∧ ∃ address, p.readAddress bs = .ok (address, [0x2A]) ∧ address = 0x12345678 ∧
      p.writeAddress address = [0x78, 0x56, 0x34, 0x12, 0]) ∧
    ([1, 2, 3] : Octets).length < 5 ∧
      p.readAddress [1, 2, 3] = .error (.parsing "need 5 bytes for object address, got 3") := by
  intro p bs
  obtain ⟨-, hlong, hshort⟩ := p.address_faithful
  obtain ⟨address, hread, haddress, hwrite⟩ := hlong bs (by decide)
  refine ⟨⟨by decide, address, hread, ?_, hwrite⟩, by decide, ?_⟩
  · rw [haddress]
    decide
  · have htext : s!"need {p.objectAddressSize} bytes for object address, got {List.length [1, 2, 3]}" =
        "need 5 bytes for object address, got 3" := by
      decide +kernel
    rw [← htext]
    exact hshort [1, 2, 3] (by decide)

end Parameters

end Telecontrol
