import Telecontrol.InformationObject
import Telecontrol.Proofs.Element.Codec

/-!
# Information objects on the wire

An object is written as an address field of any width and the octets of an element.

* `Parameters.carried`: an address as its field carries it; `Parameters.readAddress_writeAddress`.
* `InformationObject.decode_encode`, `InformationObject.decode_write`: an object that was written with
  and without its address.
* `InformationObject.decode_append`, `InformationObject.decode_short`: a string that goes on behind the object
  and one that is too short.
* `InformationObject.codec_faithful`: how elements of any type are written and read.
-/

namespace Telecontrol

/-! ## Addresses -/

namespace Parameters

variable (p : Parameters)

/-- An address as its field carries it. -/
def carried (address : UInt32) : UInt32 :=
  UInt32.ofNat (address.toNat % Nat.pow 2 (8 * min p.objectAddressSize 4))

theorem length_writeAddress (address : UInt32) :
    (p.writeAddress address).length = p.objectAddressSize :=
  Octets.length_ofNat p.objectAddressSize address.toNat

/-- Octets beyond the fourth carry nothing. -/
theorem carried_eq (address : UInt32) :
    p.carried address = UInt32.ofNat (address.toNat % Nat.pow 256 p.objectAddressSize) := by
  have hlt : address.toNat < Nat.pow 2 32 := address.toNat_lt
  have hpow (w : Nat) : Nat.pow 256 w = Nat.pow 2 (8 * w) := (Nat.pow_mul 2 8 w).symm
  unfold carried
  rw [hpow]
  by_cases hw : p.objectAddressSize ≤ 4
  · rw [Nat.min_eq_left hw]
  · -- Both widths hold every address, so neither reduces it.
    have hle : Nat.pow 2 32 ≤ Nat.pow 2 (8 * p.objectAddressSize) :=
      Nat.pow_le_pow_right (by decide) (by omega)
    rw [Nat.min_eq_right (by omega), Nat.mod_eq_of_lt hlt, Nat.mod_eq_of_lt (Nat.lt_of_lt_of_le hlt hle)]

theorem readAddress_writeAddress (address : UInt32) (rest : Octets) :
    p.readAddress (p.writeAddress address ++ rest) = .ok (p.carried address, rest) := by
  unfold readAddress
  rw [Octets.split?_append (p.length_writeAddress address), carried_eq, ← Octets.toNat_ofNat]
  rfl

/-- An address does not depend on what follows its field. -/
theorem readAddress_append {bs rest : Octets} {address : UInt32} (h : p.readAddress bs = .ok (address, rest))
    (more : Octets) : p.readAddress (bs ++ more) = .ok (address, rest ++ more) := by
  unfold readAddress Octets.split? at h ⊢
  by_cases hle : p.objectAddressSize ≤ bs.length
  · have hle' : p.objectAddressSize ≤ (bs ++ more).length := by
      rw [List.length_append]
      omega
    rw [if_pos hle] at h
    cases h
    rw [if_pos hle', List.take_append_of_le_length hle, List.drop_append_of_le_length hle]
  · rw [if_neg hle] at h
    cases h

theorem readAddress_short {bs : Octets} (h : bs.length < p.objectAddressSize) :
    ∃ text, p.readAddress bs = .error (.parsing text) := by
  unfold readAddress
  rw [Octets.split?_eq_none_iff.2 h]
  exact ⟨_, rfl⟩

theorem readAddress_long {bs : Octets} (h : p.objectAddressSize ≤ bs.length) :
    ∃ address, p.readAddress bs = .ok (address, bs.drop p.objectAddressSize) := by
  unfold readAddress Octets.split?
  rw [if_pos h]
  exact ⟨_, rfl⟩

end Parameters

/-! ## Objects -/

namespace InformationObject

variable {t : TypeId} {p : Parameters} {bs : Octets}

theorem ofElement_write (e : Element) (address : UInt32) (rest : Octets) :
    ofElement e.typeId address (e.write ++ rest) = .ok ⟨address, e.canonical⟩ := by
  unfold ofElement
  rw [e.read_write]

theorem ofElement_short (h : bs.length < t.elementSize) (address : UInt32) :
    ∃ text, ofElement t address bs = .error (.parsing text) := by
  unfold ofElement
  rw [Element.read_of_length_lt h]
  exact ⟨_, rfl⟩

theorem ofElement_append (h : t.elementSize ≤ bs.length) (address : UInt32) (more : Octets) :
    ofElement t address (bs ++ more) = ofElement t address bs := by
  obtain ⟨e, he, -⟩ := Element.read_of_length_le h
  unfold ofElement
  rw [Element.read_append h, he]

theorem length_encode (o : InformationObject) (p : Parameters) (withAddress : Bool) :
    (o.encode p withAddress).length = o.encodedSize p withAddress := by
  unfold encode encodedSize
  rw [List.length_append, o.element.length_write, Nat.add_comm]
  cases withAddress with
  | true => rw [if_pos rfl, if_pos rfl, p.length_writeAddress]
  | false => rfl

theorem decode_encode (o : InformationObject) (rest : Octets) :
    decode o.element.typeId p (o.encode p true ++ rest) none =
      .ok ⟨p.carried o.address, o.element.canonical⟩ := by
  have ha := p.readAddress_writeAddress o.address (o.element.write ++ rest)
  unfold decode encode
  rw [if_pos rfl, List.append_assoc, ha]
  exact ofElement_write o.element (p.carried o.address) rest

theorem decode_write (o : InformationObject) (address : UInt32) (rest : Octets) :
    decode o.element.typeId p (o.encode p false ++ rest) (some address) =
      .ok ⟨address, o.element.canonical⟩ :=
  ofElement_write o.element address rest

/-- An object does not depend on what follows its octets. -/
theorem decode_append (given : Option UInt32)
    (h : (t.elementSize + if given.isSome then 0 else p.objectAddressSize) ≤ bs.length) (more : Octets) :
    decode t p (bs ++ more) given = decode t p bs given := by
  cases given with
  | some address => exact ofElement_append h address more
  | none =>
    have h' : t.elementSize + p.objectAddressSize ≤ bs.length := h
    have hwidth : p.objectAddressSize ≤ bs.length := by omega
    obtain ⟨address, haddress⟩ := p.readAddress_long hwidth
    have hrest : t.elementSize ≤ (bs.drop p.objectAddressSize).length := by
      rw [List.length_drop]
      omega
    unfold decode
    rw [p.readAddress_append haddress, haddress]
    exact ofElement_append hrest address more

/-- An object needs the octets of its element, and those of its address unless the address is given. -/
theorem decode_short (given : Option UInt32)
    (h : bs.length < t.elementSize + if given.isSome then 0 else p.objectAddressSize) :
    ∃ text, decode t p bs given = .error (.parsing text) := by
  cases given with
  | some address => exact ofElement_short h address
  | none =>
    have h' : bs.length < t.elementSize + p.objectAddressSize := h
    by_cases hw : bs.length < p.objectAddressSize
    · obtain ⟨text, ht⟩ := p.readAddress_short hw
      exact ⟨text, congrArg (· >>= _) ht⟩
    · obtain ⟨address, ha⟩ := p.readAddress_long (Nat.le_of_not_lt hw)
      have hrest : (bs.drop p.objectAddressSize).length < t.elementSize := by
        rw [List.length_drop]
        omega
      obtain ⟨text, ht⟩ := ofElement_short hrest address
      refine ⟨text, ?_⟩
      unfold decode
      rw [ha]
      exact ht

/-- **Elements survive the wire.** An element is written in exactly its size and read back in canonical
form, whatever follows; a string that is long enough is an element, which is written as the octets that
were read without their reserved bits; a shorter string is refused. -/
theorem codec_faithful :
    (∀ (e : Element) (rest : Octets), e.write.length = e.size ∧ e.size = e.typeId.elementSize ∧
      Element.read e.typeId (e.write ++ rest) = some e.canonical) ∧
    (∀ (t : TypeId) (bs : Octets), t.elementSize ≤ bs.length →
      ∃ e, Element.read t bs = some e ∧ e.typeId = t ∧
        e.write = Octets.masked (bs.take t.elementSize) t.usedBits) ∧
    ∀ (t : TypeId) (p : Parameters) (bs : Octets) (given : Option UInt32),
      bs.length < t.elementSize + (if given.isSome then 0 else p.objectAddressSize) →
      ∃ text, decode t p bs given = .error (.parsing text) := by
  refine ⟨fun e rest => ?_, fun t bs h => ?_, fun t p bs given h => ?_⟩
  · exact ⟨e.length_write, rfl, e.read_write rest⟩
  · exact Element.read_of_length_le h
  · exact decode_short given h

/-- A time of which every bit is set, and strings that are too short for one. -/
theorem codec_faithful_clock :
    let bs : Octets := List.replicate 8 0xFF
    (TypeId.elementSize .clockSync ≤ bs.length ∧
      ∃ e, Element.read .clockSync bs = some e ∧ e.typeId = .clockSync ∧
        e.write = [0xFF, 0xFF, 0xFF, 0x9F, 0xFF, 0x0F, 0x7F]) ∧
      (∃ text, decode .clockSync {} [1, 2, 3] (some 7) = .error (.parsing text)) ∧
      ∃ text, decode .clockSync {} (List.replicate 9 0) none = .error (.parsing text) := by
  refine ⟨⟨by decide, ?_⟩, ?_, ?_⟩
  · exact codec_faithful.2.1 .clockSync (List.replicate 8 0xFF) (by decide)
  · exact codec_faithful.2.2 .clockSync {} [1, 2, 3] (some 7) (by decide)
  · exact codec_faithful.2.2 .clockSync {} (List.replicate 9 0) none (by decide)

end InformationObject

end Telecontrol
