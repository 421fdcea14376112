import Telecontrol.Proofs.Asdu.Pack

/-!
# Objects of a payload

A payload that has as many octets as its objects take is taken apart into objects, whatever the octets.
Packed again, the objects give the payload without the reserved bits.

* `Parameters.usedAddress`, `Asdu.usedPayload`: the bits of an address field and of a payload that count.
* `Parameters.writeAddress_append`: an address that was read is written again.
* `InformationObject.decode_addressed`, `InformationObject.decode_counted`: one object of any octets.
* `flatMap_blocks`: a string that is made of blocks of one width.
* `Asdu.Unpacks`: what a payload is taken apart into; `Asdu.exists_unpacks`: there is always something.
-/

namespace Telecontrol

/-! ## Addresses -/

namespace Octets

theorem masked_cons (b u : UInt8) (bs used : Octets) :
    masked (b :: bs) (u :: used) = (b &&& u) :: bs.masked used :=
  List.zipWith_cons_cons

/-- A mask ends a string. -/
theorem masked_take {bs used : Octets} {n : Nat} (hn : used.length = n) (h : n ≤ bs.length) :
    masked (bs.take n) used = bs.masked used := by
  have hlength : (bs.take n).length = used.length := by
    rw [List.length_take]
    omega
  have happend := masked_append hlength (bs.drop n) []
  rw [List.take_append_drop, List.append_nil] at happend
  rw [happend]
  simp [masked]

theorem ofNat_cons (w : Nat) (b : UInt8) (n : Nat) : ofNat (w + 1) (b.toNat + 256 * n) = b :: ofNat w n := by
  have hb := b.toNat_lt
  have hlow : UInt8.ofNat (b.toNat + 256 * n) = b := by
    apply UInt8.toNat_inj.1
    rw [UInt8.toNat_ofNat']
    omega
  have hhigh : (b.toNat + 256 * n) / 256 = n := by omega
  rw [ofNat, hlow, hhigh]

theorem toNat_cons_mod (b : UInt8) (bs : Octets) (k : Nat) :
    toNat (b :: bs) % Nat.pow 256 (k + 1) = b.toNat + 256 * (toNat bs % Nat.pow 256 k) := by
  have hb := b.toNat_lt
  have hpow : Nat.pow 256 (k + 1) = 256 * Nat.pow 256 k := Nat.mul_comm _ _
  have hlow : (b.toNat + 256 * toNat bs) % 256 = b.toNat := by omega
  have hhigh : (b.toNat + 256 * toNat bs) / 256 = toNat bs := by omega
  rw [toNat, hpow, Nat.mod_mul, hlow, hhigh]

/-- A number that was read, with its low octets only. -/
theorem ofNat_toNat_mod (bs : Octets) (k : Nat) :
    ofNat bs.length (toNat bs % Nat.pow 256 k) =
      bs.masked (List.replicate (min bs.length k) 0xFF ++ List.replicate (bs.length - k) 0x00) := by
  induction bs generalizing k with
  | nil => rfl
  | cons b bs ih =>
    cases k with
    | zero =>
      have h0 := ih 0
      have hz : b &&& 0x00 = 0 := UInt8.and_zero
      simp only [Nat.min_zero, List.replicate_zero, List.nil_append, Nat.sub_zero, Nat.pow_eq, Nat.pow_zero,
        Nat.mod_one] at h0 ⊢
      rw [List.length_cons, ofNat, Nat.zero_div, h0, List.replicate_succ, masked_cons, hz]
      rfl
    | succ k =>
      have hfull : b &&& 0xFF = b := UInt8.and_neg_one
      rw [toNat_cons_mod, List.length_cons, ofNat_cons, ih k, Nat.add_min_add_right, Nat.add_sub_add_right,
        List.replicate_succ, List.cons_append, masked_cons, hfull]

end Octets

namespace Parameters

variable (p : Parameters)

/-- The bits of an address field that count: four octets. -/
def usedAddress : Octets :=
  List.replicate (min p.objectAddressSize 4) 0xFF ++ List.replicate (p.objectAddressSize - 4) 0x00

@[simp] theorem length_usedAddress : p.usedAddress.length = p.objectAddressSize := by
  simp [usedAddress]
  omega

variable {p} {bs rest : Octets} {address : UInt32}

theorem readAddress_eq_ok (h : p.readAddress bs = .ok (address, rest)) :
    p.objectAddressSize ≤ bs.length ∧ address = UInt32.ofNat (Octets.toNat (bs.take p.objectAddressSize)) ∧
      rest = bs.drop p.objectAddressSize := by
  unfold readAddress Octets.split? at h
  by_cases hle : p.objectAddressSize ≤ bs.length
  · rw [if_pos hle] at h
    cases h
    exact ⟨hle, rfl, rfl⟩
  · rw [if_neg hle] at h
    cases h

/-- An address that was read is written as its field, without the octets beyond the fourth. -/
theorem writeAddress_append (h : p.readAddress bs = .ok (address, rest)) (used : Octets) :
    p.writeAddress address ++ rest.masked used = bs.masked (p.usedAddress ++ used) := by
  obtain ⟨hle, rfl, rfl⟩ := readAddress_eq_ok h
  have hlength : (bs.take p.objectAddressSize).length = p.objectAddressSize := List.length_take_of_le hle
  have hmod := Octets.ofNat_toNat_mod (bs.take p.objectAddressSize) 4
  rw [hlength] at hmod
  have hwrite : p.writeAddress (UInt32.ofNat (Octets.toNat (bs.take p.objectAddressSize))) =
      Octets.masked (bs.take p.objectAddressSize) p.usedAddress := by
    unfold writeAddress usedAddress
    rw [UInt32.toNat_ofNat', ← hmod]
  rw [hwrite, ← Octets.masked_append (hlength.trans p.length_usedAddress.symm), List.take_append_drop]

end Parameters

/-! ## One object -/

theorem TypeId.length_usedBits (t : TypeId) : t.usedBits.length = t.elementSize := t.lawful.length_used

namespace InformationObject

variable {t : TypeId} {p : Parameters} {bs : Octets}

theorem decode_counted (address : UInt32) (h : t.elementSize ≤ bs.length) :
    ∃ o, decode t p bs (some address) = .ok o ∧ o.element.typeId = t ∧ o.address = address ∧
      o.encode p false = bs.masked t.usedBits := by
  obtain ⟨e, hread, htype, hwrite⟩ := Element.read_of_length_le h
  rw [Octets.masked_take t.length_usedBits h] at hwrite
  refine ⟨⟨address, e⟩, ?_, htype, rfl, hwrite⟩
  show ofElement t address bs = _
  unfold ofElement
  rw [hread]

theorem decode_addressed (h : p.objectAddressSize + t.elementSize ≤ bs.length) :
    ∃ o rest, decode t p bs none = .ok o ∧ o.element.typeId = t ∧
      p.readAddress bs = .ok (o.address, rest) ∧ o.encode p false = rest.masked t.usedBits ∧
      o.encode p true = bs.masked (p.usedAddress ++ t.usedBits) := by
  have hfield : p.objectAddressSize ≤ bs.length := by omega
  obtain ⟨address, haddress⟩ := p.readAddress_long hfield
  have hlength : t.elementSize ≤ (bs.drop p.objectAddressSize).length := by
    rw [List.length_drop]
    omega
  obtain ⟨o, hdecode, htype, rfl, hencode⟩ := decode_counted (p := p) address hlength
  refine ⟨o, _, ?_, htype, haddress, hencode, ?_⟩
  · unfold decode
    rw [haddress]
    exact hdecode
  · rw [← p.writeAddress_append haddress, ← hencode]
    rfl

end InformationObject

/-! ## Blocks of one width -/

section Blocks

variable {α : Type} {f : α → Octets} {width : Nat} {used : Octets}

theorem exists_list {P : Nat → α → Prop} (n : Nat) (h : ∀ i < n, ∃ x, P i x) :
    ∃ xs : List α, xs.length = n ∧ ∀ i x, xs[i]? = some x → P i x := by
  induction n generalizing P with
  | zero => exact ⟨[], rfl, nofun⟩
  | succ n ih =>
    obtain ⟨x, hx⟩ := h 0 (by omega)
    obtain ⟨xs, rfl, hxs⟩ := ih fun i hi => h (i + 1) (by omega)
    refine ⟨x :: xs, rfl, fun i y hy => ?_⟩
    cases i with
    | zero =>
      simp only [List.getElem?_cons_zero, Option.some.injEq] at hy
      exact hy ▸ hx
    | succ i => exact hxs i y (by simpa using hy)

/-- A string of `n` blocks behind `offset` octets has a whole block at each index. -/
theorem le_length_drop_block {bs : Octets} {offset n i : Nat} (hbs : bs.length = offset + n * width)
    (hi : i < n) : width ≤ (bs.drop (offset + i * width)).length := by
  have hle := Nat.mul_le_mul_right width hi
  rw [Nat.succ_mul] at hle
  rw [List.length_drop, hbs]
  omega

theorem flatMap_blocks (hused : used.length = width) {xs : List α} {bs : Octets}
    (hbs : bs.length = xs.length * width)
    (h : ∀ i x, xs[i]? = some x → f x = Octets.masked (bs.drop (i * width)) used) :
    xs.flatMap f = bs.masked (List.replicate xs.length used).flatten := by
  induction xs generalizing bs with
  | nil =>
    have hnil : bs = [] := List.eq_nil_of_length_eq_zero (by simpa using hbs)
    subst hnil
    rfl
  | cons x xs ih =>
    rw [List.length_cons, Nat.succ_mul] at hbs
    have hwidth : width ≤ bs.length := by omega
    have hx : f x = bs.masked used := by simpa using h 0 x rfl
    have hrest : xs.flatMap f = Octets.masked (bs.drop width) (List.replicate xs.length used).flatten := by
      refine ih (by rw [List.length_drop]; omega) fun i y hy => ?_
      rw [List.drop_drop, Nat.add_comm width, ← Nat.succ_mul]
      exact h (i + 1) y hy
    have htake : (bs.take width).length = used.length := by rw [List.length_take_of_le hwidth, hused]
    rw [List.flatMap_cons, hx, hrest, ← Octets.masked_take hused hwidth, ← Octets.masked_append htake,
      List.take_append_drop, List.length_cons, List.replicate_succ, List.flatten_cons]

end Blocks

/-! ## All objects -/

namespace Asdu

/-- The octets of a payload without the reserved bits. -/
def usedPayload (p : Parameters) (t : TypeId) (q : StructureQualifier) : Octets :=
  if q.count = 0 then []
  else if q.sequence then p.usedAddress ++ (List.replicate q.count t.usedBits).flatten
  else (List.replicate q.count (p.usedAddress ++ t.usedBits)).flatten

/-- What an ASDU is taken apart into: an object of its type at every index, under addresses that count up
if it is a sequence. The objects are packed as its payload, up to reserved bits. -/
structure Unpacks (a : Asdu) (t : TypeId) (objects : List InformationObject) : Prop where
  length : objects.length = a.count
  element : ∀ i o, objects[i]? = some o → a.element i = .ok o ∧ o.element.typeId = t
  addresses : a.isSequence = true → ∀ first, objects[0]? = some first → ∀ i o, objects[i]? = some o →
    o.address = first.address + UInt32.ofNat i
  payload : pack a.parameters a.isSequence objects =
    a.payload.masked (usedPayload a.parameters t a.qualifier)

variable {a : Asdu} {t : TypeId}

theorem ofCode_of_typeId? (ht : a.typeId? = some t) : TypeId.ofCode a.typeCode = .ok t := by
  unfold typeId? at ht
  unfold TypeId.ofCode
  rw [ht]

theorem element_outOfBounds (ht : a.typeId? = some t) {i : Nat} (hi : a.count ≤ i) :
    a.element i = .error (.parsing s!"element index {i} out of bounds ({a.count} elements)") := by
  unfold element
  rw [ofCode_of_typeId? ht]
  simp only [bind, Except.bind, if_pos hi]
  rfl

theorem element_unknown (ht : a.typeId? = none) (i : Nat) :
    a.element i = .error (.unknownTypeId a.typeCode) := by
  unfold typeId? at ht
  unfold element TypeId.ofCode
  rw [ht]
  rfl

theorem usedPayload_counted (hs : a.isSequence = true) (hn : a.count ≠ 0) (p : Parameters) :
    usedPayload p t a.qualifier = p.usedAddress ++ (List.replicate a.count t.usedBits).flatten :=
  (if_neg hn).trans (if_pos hs)

theorem usedPayload_addressed (hs : a.isSequence = false) (hn : a.count ≠ 0) (p : Parameters) :
    usedPayload p t a.qualifier = (List.replicate a.count (p.usedAddress ++ t.usedBits)).flatten :=
  (if_neg hn).trans (if_neg (Bool.eq_false_iff.1 hs))

/-! ### Objects with an address each -/

theorem exists_element_addressed (ht : a.typeId? = some t) (hs : a.isSequence = false)
    (hp : a.payload.length = a.count * (a.parameters.objectAddressSize + t.elementSize)) {i : Nat}
    (hi : i < a.count) : ∃ o, (a.element i = .ok o ∧ o.element.typeId = t) ∧
      o.encode a.parameters true =
        Octets.masked (a.payload.drop (i * (a.parameters.objectAddressSize + t.elementSize)))
          (a.parameters.usedAddress ++ t.usedBits) := by
  have hlength := le_length_drop_block (hp.trans (Nat.zero_add _).symm) hi
  rw [Nat.zero_add] at hlength
  obtain ⟨o, -, hdecode, htype, -, -, hencode⟩ := InformationObject.decode_addressed hlength
  refine ⟨o, ⟨?_, htype⟩, hencode⟩
  rw [element_addressed (ofCode_of_typeId? ht) hi (by simp [hs]), hdecode]

theorem exists_unpacks_addressed (ht : a.typeId? = some t) (hs : a.isSequence = false)
    (hn : a.count ≠ 0)
    (hp : a.payload.length = a.count * (a.parameters.objectAddressSize + t.elementSize)) :
    ∃ objects, a.Unpacks t objects := by
  obtain ⟨objects, hlength, hobjects⟩ :=
    exists_list a.count fun i hi => exists_element_addressed ht hs hp hi
  have hused : (a.parameters.usedAddress ++ t.usedBits).length =
      a.parameters.objectAddressSize + t.elementSize := by
    rw [List.length_append, Parameters.length_usedAddress, t.length_usedBits]
  rw [← hlength] at hp
  have hblocks := flatMap_blocks hused hp fun i o ho => (hobjects i o ho).2
  refine ⟨objects, hlength, fun i o ho => (hobjects i o ho).1, by simp [hs], ?_⟩
  rw [hs, pack_false, hblocks, usedPayload_addressed hs hn, hlength]

/-! ### Objects that count up -/

theorem exists_element_counted (ht : a.typeId? = some t) (hs : a.isSequence = true)
    (hp : a.payload.length = a.parameters.objectAddressSize + a.count * t.elementSize)
    {first : UInt32} {rest : Octets} (hfirst : a.parameters.readAddress a.payload = .ok (first, rest))
    {i : Nat} (hi : i < a.count) : ∃ o, (a.element i = .ok o ∧ o.element.typeId = t) ∧
      o.address = first + UInt32.ofNat i ∧
      o.encode a.parameters false = Octets.masked (rest.drop (i * t.elementSize)) t.usedBits := by
  have hcode := ofCode_of_typeId? ht
  have hlength := le_length_drop_block hp hi
  obtain ⟨-, -, rfl⟩ := Parameters.readAddress_eq_ok hfirst
  rw [List.drop_drop]
  by_cases hi0 : 0 < i
  · obtain ⟨o, hdecode, htype, haddress, hencode⟩ :=
      InformationObject.decode_counted (p := a.parameters) (first + UInt32.ofNat i) hlength
    refine ⟨o, ⟨?_, htype⟩, haddress, hencode⟩
    rw [element_counted hcode hi ⟨hs, hi0⟩ hfirst, hdecode]
  · -- The first object is read with its address, which all others count from.
    obtain rfl : i = 0 := by omega
    have hlength' : a.parameters.objectAddressSize + t.elementSize ≤ a.payload.length := by
      rw [List.length_drop] at hlength
      omega
    obtain ⟨o, rest, hdecode, htype, haddress, hencode, -⟩ := InformationObject.decode_addressed hlength'
    rw [hfirst] at haddress
    cases haddress
    refine ⟨o, ⟨?_, htype⟩, by simp, by simpa using hencode⟩
    rw [element_addressed hcode hi (by simp), Nat.zero_mul, List.drop_zero, hdecode]

theorem exists_unpacks_counted (ht : a.typeId? = some t) (hs : a.isSequence = true) (hn : a.count ≠ 0)
    (hp : a.payload.length = a.parameters.objectAddressSize + a.count * t.elementSize) :
    ∃ objects, a.Unpacks t objects := by
  have hwidth : a.parameters.objectAddressSize ≤ a.payload.length := by omega
  obtain ⟨first, hfirst⟩ := a.parameters.readAddress_long hwidth
  obtain ⟨objects, hlength, hobjects⟩ :=
    exists_list a.count fun i hi => exists_element_counted ht hs hp hfirst hi
  have hrest : (a.payload.drop a.parameters.objectAddressSize).length = objects.length * t.elementSize := by
    rw [List.length_drop, hlength, hp]
    omega
  have hblocks := flatMap_blocks t.length_usedBits hrest fun i o ho => (hobjects i o ho).2.2
  refine ⟨objects, hlength, fun i o ho => (hobjects i o ho).1, ?_, ?_⟩
  · intro _ o ho i o' ho'
    rw [(hobjects i o' ho').2.1, (hobjects 0 o ho).2.1]
    simp
  · obtain ⟨o, later, rfl⟩ : ∃ o later, objects = o :: later := List.exists_cons_of_length_pos (by omega)
    have haddress : o.address = first := by simpa using (hobjects 0 o rfl).2.1
    rw [hs, pack_true, hblocks, haddress, Parameters.writeAddress_append hfirst,
      usedPayload_counted hs hn, hlength]

/-- A payload of the size that its objects take is taken apart. -/
theorem exists_unpacks (ht : a.typeId? = some t)
    (hp : a.payload.length = payloadSize a.parameters t a.qualifier) : ∃ objects, a.Unpacks t objects := by
  by_cases hn : a.count = 0
  · rw [payloadSize_bare hn] at hp
    refine ⟨[], hn.symm, ?_, ?_, ?_⟩
    · intro i o ho
      simp at ho
    · intro _ first hfirst
      simp at hfirst
    · rw [List.eq_nil_of_length_eq_zero hp]
      rfl
  · have hpos : 0 < a.count := Nat.pos_of_ne_zero hn
    have hsize : a.payload.length = payloadSize a.parameters t ⟨a.count, a.isSequence⟩ := hp
    cases hs : a.isSequence with
    | true =>
      rw [payloadSize_counted ⟨hs, hpos⟩] at hsize
      exact exists_unpacks_counted ht hs hn hsize
    | false =>
      have hs' : ¬ (a.isSequence = true ∧ 0 < a.count) := by simp [hs]
      rw [payloadSize_addressed hs'] at hsize
      exact exists_unpacks_addressed ht hs hn hsize

end Asdu

end Telecontrol
