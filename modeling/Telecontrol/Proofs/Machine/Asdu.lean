import Telecontrol.Outstation.Dispatch
import Telecontrol.Proofs.Asdu.Build
import Telecontrol.Proofs.Asdu.Unpack
import Telecontrol.Proofs.Machine.Element
import Telecontrol.Proofs.Parameters

/-!
# ASDUs, octet by octet

How a machine reads an ASDU, looks at its objects, routes it and adds objects to one that is built. It takes
the octets of the header by their positions, computes where an object stands and counts objects in one octet.

* `Machine.parse`, `Machine.element`, `Machine.dispatch`, `Machine.addAll`: the machine's operations.
* `Machine.parse_eq`, `Machine.element_eq`, `Machine.dispatch_eq`, `Machine.addAll_eq`: under valid
  parameters none of them makes the machine crash, whatever the octets and the index are.
-/

namespace Telecontrol

namespace Machine

variable {word : Nat} {p : Parameters} {t : TypeId} {bs : Octets} {a : Asdu}

/-! ## Reading -/

def headerSize (word : Nat) (p : Parameters) : Option Nat := do
  let size ← add word p.typeIdSize p.qualifierSize
  let size ← add word size p.causeSize
  add word size p.commonAddressSize

def payloadSize (word : Nat) (p : Parameters) (t : TypeId) (q : StructureQualifier) : Option Nat := do
  if q.count = 0 then
    return 0
  else if q.sequence then
    let elements ← mul word q.count t.elementSize
    add word p.objectAddressSize elements
  else
    let width ← add word p.objectAddressSize t.elementSize
    mul word q.count width

def ofOctets (word : Nat) (p : Parameters) (bs : Octets) : Option Asdu := do
  let typeCode ← index bs 0
  let qualifier ← index bs 1
  let cause ← index bs 2
  let (position, originator) ←
    if p.causeSize = 2 then do
      let position ← add word 3 1
      let originator ← index bs 3
      pure (position, originator)
    else
      pure (3, 0)
  let commonAddress ←
    if p.commonAddressSize = 2 then do
      let low ← index bs position
      let high ← index bs (← add word position 1)
      pure [low, high]
    else do
      let octet ← index bs position
      pure [octet]
  let payload ← tail bs (← headerSize word p)
  return {
    parameters := p
    typeCode
    qualifier := .ofOctet qualifier
    cause := .ofCode cause
    test := hasBits cause 0x80
    negative := hasBits cause 0x40
    originator
    commonAddress := UInt16.ofNat (Octets.toNat commonAddress)
    payload }

def parse (word : Nat) (p : Parameters) (bs : Octets) : Option (Except Fault Asdu) := do
  let size ← headerSize word p
  if bs.length < size then
    return .error (.parsing s!"ASDU needs {size} header bytes, got {bs.length}")
  let a ← ofOctets word p bs
  match a.typeId? with
  | none => return .ok a
  | some t =>
    let expected ← payloadSize word p t a.qualifier
    if a.payload.length = expected then
      return .ok a
    else
      let need := s!"needs {expected} payload bytes, got {a.payload.length}"
      return .error (.parsing s!"{t} with {a.count} elements {need}")

theorem headerSize_eq (hw : 16 ≤ word) (hp : p.StandardHeader) : headerSize word p = some p.headerSize := by
  have hle := hp.headerSize_le
  unfold Parameters.headerSize at hle
  unfold headerSize
  simp only [add_eq (lt_word hw (show p.typeIdSize + p.qualifierSize < 65536 by omega)),
    add_eq (lt_word hw (show p.typeIdSize + p.qualifierSize + p.causeSize < 65536 by omega)),
    add_eq (lt_word hw (show p.typeIdSize + p.qualifierSize + p.causeSize + p.commonAddressSize < 65536 by omega)),
    Option.bind_eq_bind, Option.bind_some]
  rfl

theorem payloadSize_eq (hw : 16 ≤ word) (hp : p.objectAddressSize ≤ 3) {q : StructureQualifier}
    (hq : q.count < 128) : payloadSize word p t q = some (Asdu.payloadSize p t q) := by
  have ht := t.elementSize_le
  have hmul {n : Nat} (hn : n ≤ 15) : q.count * n < 65536 :=
    Nat.lt_of_le_of_lt (Nat.mul_le_mul (Nat.le_of_lt hq) hn) (by decide)
  unfold payloadSize Asdu.payloadSize
  by_cases h0 : q.count = 0
  · simp only [if_pos h0]
    rfl
  · by_cases hs : q.sequence = true
    · have hsmall := Nat.mul_le_mul (Nat.le_of_lt hq) ht
      simp only [if_neg h0, if_pos hs, mul_eq (lt_word hw (hmul (Nat.le_trans ht (by decide)))),
        add_eq (lt_word hw (show p.objectAddressSize + q.count * t.elementSize < 65536 by omega)),
        Option.bind_eq_bind, Option.bind_some]
    · have hwidth : p.objectAddressSize + t.elementSize ≤ 15 := by omega
      have hadd : add word p.objectAddressSize t.elementSize = some (p.objectAddressSize + t.elementSize) :=
        add_eq (lt_word hw (Nat.lt_of_le_of_lt hwidth (by decide)))
      have hmul' := mul_eq (lt_word hw (hmul hwidth))
      simp only [if_neg h0, if_neg hs, hadd, hmul', Option.bind_eq_bind, Option.bind_some]

/-- The octets of a field whose octets are there. -/
theorem take_drop_one {i : Nat} (h : i < bs.length) : (bs.drop i).take 1 = [bs.getD i 0] := by
  rw [List.drop_eq_getElem_cons h, List.getD_eq_getElem?_getD, List.getElem?_eq_getElem h]
  rfl

theorem take_drop_two {i : Nat} (h : i + 1 < bs.length) :
    (bs.drop i).take 2 = [bs.getD i 0, bs.getD (i + 1) 0] := by
  have hi : i < bs.length := Nat.lt_of_succ_lt h
  have hget : bs.getD i 0 = bs[i] := by
    rw [List.getD_eq_getElem?_getD, List.getElem?_eq_getElem hi]
    rfl
  rw [List.drop_eq_getElem_cons hi, List.take_succ_cons, take_drop_one h, hget]

theorem ofOctets_eq (hw : 16 ≤ word) (hp : p.StandardHeader) (h : p.headerSize ≤ bs.length) :
    ofOctets word p bs = some (Asdu.ofOctets p bs) := by
  have hlong : 2 + p.causeSize + p.commonAddressSize ≤ bs.length := by
    unfold Parameters.headerSize at h
    rw [hp.typeIdSize, hp.qualifierSize] at h
    exact h
  have hnext {i : Nat} (hi : i < 5) : add word i 1 = some (i + 1) := add_eq (lt_word hw (by omega))
  have hindex {i : Nat} (hi : i < 2 + p.causeSize + p.commonAddressSize) :
      index bs i = some (bs.getD i 0) := index_eq (Nat.lt_of_lt_of_le hi hlong)
  unfold ofOctets Asdu.ofOctets
  rw [headerSize_eq hw hp]
  rcases hp.causeSize with h1 | h1 <;> rcases hp.commonAddressSize with h2 | h2
  all_goals rw [h1, h2] at hlong hindex
  · have hfield : (bs.drop 3).take 1 = [bs.getD 3 0] := take_drop_one (by omega)
    simp [h1, h2, hindex, tail_eq h, hfield]
  · have hfield : (bs.drop 3).take 2 = [bs.getD 3 0, bs.getD 4 0] := take_drop_two (by omega)
    simp [h1, h2, hindex, hnext, tail_eq h, hfield]
  · have hfield : (bs.drop 4).take 1 = [bs.getD 4 0] := take_drop_one (by omega)
    simp [h1, h2, hindex, hnext, tail_eq h, hfield]
  · have hfield : (bs.drop 4).take 2 = [bs.getD 4 0, bs.getD 5 0] := take_drop_two (by omega)
    simp [h1, h2, hindex, hnext, tail_eq h, hfield]

theorem parse_eq (hw : 16 ≤ word) (hp : p.Valid) (bs : Octets) :
    parse word p bs = some (Asdu.parse p bs) := by
  unfold parse Asdu.parse
  rw [headerSize_eq hw hp.toStandardHeader]
  simp only [Option.bind_eq_bind, Option.bind_some]
  by_cases h : bs.length < p.headerSize
  · rw [if_pos h, if_pos h]
    rfl
  · rw [if_neg h, if_neg h, ofOctets_eq hw hp.toStandardHeader (Nat.le_of_not_lt h)]
    have hcount : (Asdu.ofOctets p bs).qualifier.count < 128 := Nat.mod_lt _ (by decide)
    simp only [Option.bind_some]
    cases (Asdu.ofOctets p bs).typeId? with
    | none => rfl
    | some t =>
      dsimp only
      rw [payloadSize_eq hw hp.objectAddressSize_le hcount]
      rw [Option.bind_some]
      split <;> rfl

/-! ## Objects -/

theorem some_bind {α β : Type} (x : α) (next : α → ExceptT Fault Option β) :
    (liftM (some x) >>= next) = next x := rfl

theorem ok_bind {α β : Type} (x : α) (next : α → ExceptT Fault Option β) :
    (liftM (Except.ok x : Except Fault α) >>= next) = next x := rfl

def readObject (word : Nat) (t : TypeId) (address : UInt32) (bs : Octets) :
    ExceptT Fault Option InformationObject := do
  if bs.length < t.elementSize then
    throw (.parsing s!"{t} element needs {t.elementSize} bytes, got {bs.length}")
  let element ← readElement word t bs
  return ⟨address, element⟩

/-- The object at the front of an octet string, where its address stands too unless it is given. -/
def decodeObject (word : Nat) (t : TypeId) (p : Parameters) (bs : Octets) (given : Option UInt32) :
    ExceptT Fault Option InformationObject := do
  match given with
  | some address => readObject word t address bs
  | none =>
    let (address, _) ← p.readAddress bs
    readObject word t address (← tail bs p.objectAddressSize)

/-- The object at an index. What stands behind the payload is empty. -/
def element (word : Nat) (a : Asdu) (index : Nat) : ExceptT Fault Option InformationObject := do
  let t ← TypeId.ofCode a.typeCode
  if a.count ≤ index then
    throw (.parsing s!"element index {index} out of bounds ({a.count} elements)")
  let width := a.parameters.objectAddressSize
  if a.isSequence && decide (0 < index) then
    let (first, _) ← a.parameters.readAddress a.payload
    let offset ← add word width (← mul word index t.elementSize)
    decodeObject word t a.parameters (a.payload.drop offset) (some (first + UInt32.ofNat index))
  else
    let offset ← mul word index (← add word width t.elementSize)
    decodeObject word t a.parameters (a.payload.drop offset) none

theorem readObject_eq (hw : 16 ≤ word) (address : UInt32) (bs : Octets) :
    readObject word t address bs = some (InformationObject.ofElement t address bs) := by
  unfold readObject InformationObject.ofElement
  by_cases h : bs.length < t.elementSize
  · rw [if_pos h, Element.read_of_length_lt h]
    rfl
  · obtain ⟨e, hread, he⟩ := readElement_eq hw (Nat.le_of_not_lt h)
    rw [if_neg h, he]
    show (readElement word t bs >>= fun e => pure (InformationObject.mk address e)) = _
    rw [hread]
    rfl

theorem decodeObject_eq (hw : 16 ≤ word) (bs : Octets) (given : Option UInt32) :
    decodeObject word t p bs given = some (InformationObject.decode t p bs given) := by
  cases given with
  | some address => exact readObject_eq hw address bs
  | none =>
    unfold decodeObject InformationObject.decode
    cases ha : p.readAddress bs with
    | error fault => rfl
    | ok field =>
      obtain ⟨address, rest⟩ := field
      obtain ⟨hle, -, rfl⟩ := Parameters.readAddress_eq_ok ha
      dsimp only
      rw [tail_eq hle]
      exact readObject_eq hw address (bs.drop p.objectAddressSize)

theorem element_eq (hw : 16 ≤ word) (hp : a.parameters.objectAddressSize ≤ 3) (hc : a.count < 128)
    (index : Nat) : element word a index = some (a.element index) := by
  unfold element Asdu.element
  cases TypeId.ofCode a.typeCode with
  | error fault => rfl
  | ok t =>
    by_cases hi : a.count ≤ index
    · simp only [if_pos hi]
      rfl
    · have hlt : index < 128 := Nat.lt_of_le_of_lt (Nat.le_of_not_le hi) hc
      have ht := t.elementSize_le
      have hmul {n : Nat} (hn : n ≤ 15) : index * n ≤ 128 * 15 := Nat.mul_le_mul (Nat.le_of_lt hlt) hn
      by_cases hs : (a.isSequence && decide (0 < index)) = true
      · have hsmall := hmul (Nat.le_trans ht (by decide : 12 ≤ 15))
        have hoffset : add word a.parameters.objectAddressSize (index * t.elementSize) =
            some (a.parameters.objectAddressSize + index * t.elementSize) := add_eq (lt_word hw (by omega))
        simp only [ok_bind, if_neg hi, if_pos hs, mul_eq (lt_word hw (Nat.lt_of_le_of_lt hsmall (by decide))),
          some_bind, hoffset]
        cases a.parameters.readAddress a.payload with
        | error fault => rfl
        | ok field =>
          rw [ok_bind]
          exact decodeObject_eq hw _ _
      · have hsmall := hmul (show a.parameters.objectAddressSize + t.elementSize ≤ 15 by omega)
        simp only [ok_bind, if_neg hi, if_neg hs, add_eq (lt_word hw (show
          a.parameters.objectAddressSize + t.elementSize < 65536 by omega)), some_bind,
          mul_eq (lt_word hw (Nat.lt_of_le_of_lt hsmall (by decide)))]
        exact decodeObject_eq hw _ _

/-! ## Routing -/

def dispatch (word : Nat) (h : Handlers) (asdu : Asdu) : Option Dispatch := do
  if asdu.typeId?.bind (·.allowsCause? asdu.cause) = some false then
    return { reply := some (asdu.refusal .unknownCause) }
  match ← (element word asdu 0).run with
  | .error _ => return h.offer asdu [.any]
  | .ok object =>
    if object.element.typeId = .test then
      return { reply := some (asdu.withCause .activationConfirm) }
    else
      return h.offer asdu ((Handlers.routeOf object).toList ++ [.any])

theorem dispatch_eq (hw : 16 ≤ word) (hp : a.parameters.objectAddressSize ≤ 3) (hc : a.count < 128)
    (h : Handlers) : dispatch word h a = some (h.dispatch a) := by
  unfold dispatch Handlers.dispatch
  split
  · rfl
  · rw [ExceptT.run, element_eq hw hp hc]
    cases a.element 0 with
    | error fault => rfl
    | ok object =>
      simp only [Option.bind_eq_bind, Option.bind_some]
      split <;> rfl

/-! ## Building -/

/-- The octets of an object address: as many of its four octets as there is room for, and zeros behind
them. -/
def writeAddress (p : Parameters) (address : UInt32) : Option Octets := do
  let width := min p.objectAddressSize 4
  let field ← slice (Octets.ofNat 4 address.toNat) 0 width
  let zeros ← sub p.objectAddressSize width
  return field ++ List.replicate zeros 0

def encodeObject (p : Parameters) (o : InformationObject) (withAddress : Bool) : Option Octets := do
  if withAddress then
    return (← writeAddress p o.address) ++ o.element.write
  else
    return o.element.write

def canFollow (a : Asdu) (o : InformationObject) : Bool :=
  (a.count == 0 || o.element.typeId.code == a.typeCode)
    && decide (a.count < Asdu.maxElements)
    && (!a.isSequence || o.element.typeId.supportsSequence && (a.count == 0 || a.continues o.address))

/-- The ASDU with one more object, if the object can be added. The objects are counted in one octet. -/
def addObject (word : Nat) (a : Asdu) (o : InformationObject) : Option (Option Asdu) := do
  if !canFollow a o then return none
  let length ← add word (← headerSize word a.parameters) a.payload.length
  let size ← add word o.element.size (if a.packsAddress then a.parameters.objectAddressSize else 0)
  let total ← add word length size
  if Apdu.maxAsduLength < total then return none
  let octets ← encodeObject a.parameters o a.packsAddress
  let count ← add 8 a.count 1
  return some
    { a with
      typeCode := o.element.typeId.code
      qualifier := { a.qualifier with count }
      payload := a.payload ++ octets }

def addAll (word : Nat) (a : Asdu) : List InformationObject → Option Asdu
  | [] => some a
  | o :: later => do
    let added ← addObject word a o
    addAll word (added.getD a) later

theorem writeAddress_eq (hp : p.Valid) (address : UInt32) :
    writeAddress p address = some (p.writeAddress address) := by
  have hmin := hp.one_le_objectAddressSize
  have hmax := hp.objectAddressSize_le
  unfold writeAddress Parameters.writeAddress
  obtain h | h | h : p.objectAddressSize = 1 ∨ p.objectAddressSize = 2 ∨ p.objectAddressSize = 3 := by omega
  all_goals
    rw [h]
    rfl

theorem encodeObject_eq (hp : p.Valid) (o : InformationObject) (withAddress : Bool) :
    encodeObject p o withAddress = some (o.encode p withAddress) := by
  cases withAddress with
  | false => rfl
  | true =>
    unfold encodeObject
    rw [if_pos rfl, writeAddress_eq hp]
    rfl

theorem addObject_eq (hw : 16 ≤ word) (hp : a.parameters.Valid) (hlength : a.encodedLength < 60000)
    (o : InformationObject) : addObject word a o = some (a.add? o) := by
  have hsize : o.encodedSize a.parameters a.packsAddress ≤ 15 := by
    have hmax := hp.objectAddressSize_le
    have helement := o.element.typeId.elementSize_le
    unfold InformationObject.encodedSize Element.size
    split <;> omega
  have haccepts : a.accepts o = (canFollow a o && decide
      (a.encodedLength + o.encodedSize a.parameters a.packsAddress ≤ Apdu.maxAsduLength)) := rfl
  unfold addObject Asdu.add?
  rw [haccepts]
  cases hf : canFollow a o with
  | false => rfl
  | true =>
    have hcount : a.count < 127 := by
      unfold canFollow at hf
      simp only [Bool.and_eq_true, decide_eq_true_eq] at hf
      exact hf.1.2
    have hlen : add word a.parameters.headerSize a.payload.length = some a.encodedLength :=
      add_eq (lt_word hw (Nat.lt_trans hlength (by decide)))
    have hobject : add word o.element.size (if a.packsAddress then a.parameters.objectAddressSize else 0) =
        some (o.encodedSize a.parameters a.packsAddress) :=
      add_eq (lt_word hw (Nat.lt_of_le_of_lt hsize (by decide)))
    have htotal : add word a.encodedLength (o.encodedSize a.parameters a.packsAddress) =
        some (a.encodedLength + o.encodedSize a.parameters a.packsAddress) := add_eq (lt_word hw (by omega))
    have hnext : add 8 a.count 1 = some (a.count + 1) :=
      add_eq (Nat.lt_of_lt_of_le (Nat.succ_lt_succ hcount) (by decide))
    simp only [headerSize_eq hw hp.toStandardHeader, Option.bind_eq_bind, Option.bind_some, hlen, hobject, htotal,
      encodeObject_eq hp, hnext]
    by_cases hfit : a.encodedLength + o.encodedSize a.parameters a.packsAddress ≤ Apdu.maxAsduLength
    · simp [hfit, Nat.not_lt.2 hfit]
    · simp [hfit, Nat.lt_of_not_le hfit]

/-- An ASDU that fits into a frame and counts its objects in seven bits. -/
structure Fits (a : Asdu) : Prop where
  parameters : a.parameters.Valid
  count : a.count < 128
  length : a.encodedLength ≤ Apdu.maxAsduLength

theorem Fits.add? {a' : Asdu} {o : InformationObject} (hf : Fits a) (h : a.add? o = some a') : Fits a' := by
  obtain ⟨haccepts, rfl⟩ := Asdu.add?_eq_some h
  obtain ⟨-, hcount, -, hlength⟩ := Asdu.accepts_iff.1 haccepts
  refine ⟨hf.parameters, Nat.succ_lt_succ hcount, ?_⟩
  unfold Asdu.encodedLength
  rw [List.length_append, o.length_encode, ← Nat.add_assoc]
  exact hlength

theorem addAll_eq (hw : 16 ≤ word) (hf : Fits a) (objects : List InformationObject) :
    addAll word a objects = some (a.addAll objects) ∧ Fits (a.addAll objects) := by
  induction objects generalizing a with
  | nil => exact ⟨rfl, hf⟩
  | cons o later ih =>
    have hshort : a.encodedLength < 60000 := Nat.lt_of_le_of_lt hf.length (by decide)
    show ((addObject word a o).bind fun added => addAll word (added.getD a) later) =
      some (((a.add? o).getD a).addAll later) ∧ Fits (((a.add? o).getD a).addAll later)
    rw [addObject_eq hw hf.parameters hshort, Option.bind_some]
    cases h : a.add? o with
    | none => exact ih hf
    | some a' => exact ih (hf.add? h)

end Machine

end Telecontrol
