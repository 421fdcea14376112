import Telecontrol.Proofs.Asdu.Header
import Telecontrol.Proofs.Asdu.Pack

/-!
# Building an ASDU

An ASDU is built by any number of edits, of which some add objects and some of these are refused. What
was built can be written, read back and taken apart into the objects that were accepted.

* `Asdu.Edit`, `Asdu.Draft`: the edits, and an ASDU with the objects that it accepted.
* `Asdu.Holds.add`: an ASDU to which an object was added holds it behind the others.
* `Asdu.Draft.Sound.edit`, `Asdu.Draft.Sound.run`: an ASDU holds what it accepted, whatever the edits.
* `Asdu.Holds.parse`: what was built can be read back.
* `Asdu.Draft.run_round_trip`: all of it, for every history of edits.
-/

namespace Telecontrol

namespace Asdu

/-- What can be done to an ASDU while it is built. -/
inductive Edit where
  | sequence (sequence : Bool)
  | test (test : Bool)
  | negative (negative : Bool)
  | originator (originator : UInt8)
  | cause (cause : Cause)
  | add (object : InformationObject)

/-- An ASDU that is being built. -/
structure Draft where
  asdu : Asdu
  accepted : List InformationObject := []

namespace Draft

def start (p : Parameters) (cause : Cause) (commonAddress : UInt16) : Draft :=
  { asdu := .empty p cause commonAddress }

def edit (d : Draft) : Edit → Draft
  | .sequence sequence => { d with asdu := d.asdu.withSequence sequence }
  | .test test => { d with asdu := d.asdu.withTest test }
  | .negative negative => { d with asdu := d.asdu.withNegative negative }
  | .originator originator => { d with asdu := d.asdu.withOriginator originator }
  | .cause cause => { d with asdu := d.asdu.withCause cause }
  | .add object =>
    match d.asdu.add? object with
    | some asdu => { asdu, accepted := d.accepted ++ [object] }
    | none => d

def run (d : Draft) (edits : List Edit) : Draft := edits.foldl edit d

end Draft

variable {a a' : Asdu} {objects : List InformationObject} {o : InformationObject}

/-! ## Adding an object -/

theorem accepts_iff : a.accepts o = true ↔
    (a.count = 0 ∨ o.element.typeId.code = a.typeCode) ∧ a.count < maxElements ∧
      (a.isSequence = true →
        o.element.typeId.supportsSequence = true ∧ (a.count = 0 ∨ a.continues o.address = true)) ∧
      a.encodedLength + o.encodedSize a.parameters a.packsAddress ≤ Apdu.maxAsduLength := by
  unfold accepts
  cases a.isSequence <;> simp [and_assoc]

theorem add?_eq_some (h : a.add? o = some a') : a.accepts o = true ∧
    a' = { a with
      typeCode := o.element.typeId.code
      qualifier := { a.qualifier with count := a.count + 1 }
      payload := a.payload ++ o.encode a.parameters a.packsAddress } := by
  unfold add? at h
  split at h
  · exact ⟨‹_›, (Option.some.inj h).symm⟩
  · cases h

/-- An address continues a sequence just if it is one more than that of the object before it. -/
theorem Holds.continues_iff (h : a.Holds objects) {first : InformationObject}
    (hfirst : objects[0]? = some first) {address : UInt32} : a.continues address = true ↔
      address = a.parameters.carried first.address + UInt32.ofNat objects.length := by
  cases objects with
  | nil => simp at hfirst
  | cons first' later =>
    rw [List.getElem?_cons_zero, Option.some.injEq] at hfirst
    subst hfirst
    obtain ⟨rest, hread⟩ := readAddress_pack (p := a.parameters) a.isSequence first' later
    rw [← h.payload] at hread
    unfold Asdu.continues
    rw [hread, h.count]
    exact beq_iff_eq

theorem Holds.eq_nil (h : a.Holds objects) (h0 : a.count = 0) : objects = [] := by
  rw [h.count] at h0
  exact List.eq_nil_of_length_eq_zero h0

theorem Holds.add (h : a.Holds objects) (ha : a.add? o = some a') : a'.Holds (objects ++ [o]) := by
  obtain ⟨haccepts, rfl⟩ := add?_eq_some ha
  obtain ⟨htype, hcount, hsequence, hlength⟩ := accepts_iff.1 haccepts
  refine ⟨?_, ?_, ?_, ?_, hcount, fun _ => ?_⟩
  · show a.count + 1 = (objects ++ [o]).length
    rw [List.length_append, h.count, List.length_singleton]
  · show a.payload ++ o.encode a.parameters a.packsAddress =
      pack a.parameters a.isSequence (objects ++ [o])
    rw [pack_snoc, ← h.payload, ← h.count]
    rfl
  · -- The first object gives the ASDU its type; later ones have it already.
    show ∀ o' ∈ objects ++ [o], o'.element.typeId.code = o.element.typeId.code
    intro o' ho'
    rcases List.mem_append.1 ho' with hold | hnew
    · rcases htype with h0 | htype
      · rw [h.eq_nil h0] at hold
        cases hold
      · rw [h.types o' hold, htype]
    · rw [List.mem_singleton.1 hnew]
  · show a.isSequence = true → Consecutive a.parameters (objects ++ [o])
    intro hs
    refine (h.consecutive hs).snoc fun first hfirst => ?_
    rcases (hsequence hs).2 with h0 | hcontinues
    · rw [h.eq_nil h0] at hfirst
      cases hfirst
    · exact (h.continues_iff hfirst).1 hcontinues
  · show a.parameters.headerSize + (a.payload ++ o.encode a.parameters a.packsAddress).length ≤ _
    rw [List.length_append, o.length_encode, ← Nat.add_assoc]
    exact hlength

/-- The packing only changes while there is nothing to pack. -/
theorem Holds.withSequence (h : a.Holds objects) (sequence : Bool) :
    (a.withSequence sequence).Holds objects := by
  unfold Asdu.withSequence
  split
  · rename_i h0
    obtain rfl := h.eq_nil h0
    refine ⟨h.count, h.payload, h.types, fun _ => ?_, h.count_le, h.length_le⟩
    intro first hfirst
    cases hfirst
  · exact h

/-! ## Histories -/

namespace Draft

/-- The ASDU has the parameters that it was started with and holds what it accepted. -/
structure Sound (d : Draft) (p : Parameters) : Prop where
  parameters : d.asdu.parameters = p
  holds : d.asdu.Holds d.accepted

variable {d : Draft} {p : Parameters}

theorem sound_start (p : Parameters) (cause : Cause) (commonAddress : UInt16) :
    (start p cause commonAddress).Sound p where
  parameters := rfl
  holds := by
    refine ⟨rfl, rfl, fun o ho => ?_, fun hs => ?_, Nat.zero_le _, fun hne => absurd rfl hne⟩
    · cases ho
    · cases hs

theorem edit_of_none (ha : d.asdu.add? o = none) : d.edit (.add o) = d := by
  simp only [Draft.edit, ha]

theorem edit_of_some (ha : d.asdu.add? o = some a) :
    d.edit (.add o) = { asdu := a, accepted := d.accepted ++ [o] } := by
  simp only [Draft.edit, ha]

theorem Sound.edit (h : d.Sound p) (e : Edit) : (d.edit e).Sound p := by
  cases e with
  | sequence sequence =>
    refine ⟨?_, h.holds.withSequence sequence⟩
    rw [← h.parameters]
    show (d.asdu.withSequence sequence).parameters = d.asdu.parameters
    unfold Asdu.withSequence
    split <;> rfl
  | test test => exact ⟨h.parameters, { h.holds with }⟩
  | negative negative => exact ⟨h.parameters, { h.holds with }⟩
  | originator originator => exact ⟨h.parameters, { h.holds with }⟩
  | cause cause => exact ⟨h.parameters, { h.holds with }⟩
  | add object =>
    cases ha : d.asdu.add? object with
    | none =>
      rw [edit_of_none ha]
      exact h
    | some asdu =>
      rw [edit_of_some ha]
      refine ⟨?_, h.holds.add ha⟩
      rw [(add?_eq_some ha).2]
      exact h.parameters

theorem Sound.run (h : d.Sound p) (edits : List Edit) : (d.run edits).Sound p := by
  induction edits generalizing d with
  | nil => exact h
  | cons e edits ih => exact ih (h.edit e)

end Draft

/-! ## On the wire -/

theorem Holds.parse (h : a.Holds objects) (hp : a.parameters.StandardHeader) :
    Asdu.parse a.parameters a.encode = .ok a.received := by
  have hlength : ¬ a.encode.length < a.parameters.headerSize := by
    rw [length_encode hp]
    exact Nat.not_lt.2 (Nat.le_add_right _ _)
  have hoctets := ofOctets_encode hp (Nat.lt_succ_of_le h.count_le)
  unfold Asdu.parse
  rw [if_neg hlength, hoctets]
  cases ht : a.typeId? with
  | none =>
    have ht' : a.received.typeId? = none := ht
    simp only [ht']
  | some t =>
    have ht' : a.received.typeId? = some t := ht
    have hexpected : a.received.payload.length = payloadSize a.parameters t a.received.qualifier :=
      h.length_payload ht
    simp only [ht', if_pos hexpected]

/-- **What was built can be read back.** However an ASDU was built, its octets are at most those that a
frame can carry, they are read back as the same ASDU up to what the header carries, and every object that
was accepted is read from where it was packed. -/
theorem Draft.run_round_trip (p : Parameters) (hp : p.StandardHeader) (cause : Cause)
    (commonAddress : UInt16) (edits : List Edit) :
    let d := (start p cause commonAddress).run edits
    d.asdu.encode.length = d.asdu.encodedLength ∧
      (d.accepted ≠ [] → d.asdu.encodedLength ≤ 249) ∧
      d.asdu.count = d.accepted.length ∧
      ∃ b, Asdu.parse p d.asdu.encode = .ok b ∧
        b = { d.asdu with
          cause := .ofCode d.asdu.cause.code
          originator := if p.causeSize = 1 then 0 else d.asdu.originator
          commonAddress :=
            if p.commonAddressSize = 1 then d.asdu.commonAddress % 256 else d.asdu.commonAddress } ∧
        b.count = d.accepted.length ∧
        ∀ i o, d.accepted[i]? = some o → b.element i = .ok
          { address := if b.isSequence = true ∧ 0 < i then o.address else p.carried o.address
            element := o.element.canonical } := by
  intro d
  obtain ⟨hparameters, hholds⟩ := (sound_start p cause commonAddress).run edits
  have hd : d.asdu.parameters.StandardHeader := hparameters ▸ hp
  refine ⟨length_encode hd, hholds.length_le, hholds.count, d.asdu.received, ?_, ?_, hholds.count, ?_⟩
  · rw [← hparameters]
    exact hholds.parse hd
  · rw [← hparameters]
    rfl
  · intro i o ho
    rw [← hparameters]
    exact hholds.element ho

/-- A sequence under an address of one octet. The second object does not continue it and is refused, and
so is the change of the packing. -/
theorem Draft.run_round_trip_sequence :
    let p : Parameters := { causeSize := 1, commonAddressSize := 1, objectAddressSize := 1 }
    let point (address : UInt32) (on : Bool) : InformationObject :=
      ⟨address, ⟨.singlePoint, ⟨on, {}⟩, ()⟩⟩
    let edits : List Edit :=
      [.sequence true, .add (point 300 true), .add (point 301 false), .sequence false,
        .add (point 45 false), .originator 7]
    let d := (start p .spontaneous 513).run edits
    p.StandardHeader ∧ d.accepted = [point 300 true, point 45 false] ∧
      ∃ b, Asdu.parse p d.asdu.encode = .ok b ∧ b.commonAddress = 1 ∧ b.originator = 0 ∧ b.count = 2 ∧
        b.element 0 = .ok (point 44 true) ∧ b.element 1 = .ok (point 45 false) := by
  intro p point edits d
  have hp : p.StandardHeader := ⟨rfl, rfl, Or.inl rfl, Or.inl rfl⟩
  have haccepted : d.accepted = [point 300 true, point 45 false] := by decide
  obtain ⟨-, -, -, b, hparse, hb, hcount, helement⟩ := run_round_trip p hp .spontaneous 513 edits
  refine ⟨hp, haccepted, b, hparse, ?_, ?_, ?_, ?_, ?_⟩
  · rw [hb]
    decide
  · rw [hb]
    rfl
  · rw [hcount, haccepted]
    rfl
  · have h0 : d.accepted[0]? = some (point 300 true) := by rw [haccepted]; rfl
    have haddress : p.carried (point 300 true).address = 44 := by decide
    rw [helement 0 _ h0, if_neg fun h => Nat.lt_irrefl 0 h.2, haddress]
    rfl
  · have h1 : d.accepted[1]? = some (point 45 false) := by rw [haccepted]; rfl
    have hs : b.isSequence = true ∧ 0 < 1 := by
      rw [hb]
      decide
    rw [helement 1 _ h1, if_pos hs]
    rfl

end Asdu

end Telecontrol
