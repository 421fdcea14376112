import Telecontrol.Proofs.Asdu.Build
import Telecontrol.Proofs.Asdu.Parse

/-!
# Adding to an ASDU that was received

An ASDU that was received takes objects behind those that it came with, under the same conditions as one
that is built. One that came with octets but without objects, as only an unsupported type can, takes them
too: its octets then stay in front of objects that they do not belong to.

* `Asdu.OnWire`: an ASDU that is what its octets say, up to octets of its payload that belong to no object;
  `Asdu.OnWire.add` keeps it.
* `Asdu.OnWire.elements_add`: the objects of an ASDU to which one was added.
* `Asdu.Extends`: what a received ASDU has become; `Asdu.Extends.run` for any objects that are offered.
* `Asdu.extend_parsed`: which of them can be read back.
-/

namespace Telecontrol

/-- An object as it is read at an index. A later one of a sequence has no field that could cut its
address. -/
def InformationObject.readAs (o : InformationObject) (p : Parameters) (sequence : Bool) (index : Nat) :
    InformationObject where
  address := if sequence = true ∧ 0 < index then o.address else p.carried o.address
  element := o.element.canonical

namespace Asdu

variable {p : Parameters} {t : TypeId} {a a' : Asdu} {o : InformationObject} {stray : Nat}

/-! ## An ASDU and its octets -/

/-- An ASDU that is what its octets say, where `stray` octets of its payload belong to no object. -/
structure OnWire (a : Asdu) (p : Parameters) (stray : Nat) : Prop where
  parameters : a.parameters = p
  received : a.received = a
  count_le : a.count ≤ maxElements
  length_bare : a.count = 0 → a.payload.length = stray
  length_payload : ∀ t, a.typeId? = some t → a.payload.length = stray + payloadSize p t a.qualifier

/-- Only the payload of an ASDU without objects can have octets that belong to none. -/
theorem onWire_of_parse (hp : p.StandardHeader) {bs : Octets} (h : parse p bs = .ok a)
    (hbare : a.count = 0 → a.payload.length = stray) (hfull : 0 < a.count → stray = 0) : a.OnWire p stray := by
  obtain ⟨rfl, hle, hlength⟩ := parse_eq_ok_iff.1 h
  have hcount : (ofOctets p bs).count < 128 := Nat.mod_lt _ (by decide)
  have hreceived := ofOctets_encode (a := ofOctets p bs) hp hcount
  rw [encode_ofOctets hp hle] at hreceived
  refine ⟨rfl, hreceived.symm, Nat.le_of_lt_succ hcount, hbare, ?_⟩
  intro t ht
  rcases Nat.eq_zero_or_pos (ofOctets p bs).count with h0 | hpos
  · rw [hbare h0, payloadSize_bare h0, Nat.add_zero]
  · rw [hlength t ht, hfull hpos, Nat.zero_add]

theorem typeId?_of_bare {bs : Octets} (h : parse p bs = .ok a) (h0 : a.count = 0) (hpayload : a.payload ≠ []) :
    a.typeId? = none := by
  obtain ⟨-, -, hlength⟩ := parse_eq_ok_iff.1 h
  cases ht : a.typeId? with
  | none => rfl
  | some t =>
    have hlength' := hlength t ht
    rw [payloadSize_bare h0] at hlength'
    exact absurd (List.eq_nil_of_length_eq_zero hlength') hpayload

/-- An object that can be added has the type of those that are there. -/
theorem OnWire.length_of_accepts (h : a.OnWire p stray) (ha : a.accepts o = true) :
    a.payload.length = stray + payloadSize p o.element.typeId a.qualifier := by
  obtain ⟨h0 | htype, -⟩ := accepts_iff.1 ha
  · rw [h.length_bare h0, payloadSize_bare h0]
    rfl
  · refine h.length_payload _ ?_
    unfold typeId?
    rw [← htype]
    exact o.element.typeId.ofCode?_code

theorem typeId?_add (ha : a.add? o = some a') : a'.typeId? = some o.element.typeId := by
  rw [(add?_eq_some ha).2]
  exact o.element.typeId.ofCode?_code

theorem received_with (a : Asdu) (typeCode : UInt8) (qualifier : StructureQualifier) (payload : Octets) :
    { a with typeCode, qualifier, payload }.received = { a.received with typeCode, qualifier, payload } :=
  rfl

/-- An object goes behind what is there, octets that belong to no object included. -/
theorem OnWire.add (h : a.OnWire p stray) (ha : a.add? o = some a') : a'.OnWire p stray := by
  have htype := typeId?_add ha
  obtain ⟨haccepts, rfl⟩ := add?_eq_some ha
  obtain ⟨-, hcount, -⟩ := accepts_iff.1 haccepts
  refine ⟨h.parameters, ?_, hcount, fun h0 => ?_, fun t ht => ?_⟩
  · -- The header fields that octets may not carry stay as they are.
    rw [received_with, h.received]
  · exact absurd h0 (Nat.succ_ne_zero a.count)
  · rw [htype] at ht
    obtain rfl := Option.some.inj ht
    have hlength := h.length_of_accepts haccepts
    show (a.payload ++ o.encode a.parameters a.packsAddress).length =
      stray + payloadSize p o.element.typeId ⟨a.count + 1, a.isSequence⟩
    rw [List.length_append, o.length_encode, h.parameters, hlength, payloadSize_succ, Nat.add_assoc]
    rfl

theorem OnWire.ofOctets_encode (h : a.OnWire p stray) (hp : p.StandardHeader) :
    ofOctets p a.encode = a := by
  obtain rfl := h.parameters
  rw [Asdu.ofOctets_encode hp (Nat.lt_succ_of_le h.count_le), h.received]

theorem OnWire.headerSize_le (h : a.OnWire p stray) (hp : p.StandardHeader) :
    p.headerSize ≤ a.encode.length := by
  obtain rfl := h.parameters
  rw [length_encode hp]
  exact Nat.le_add_right _ _

/-- An ASDU can be read back if it has no octets but those of its objects. -/
theorem OnWire.parse (h : a.OnWire p stray) (hp : p.StandardHeader)
    (h0 : stray = 0 ∨ a.typeId? = none) : Asdu.parse p a.encode = .ok a := by
  refine parse_eq_ok_iff.2 ⟨(h.ofOctets_encode hp).symm, h.headerSize_le hp, fun t ht => ?_⟩
  rcases h0 with h0 | hnone
  · rw [h.length_payload t ht, h0, Nat.zero_add]
  · rw [hnone] at ht
    cases ht

theorem OnWire.parse_stray (h : a.OnWire p stray) (hp : p.StandardHeader) (h0 : stray ≠ 0)
    (ht : a.typeId? = some t) : ∃ text, Asdu.parse p a.encode = .error (.parsing text) := by
  have hlength : ¬ a.payload.length = payloadSize p t a.qualifier := by
    rw [h.length_payload t ht]
    omega
  unfold Asdu.parse
  rw [if_neg (Nat.not_lt.2 (h.headerSize_le hp)), h.ofOctets_encode hp]
  simp only [ht, if_neg hlength]
  exact ⟨_, rfl⟩

/-! ## The objects of an ASDU to which one was added -/

theorem add?_fields (ha : a.add? o = some a') :
    a'.parameters = a.parameters ∧ TypeId.ofCode a'.typeCode = .ok o.element.typeId ∧
      a'.count = a.count + 1 ∧ a'.isSequence = a.isSequence ∧
      a'.payload = a.payload ++ o.encode a.parameters a.packsAddress := by
  rw [(add?_eq_some ha).2]
  exact ⟨rfl, o.element.typeId.ofCode_code, rfl, rfl, rfl⟩

/-- An object that was there is read as before. -/
theorem OnWire.element_add_of_lt (h : a.OnWire p 0) (ha : a.add? o = some a') {i : Nat} (hi : i < a.count) :
    a'.element i = a.element i := by
  obtain rfl := h.parameters
  obtain ⟨haccepts, -⟩ := add?_eq_some ha
  obtain ⟨hparameters, hcode', hcount, hsequence, hpayload⟩ := add?_fields ha
  have hi' : i < a'.count := by omega
  have hcode : TypeId.ofCode a.typeCode = .ok o.element.typeId := by
    obtain ⟨h0 | htype, -⟩ := accepts_iff.1 haccepts
    · omega
    · rw [← htype, TypeId.ofCode_code]
  have hlength : a.payload.length = payloadSize a.parameters o.element.typeId ⟨a.count, a.isSequence⟩ :=
    (h.length_of_accepts haccepts).trans (Nat.zero_add _)
  -- The octets of the object end where the next one starts, at the end of the payload or before.
  have hend := payloadSize_mono a.parameters o.element.typeId a.isSequence (Nat.succ_le_of_lt hi)
  rw [Nat.succ_eq_add_one, payloadSize_succ, ← hlength] at hend
  by_cases hs : a.isSequence = true ∧ 0 < i
  · have hdecide : (a.isSequence && decide (0 < i)) = true := by simp [hs]
    rw [payloadSize_counted hs, hdecide, Bool.not_true, if_neg Bool.false_ne_true, Nat.add_zero] at hend
    have hwidth : a.parameters.objectAddressSize ≤ a.payload.length := by omega
    obtain ⟨first, hfirst⟩ := a.parameters.readAddress_long hwidth
    have hfirst' := a.parameters.readAddress_append hfirst (o.encode a.parameters a.packsAddress)
    rw [← hpayload, ← hparameters] at hfirst'
    have hfield : o.element.typeId.elementSize ≤ (a.payload.drop
        (a.parameters.objectAddressSize + i * o.element.typeId.elementSize)).length := by
      rw [List.length_drop]
      omega
    rw [element_counted hcode hi hs hfirst, element_counted hcode' hi' (hsequence ▸ hs) hfirst', hparameters,
      hpayload, List.drop_append_of_le_length (by omega), InformationObject.decode_append (some _) hfield]
  · have hdecide : (a.isSequence && decide (0 < i)) = false := by simpa using hs
    rw [payloadSize_addressed hs, hdecide, Bool.not_false, if_pos rfl] at hend
    have hfield : o.element.typeId.elementSize + a.parameters.objectAddressSize ≤ (a.payload.drop
        (i * (a.parameters.objectAddressSize + o.element.typeId.elementSize))).length := by
      rw [List.length_drop]
      omega
    rw [element_addressed hcode hi hs, element_addressed hcode' hi' (hsequence ▸ hs), hparameters, hpayload,
      List.drop_append_of_le_length (by omega), InformationObject.decode_append none hfield]

/-- The object that was added is read from behind the others. -/
theorem OnWire.element_add_count (h : a.OnWire p 0) (ha : a.add? o = some a') :
    a'.element a.count = .ok (o.readAs p a.isSequence a.count) := by
  obtain rfl := h.parameters
  obtain ⟨haccepts, -⟩ := add?_eq_some ha
  obtain ⟨hparameters, hcode, hcount, hsequence, hpayload⟩ := add?_fields ha
  have hi : a.count < a'.count := by omega
  have hlength : a.payload.length = payloadSize a.parameters o.element.typeId ⟨a.count, a.isSequence⟩ :=
    (h.length_of_accepts haccepts).trans (Nat.zero_add _)
  unfold InformationObject.readAs
  by_cases hs : a.isSequence = true ∧ 0 < a.count
  · have hpacks : a.packsAddress = false := by
      unfold packsAddress
      simp [hs]
    have hcontinues : a.continues o.address = true := by
      obtain ⟨-, -, hcondition, -⟩ := accepts_iff.1 haccepts
      rcases (hcondition hs.1).2 with h0 | hcontinues
      · omega
      · exact hcontinues
    rw [payloadSize_counted hs] at hlength
    have hwidth : a.parameters.objectAddressSize ≤ a.payload.length := by omega
    obtain ⟨first, hfirst⟩ := a.parameters.readAddress_long hwidth
    have haddress : o.address = first + UInt32.ofNat a.count := by
      unfold continues at hcontinues
      rw [hfirst] at hcontinues
      exact eq_of_beq hcontinues
    have hfirst' := a.parameters.readAddress_append hfirst (o.encode a.parameters a.packsAddress)
    rw [← hpayload, ← hparameters] at hfirst'
    have hdecode := o.decode_write (p := a.parameters) o.address []
    rw [List.append_nil] at hdecode
    rw [element_counted hcode hi (hsequence ▸ hs) hfirst', hparameters, hpayload, List.drop_left' hlength,
      hpacks, ← haddress, hdecode, if_pos hs]
  · have hpacks : a.packsAddress = true := by
      have hdecide : (a.isSequence && decide (0 < a.count)) = false := by simpa using hs
      unfold packsAddress
      rw [hdecide]
      rfl
    rw [payloadSize_addressed hs] at hlength
    have hdecode := o.decode_encode (p := a.parameters) []
    rw [List.append_nil] at hdecode
    rw [element_addressed hcode hi (hsequence ▸ hs), hparameters, hpayload, List.drop_left' hlength, hpacks,
      hdecode, if_neg hs]

theorem OnWire.elements_add (h : a.OnWire p 0) (ha : a.add? o = some a') :
    a'.elements = a.elements ++ [.ok (o.readAs p a.isSequence a.count)] := by
  obtain ⟨-, -, hcount, -⟩ := add?_fields ha
  have hold : (List.range a.count).map a'.element = (List.range a.count).map a.element := by
    apply List.map_congr_left
    intro i hi
    exact h.element_add_of_lt ha (List.mem_range.1 hi)
  unfold elements
  rw [hcount, List.range_succ, List.map_append, hold, List.map_singleton, h.element_add_count ha]

/-! ## Any objects -/

/-- What has become of an ASDU with `stray` octets that belong to no object: it has the objects that it had
and those that it accepted. -/
structure Extends (a : Asdu) (p : Parameters) (stray : Nat) (d : Draft) : Prop where
  onWire : d.asdu.OnWire p stray
  isSequence : d.asdu.isSequence = a.isSequence
  count : d.asdu.count = a.count + d.accepted.length
  unchanged : d.accepted = [] → d.asdu = a
  typed : d.accepted ≠ [] → ∃ t, d.asdu.typeId? = some t
  elements : stray = 0 → d.asdu.elements =
    a.elements ++ d.accepted.mapIdx fun i o => .ok (o.readAs p a.isSequence (a.count + i))

variable {d : Draft}

theorem OnWire.extends_self (h : a.OnWire p stray) : Extends a p stray { asdu := a } where
  onWire := h
  isSequence := rfl
  count := rfl
  unchanged _ := rfl
  typed hne := absurd rfl hne
  elements _ := (List.append_nil a.elements).symm

theorem Extends.edit (h : Extends a p stray d) (o : InformationObject) :
    Extends a p stray (d.edit (.add o)) := by
  cases ha : d.asdu.add? o with
  | none =>
    rw [Draft.edit_of_none ha]
    exact h
  | some asdu =>
    obtain ⟨-, -, hcount, hsequence, -⟩ := add?_fields ha
    rw [Draft.edit_of_some ha]
    refine ⟨h.onWire.add ha, hsequence.trans h.isSequence, ?_, fun hnil => ?_, fun _ => ⟨_, typeId?_add ha⟩,
      fun h0 => ?_⟩
    · rw [hcount, h.count, List.length_append, List.length_singleton, Nat.add_assoc]
    · exact absurd hnil (List.append_ne_nil_of_right_ne_nil _ (List.cons_ne_nil o []))
    · have honwire : d.asdu.OnWire p 0 := h0 ▸ h.onWire
      rw [honwire.elements_add ha, h.elements h0, h.isSequence, h.count, List.mapIdx_concat, List.append_assoc]

theorem Extends.run (h : Extends a p stray d) (objects : List InformationObject) :
    Extends a p stray (d.run (objects.map .add)) := by
  induction objects generalizing d with
  | nil => exact h
  | cons o objects ih => exact ih (h.edit o)

/-- **Objects can be added to what was received, unless it has octets of none.** Whatever ASDU was received
and whatever objects are offered to it, it is read back from its octets, its objects are those it came with
and then those it accepted, and its payload has as many octets as its type, its count and its packing ask for.
The exception is an ASDU that came with octets but without objects, as an unsupported type can, and has
accepted one since: it has those octets too many and cannot be read back. -/
theorem extend_parsed (p : Parameters) (hp : p.StandardHeader) (octets : Octets) (a : Asdu)
    (ha : parse p octets = .ok a) (objects : List InformationObject) :
    let d := Draft.run { asdu := a } (objects.map .add)
    ((0 < a.count ∨ a.payload = [] ∨ d.accepted = []) →
      parse p d.asdu.encode = .ok d.asdu ∧
      d.asdu.elements = a.elements ++
        d.accepted.mapIdx (fun i o => .ok (o.readAs p a.isSequence (a.count + i))) ∧
      ∀ t, d.asdu.typeId? = some t → d.asdu.payload.length = payloadSize p t d.asdu.qualifier) ∧
    (a.count = 0 → a.payload ≠ [] → d.accepted ≠ [] →
      a.typeId? = none ∧ ∃ t text, d.asdu.typeId? = some t ∧
        d.asdu.payload.length = a.payload.length + payloadSize p t d.asdu.qualifier ∧
        parse p d.asdu.encode = .error (.parsing text)) := by
  intro d
  by_cases hbare : a.count = 0 ∧ a.payload ≠ []
  · obtain ⟨h0, hpayload⟩ := hbare
    have htype := typeId?_of_bare ha h0 hpayload
    have honwire : a.OnWire p a.payload.length := by
      apply onWire_of_parse hp ha
      · intro _
        rfl
      · intro hpos
        omega
    have hextends : Extends a p a.payload.length d := honwire.extends_self.run objects
    constructor
    · intro hwhole
      -- Nothing was accepted, so the ASDU is still as it was received.
      have hnone : d.accepted = [] := by
        rcases hwhole with hpos | hnil | hnone
        · omega
        · exact absurd hnil hpayload
        · exact hnone
      rw [hextends.unchanged hnone, hnone, List.mapIdx_nil, List.append_nil]
      refine ⟨honwire.parse hp (Or.inr htype), rfl, ?_⟩
      intro t ht
      rw [htype] at ht
      cases ht
    · intro _ _ haccepted
      obtain ⟨t, ht⟩ := hextends.typed haccepted
      have hstray : a.payload.length ≠ 0 := fun hnil => hpayload (List.eq_nil_of_length_eq_zero hnil)
      obtain ⟨text, htext⟩ := hextends.onWire.parse_stray hp hstray ht
      exact ⟨htype, t, text, ht, hextends.onWire.length_payload t ht, htext⟩
  · have honwire : a.OnWire p 0 := by
      apply onWire_of_parse hp ha
      · intro h0
        have hnil : a.payload = [] := Classical.byContradiction fun hpayload => hbare ⟨h0, hpayload⟩
        rw [hnil]
        rfl
      · intro _
        rfl
    have hextends : Extends a p 0 d := honwire.extends_self.run objects
    constructor
    · intro _
      refine ⟨hextends.onWire.parse hp (Or.inl rfl), hextends.elements rfl, ?_⟩
      intro t ht
      rw [hextends.onWire.length_payload t ht, Nat.zero_add]
    · intro h0 hpayload
      exact absurd ⟨h0, hpayload⟩ hbare

/-- A point is added to a sequence that was received with reserved bits, one that does not continue it is
refused; and an interrogation is added to what an unsupported type came with. -/
theorem extend_parsed_points :
    let point (address : UInt32) : InformationObject := ⟨address, ⟨.singlePoint, ⟨true, {}⟩, ()⟩⟩
    let octets : Octets := [1, 0x81, 3, 0, 1, 0, 10, 0, 0, 0x0F]
    let foreign : Octets := [0x78, 0, 6, 0, 1, 0, 0xAA, 0xBB]
    let a := ofOctets {} octets
    let b := ofOctets {} foreign
    let d := Draft.run { asdu := a } ([point 12, point 11].map .add)
    let e := Draft.run { asdu := b } ([⟨1, .interrogation 20⟩].map .add)
    (Parameters.StandardHeader {} ∧ parse {} octets = .ok a ∧ 0 < a.count ∧ parse {} foreign = .ok b ∧
      b.count = 0 ∧ b.payload ≠ [] ∧ e.accepted ≠ []) ∧
    parse {} d.asdu.encode = .ok d.asdu ∧ d.asdu.elements = [.ok (point 10), .ok (point 11)] ∧
    ∃ text, parse {} e.asdu.encode = .error (.parsing text) := by
  intro point octets foreign a b d e
  have hp : Parameters.StandardHeader {} := ⟨rfl, rfl, Or.inr rfl, Or.inr rfl⟩
  have ha : parse {} octets = .ok a := by
    dsimp only [a, octets]
    rfl
  have hb : parse {} foreign = .ok b := rfl
  have haccepted : d.accepted = [point 11] := by decide
  have hforeign : e.accepted ≠ [] := by decide
  obtain ⟨hextended, -⟩ := extend_parsed {} hp octets a ha [point 12, point 11]
  obtain ⟨-, hgarbled⟩ := extend_parsed {} hp foreign b hb [⟨1, .interrogation 20⟩]
  obtain ⟨hparse, helements, -⟩ := hextended (Or.inl (by decide))
  obtain ⟨-, t, text, -, -, htext⟩ := hgarbled rfl (by decide) hforeign
  refine ⟨⟨hp, ha, by decide, hb, rfl, by decide, hforeign⟩, hparse, ?_, text, htext⟩
  have hreceived : a.elements = [.ok (point 10)] := by
    dsimp only [a, octets, point]
    rfl
  have hread : (point 11).readAs {} a.isSequence (a.count + 0) = point 11 := by decide
  show d.asdu.elements = _
  rw [helements]
  show a.elements ++ d.accepted.mapIdx _ = _
  rw [haccepted, hreceived, List.mapIdx_singleton, hread]
  rfl

/-- The octets of an unsupported type that came without objects stay in front of an object that is added,
and what is sent then cannot be read. -/
theorem extend_foreign_garbled :
    let foreign : Octets := [0x78, 0, 6, 0, 1, 0, 0xAA, 0xBB]
    let o : InformationObject := ⟨1, .interrogation 20⟩
    ∃ a a', parse {} foreign = .ok a ∧ a.add? o = some a' ∧
      a'.encode = [0x64, 1, 6, 0, 1, 0, 0xAA, 0xBB, 1, 0, 0, 20] ∧
      parse {} a'.encode =
        .error (.parsing "C_IC_NA_1 with 1 elements needs 4 payload bytes, got 6") := by
  intro foreign o
  let a := ofOctets {} foreign
  let a' : Asdu := { a with
    typeCode := 0x64
    qualifier := { a.qualifier with count := 1 }
    payload := [0xAA, 0xBB, 1, 0, 0, 20] }
  have hadd : a.add? o = some a' := by decide
  have hencode : a'.encode = [0x64, 1, 6, 0, 1, 0, 0xAA, 0xBB, 1, 0, 0, 20] := by decide
  refine ⟨a, a', rfl, hadd, hencode, ?_⟩
  rw [hencode]
  rfl

end Asdu

end Telecontrol
