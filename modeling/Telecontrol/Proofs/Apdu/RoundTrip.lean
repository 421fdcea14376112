import Telecontrol.Apdu

/-!
# Frames survive the wire

What the encoder writes, the decoder reads back, whatever follows on the stream.

* `Apdu.Normal`: the frames that the link layer exchanges; `Apdu.octets` are the octets of one.
* `Apci.parse_encode`: the control octets, up to the sequence numbers modulo 32768.
* `Apdu.decode_octets`: one frame in front of any octets; `Apdu.decodeAll_wire`: a whole list of frames.
-/

namespace Telecontrol

open Apci (sequenceModulus)

namespace ControlFunction

/-- A function in normal form: an octet counts as undefined only if it is a U-frame's octet and no
function is defined for it. -/
def Normal : ControlFunction → Prop
  | undefined octet => octet.toNat % 4 = 3 ∧ ofOctet octet = undefined octet
  | _ => True

theorem ofOctet_toOctet {f : ControlFunction} (h : f.Normal) : ofOctet f.toOctet = f := by
  cases f with
  | undefined octet => exact h.2
  | _ => rfl

theorem toOctet_mod_four {f : ControlFunction} (h : f.Normal) : f.toOctet.toNat % 4 = 3 := by
  cases f with
  | undefined octet => exact h.1
  | _ => rfl

end ControlFunction

namespace Apci

/-- The control information with its numbers as the wire carries them. -/
def reduced : Apci → Apci
  | information send receive => information (send % sequenceModulus) (receive % sequenceModulus)
  | supervisory receive => supervisory (receive % sequenceModulus)
  | unnumbered function => unnumbered function

theorem isInformation_reduced (a : Apci) : a.reduced.isInformation = a.isInformation := by
  cases a <;> rfl

@[simp] theorem length_encode (a : Apci) : a.encode.length = 4 := by
  cases a <;> rfl

/-- The low octet of a number; its lowest bit is unused. -/
theorem toNat_low (n : Nat) :
    (UInt8.ofNat (n % sequenceModulus % 128 * 2)).toNat = n % sequenceModulus % 128 * 2 := by
  rw [UInt8.toNat_ofNat']
  exact Nat.mod_eq_of_lt (by omega)

theorem decodeNumber_encodeNumber (n : Nat) :
    decodeNumber (UInt8.ofNat (n % sequenceModulus % 128 * 2))
      (UInt8.ofNat (n % sequenceModulus / 128)) = n % sequenceModulus := by
  have hm : n % sequenceModulus < sequenceModulus := Nat.mod_lt _ (by decide)
  have hhigh : (UInt8.ofNat (n % sequenceModulus / 128)).toNat = n % sequenceModulus / 128 := by
    rw [UInt8.toNat_ofNat']
    exact Nat.mod_eq_of_lt (by simp only [sequenceModulus] at hm ⊢; omega)
  rw [decodeNumber, toNat_low, hhigh]
  omega

theorem parse_encode (a : Apci) (rest : Octets) (h : ∀ f, a = .unnumbered f → f.Normal) :
    parse (a.encode ++ rest) = .ok a.reduced := by
  cases a with
  | information send receive =>
    have heven : (UInt8.ofNat (send % sequenceModulus % 128 * 2)).toNat % 2 = 0 := by
      rw [toNat_low]
      omega
    simp only [encode, encodeNumber, List.cons_append, List.nil_append, parse, if_pos heven]
    rw [decodeNumber_encodeNumber, decodeNumber_encodeNumber, reduced]
  | supervisory receive =>
    simp only [encode, encodeNumber, List.cons_append, List.nil_append, parse]
    rw [decodeNumber_encodeNumber, reduced]
    rfl
  | unnumbered function =>
    have hf := h function rfl
    have hmod := ControlFunction.toOctet_mod_four hf
    have hodd : ¬ function.toOctet.toNat % 2 = 0 := by omega
    have hnot : ¬ function.toOctet.toNat % 4 = 1 := by omega
    simp only [encode, List.cons_append, List.nil_append, parse, if_neg hodd, if_neg hnot]
    rw [ControlFunction.ofOctet_toOctet hf, reduced]

end Apci

namespace Apdu

/-- A frame of the link layer: an I-frame with an ASDU of 1 to 249 octets, or an S-frame or a U-frame
without one, its function in normal form. -/
def Normal (a : Apdu) : Prop :=
  match a.apci, a.asdu with
  | .information _ _, some asdu => 0 < asdu.length ∧ asdu.length ≤ maxAsduLength
  | .supervisory _, none => True
  | .unnumbered function, none => function.Normal
  | _, _ => False

/-- The octets that go out for a frame; there are none if it cannot be encoded. -/
def octets (a : Apdu) : Octets :=
  match a.encode with
  | .ok bs => bs
  | .error _ => []

/-- The frame with its numbers as the wire carries them. -/
def reduced (a : Apdu) : Apdu := { a with apci := a.apci.reduced }

theorem Normal.asduLength_le {a : Apdu} (h : a.Normal) : a.asduLength ≤ maxAsduLength := by
  obtain ⟨apci, asdu⟩ := a
  cases apci <;> cases asdu <;> simp_all [Normal, asduLength]

theorem Normal.function {a : Apdu} (h : a.Normal) (f : ControlFunction)
    (hf : a.apci = .unnumbered f) : f.Normal := by
  obtain ⟨apci, asdu⟩ := a
  subst hf
  cases asdu with
  | none => exact h
  | some asdu => exact h.elim

theorem Normal.asdu {a : Apdu} (h : a.Normal) :
    (a.apci.isInformation = true ∧ ∃ b bs, a.asdu = some (b :: bs)) ∨
      (a.apci.isInformation = false ∧ a.asdu = none) := by
  obtain ⟨apci, asdu⟩ := a
  cases apci with
  | information send receive =>
    cases asdu with
    | none => exact h.elim
    | some asdu =>
      obtain ⟨b, bs, rfl⟩ := List.exists_cons_of_length_pos h.1
      exact Or.inl ⟨rfl, b, bs, rfl⟩
  | supervisory receive =>
    cases asdu with
    | none => exact Or.inr ⟨rfl, rfl⟩
    | some asdu => exact h.elim
  | unnumbered function =>
    cases asdu with
    | none => exact Or.inr ⟨rfl, rfl⟩
    | some asdu => exact h.elim

theorem Normal.encode_eq {a : Apdu} (h : a.Normal) : a.encode =
    .ok (startOctet :: UInt8.ofNat (minLength + a.asduLength) :: (a.apci.encode ++ a.asdu.getD [])) :=
  if_neg (Nat.not_lt_of_le h.asduLength_le)

theorem Normal.octets_eq {a : Apdu} (h : a.Normal) : a.octets =
    startOctet :: UInt8.ofNat (minLength + a.asduLength) :: (a.apci.encode ++ a.asdu.getD []) := by
  rw [octets, h.encode_eq]

theorem Normal.encode {a : Apdu} (h : a.Normal) : a.encode = .ok a.octets := by
  rw [h.encode_eq, h.octets_eq]

theorem ofOctets_octets {a : Apdu} (h : a.Normal) : ofOctets a.octets = .ok a.reduced := by
  have hp := Apci.parse_encode a.apci (a.asdu.getD []) h.function
  have hd : (a.apci.encode ++ a.asdu.getD []).drop 4 = a.asdu.getD [] := by simp
  simp only [ofOctets, h.octets_eq, List.drop_succ_cons, List.drop_zero, hp, hd]
  rcases h.asdu with ⟨hi, b, bs, ha⟩ | ⟨hi, ha⟩
  · simp [bind, Except.bind, Apci.isInformation_reduced, hi, ha, reduced, pure, Except.pure]
  · simp [bind, Except.bind, Apci.isInformation_reduced, hi, ha, reduced, pure, Except.pure]

/-- The length octet counts what stands behind it. -/
theorem Normal.lengthOctet {a : Apdu} (h : a.Normal) :
    (UInt8.ofNat (minLength + a.asduLength)).toNat = (a.apci.encode ++ a.asdu.getD []).length := by
  have hle := h.asduLength_le
  simp only [maxAsduLength, maxLength, minLength] at hle
  rw [UInt8.toNat_ofNat', Nat.mod_eq_of_lt (by simp only [minLength]; omega), List.length_append,
    Apci.length_encode]
  rfl

/-- A frame at the front of a stream is read back, and nothing behind it is taken. -/
theorem decode_octets {a : Apdu} (h : a.Normal) (rest : Octets) :
    decode (a.octets ++ rest) = .frame a.octets rest (.ok a.reduced) := by
  have hlen := h.lengthOctet
  have hle := h.asduLength_le
  have hn : (a.apci.encode ++ a.asdu.getD []).length = minLength + a.asduLength := by
    rw [List.length_append, Apci.length_encode]
    rfl
  have hrange : ¬ ((UInt8.ofNat (minLength + a.asduLength)).toNat < minLength ∨
      maxLength < (UInt8.ofNat (minLength + a.asduLength)).toNat) := by
    rw [hlen, hn]
    simp only [maxAsduLength, maxLength, minLength] at hle ⊢
    omega
  have hwhole : ¬ (a.apci.encode ++ a.asdu.getD [] ++ rest).length <
      (UInt8.ofNat (minLength + a.asduLength)).toNat := by
    rw [hlen, List.length_append]
    omega
  have hoctets := ofOctets_octets h
  rw [h.octets_eq] at hoctets ⊢
  simp only [List.cons_append]
  rw [decode, if_neg (by simp), if_neg hrange, if_neg hwhole, hlen, List.take_left, List.drop_left,
    ← hoctets]

theorem decodeAll_incomplete {bs : Octets} (h : decode bs = .incomplete) :
    decodeAll bs = { rest := bs } := by
  rw [decodeAll.eq_def]
  split <;> simp_all

theorem decodeAll_frame {bs octets rest : Octets} {a : Apdu}
    (h : decode bs = .frame octets rest (.ok a)) :
    decodeAll bs =
      { decodeAll rest with
        apdus := a :: (decodeAll rest).apdus
        seen := octets :: (decodeAll rest).seen } := by
  rw [decodeAll.eq_def]
  split <;> simp_all

/-- The octets of frames one after the other. -/
def wire (frames : List Apdu) : Octets := frames.flatMap octets

theorem wire_cons (a : Apdu) (frames : List Apdu) : wire (a :: frames) = a.octets ++ wire frames :=
  List.flatMap_cons

theorem wire_append (frames more : List Apdu) : wire (frames ++ more) = wire frames ++ wire more :=
  List.flatMap_append

/-- A list of frames is read back in order, with nothing left over. -/
theorem decodeAll_wire (frames : List Apdu) (h : ∀ a ∈ frames, a.Normal) :
    decodeAll (wire frames) =
      { apdus := frames.map reduced, seen := frames.map octets, fault := none, rest := [] } := by
  induction frames with
  | nil => exact decodeAll_incomplete rfl
  | cons a frames ih =>
    rw [wire_cons, decodeAll_frame (decode_octets (h a (by simp)) _), ih (fun b hb => h b (by simp [hb]))]
    rfl

end Apdu

end Telecontrol
