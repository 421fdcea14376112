import Telecontrol.Proofs.Codec.Chunks

/-!
# Frames that go out

Frames are written one behind the other, and whoever decodes what was written gets the same frames.

* `Codec.encodeAll`: frame after frame.
* `Codec.encode_normal`, `Codec.encode_tooLong`: one frame; `Codec.encodeAll_normal`: all of them.
* `Codec.encodeAll_round_trip`: what is written, what is seen of it and what it is decoded as.
-/

namespace Telecontrol

/-- Frames that went out, as they were seen. -/
def sent (frames : List Octets) : List Sighting := frames.map (⟨.sent, ·⟩)

namespace Apdu

theorem map_encode {frames : List Apdu} (h : ∀ a ∈ frames, a.Normal) :
    frames.map encode = (frames.map octets).map .ok := by
  rw [List.map_map]
  exact List.map_congr_left fun a ha => (h a ha).encode

theorem encode_tooLong {a : Apdu} (h : 249 < a.asduLength) :
    a.encode = .error (.protocol s!"ASDU of {a.asduLength} bytes exceeds 249") := by
  have hmax : maxAsduLength = 249 := rfl
  have htext : toString " bytes exceeds " ++ toString 249 = toString " bytes exceeds 249" := by
    decide +kernel
  unfold encode
  rw [hmax, if_pos h, String.append_assoc, htext]

end Apdu

namespace Codec

/-- Writes frame after frame until one cannot be encoded. -/
def encodeAll (c : Codec) : List Apdu → Codec × Except Fault Unit
  | [] => (c, .ok ())
  | a :: frames =>
    match c.encode a with
    | (c, .ok ()) => encodeAll c frames
    | (c, .error fault) => (c, .error fault)

theorem encode_normal (c : Codec) {a : Apdu} (h : a.Normal) : c.encode a =
    ({ c with target := c.target ++ a.octets, seen := c.seen ++ sent [a.octets] }, .ok ()) := by
  unfold encode
  rw [h.encode]
  rfl

theorem encode_tooLong (c : Codec) {a : Apdu} (h : 249 < a.asduLength) : c.encode a =
    (c, .error (.protocol s!"ASDU of {a.asduLength} bytes exceeds 249")) := by
  unfold encode
  rw [Apdu.encode_tooLong h]

theorem encodeAll_normal {frames : List Apdu} (h : ∀ a ∈ frames, a.Normal) (c : Codec) :
    c.encodeAll frames =
      ({ c with
          target := c.target ++ (frames.map Apdu.octets).flatten
          seen := c.seen ++ sent (frames.map Apdu.octets) }, .ok ()) := by
  induction frames generalizing c with
  | nil => simp [encodeAll, sent]
  | cons a frames ih =>
    obtain ⟨ha, hframes⟩ := List.forall_mem_cons.1 h
    unfold encodeAll
    rw [c.encode_normal ha]
    simp [ih hframes, sent]

/-- **Frames survive the codec.** Frames in normal form are written behind what is there, each seen by
its own octets, and decoding what was written gives the frames, their numbers reduced, with nothing left
over. A frame with too long an ASDU changes nothing. -/
theorem encodeAll_round_trip (c : Codec) :
    (∀ frames : List Apdu, (∀ a ∈ frames, a.Normal) →
      ∃ own : List Octets, frames.map Apdu.encode = own.map .ok ∧
        c.encodeAll frames =
          ({ c with target := c.target ++ own.flatten, seen := c.seen ++ sent own }, .ok ()) ∧
        ∀ d : Codec, { d with source := own.flatten }.decodeAll =
          ({ d with source := [], seen := d.seen ++ received own }, frames.map Apdu.reduced, none)) ∧
    ∀ a : Apdu, 249 < a.asduLength →
      c.encode a = (c, .error (.protocol s!"ASDU of {a.asduLength} bytes exceeds 249")) := by
  refine ⟨?_, fun a ha => c.encode_tooLong ha⟩
  intro frames h
  refine ⟨frames.map Apdu.octets, Apdu.map_encode h, encodeAll_normal h c, ?_⟩
  intro d
  have hw : (frames.map Apdu.octets).flatten = Apdu.wire frames := List.flatMap_def.symm
  rw [decodeAll_eq, hw, Apdu.decodeAll_wire frames h]

/-- Frames of every format behind an octet that is there, and an ASDU of 250 octets. -/
theorem encodeAll_round_trip_mixed :
    let c : Codec := { target := [0xAA] }
    let frames : List Apdu :=
      [.information 40000 65535 [1, 2], .supervisory 32769, .unnumbered .testAct,
        .unnumbered (.undefined 0x03)]
    (∀ a ∈ frames, a.Normal) ∧
      (c.encodeAll frames).1.target =
        [0xAA, 0x68, 6, 0x80, 0x38, 0xFE, 0xFF, 1, 2, 0x68, 4, 1, 0, 2, 0, 0x68, 4, 0x43, 0, 0, 0,
          0x68, 4, 3, 0, 0, 0] ∧
      frames.map Apdu.reduced =
        [.information 7232 32767 [1, 2], .supervisory 1, .unnumbered .testAct,
          .unnumbered (.undefined 0x03)] ∧
      (∃ own : List Octets, (c.encodeAll frames).1.target = 0xAA :: own.flatten ∧
        (c.encodeAll frames).1.seen = sent own ∧
        ∀ d : Codec, { d with source := own.flatten }.decodeAll =
          ({ d with source := [], seen := d.seen ++ received own }, frames.map Apdu.reduced, none)) ∧
      c.encode (.information 0 0 (List.replicate 250 0)) =
        (c, .error (.protocol "ASDU of 250 bytes exceeds 249")) := by
  intro c frames
  have hframes : ∀ a ∈ frames, a.Normal := by
    simp [frames, Apdu.Normal, Apdu.information, Apdu.supervisory, Apdu.unnumbered, ControlFunction.Normal]
    decide
  obtain ⟨own, -, hencode, hdecode⟩ := (encodeAll_round_trip c).1 frames hframes
  refine ⟨hframes, by decide +kernel, by decide +kernel, ⟨own, ?_, ?_, hdecode⟩, ?_⟩
  · rw [hencode]
    rfl
  · rw [hencode]
    rfl
  · have hlength : (Apdu.information 0 0 (List.replicate 250 0)).asduLength = 250 := List.length_replicate
    have hlong := (encodeAll_round_trip c).2 (.information 0 0 (List.replicate 250 0)) (by omega)
    rw [hlength] at hlong
    exact hlong

end Codec

end Telecontrol
