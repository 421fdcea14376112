import Telecontrol.Codec
import Telecontrol.Proofs.Apdu.Grammar

/-!
# Streams in chunks

A stream comes in chunk by chunk, and whatever makes a whole frame is decoded at once. What is decoded
does not depend on where the stream was cut.

* `Apdu.decodeAll_append`, `Apdu.decodeAll_append_of_fault`: octets that follow those that were decoded.
* `Codec.decodeAll_eq`: decoding frame after frame leaves what the decoder makes of the whole source.
* `Reception`: a codec that takes chunks until a fault ends the stream.
* `Reception.Decodes`: the invariant; `Reception.Decodes.take` is one chunk.
* `Reception.takeAll_splits`: what is decoded of any chunks.
-/

namespace Telecontrol

/-! ## More octets -/

namespace Apdu

open Framing

variable {bs f rest : Octets}

theorem decode_refused_append {fault : Fault} (h : decode bs = .refused fault) (more : Octets) :
    decode (bs ++ more) = .refused fault := by
  match bs with
  | [] => cases h
  | [start] =>
    by_cases hs : start = startOctet
    · rw [decode, if_neg (by simp [hs])] at h
      cases h
    · rw [decode, if_pos hs] at h
      cases more with
      | nil => exact (if_pos hs).trans h
      | cons b more => exact (if_pos hs).trans h
  | start :: length :: body =>
    by_cases hs : start = startOctet
    · subst hs
      by_cases hl : length.toNat < minLength ∨ maxLength < length.toNat
      · rw [decode, if_neg (by simp), if_pos hl] at h
        rw [List.cons_append, List.cons_append, decode, if_neg (by simp), if_pos hl, h]
      · rw [decode, if_neg (by simp), if_neg hl] at h
        split at h <;> cases h
    · rw [decode, if_pos hs] at h
      exact (if_pos hs).trans h

theorem decode_frame_append {content : Except Fault Apdu} (h : decode bs = .frame f rest content)
    (more : Octets) : decode (bs ++ more) = .frame f (rest ++ more) content := by
  rcases decode_cases bs with ⟨hd, -⟩ | ⟨text, hd, -⟩ | ⟨g, rest', hd, hbs, hg⟩
  · rw [h] at hd
    cases hd
  · rw [h] at hd
    cases hd
  · rw [h] at hd
    cases hd
    rw [hbs, List.append_assoc]
    exact decode_delimited hg _

/-- The octet that completes a frame is the last one of it. -/
theorem rest_of_decode_concat {b : UInt8} {content : Except Fault Apdu} (hi : decode bs = .incomplete)
    (hd : decode (bs ++ [b]) = .frame f rest content) : rest = [] := by
  obtain ⟨-, hbs, hf⟩ := decode_frame hd
  rcases List.eq_nil_or_concat rest with rfl | ⟨before, last, rfl⟩
  · rfl
  · rw [List.concat_eq_append, ← List.append_assoc] at hbs
    have hcut : bs = f ++ before := (List.append_inj' hbs rfl).1
    rw [hcut, decode_delimited hf] at hi
    cases hi

/-- Octets that follow are decoded together with those that were left over. -/
theorem decodeAll_append (h : (decodeAll bs).fault = none) (more : Octets) :
    decodeAll (bs ++ more) =
      { decodeAll ((decodeAll bs).rest ++ more) with
        apdus := (decodeAll bs).apdus ++ (decodeAll ((decodeAll bs).rest ++ more)).apdus
        seen := (decodeAll bs).seen ++ (decodeAll ((decodeAll bs).rest ++ more)).seen } := by
  induction hn : bs.length using Nat.strongRecOn generalizing bs with
  | ind n ih =>
    subst hn
    match hd : decode bs with
    | .incomplete =>
      rw [decodeAll_incomplete hd]
      simp
    | .refused fault =>
      rw [decodeAll_refused hd] at h
      cases h
    | .frame f rest (.error fault) =>
      rw [decodeAll_malformed hd] at h
      cases h
    | .frame f rest (.ok a) =>
      rw [decodeAll_frame hd] at h ⊢
      rw [decodeAll_frame (decode_frame_append hd more), ih rest.length (length_rest_lt hd) h rfl]
      simp

/-- Octets behind a fault change nothing of what was decoded. -/
theorem decodeAll_append_of_fault (h : (decodeAll bs).fault ≠ none) (more : Octets) :
    decodeAll (bs ++ more) = { decodeAll bs with rest := (decodeAll bs).rest ++ more } := by
  induction hn : bs.length using Nat.strongRecOn generalizing bs with
  | ind n ih =>
    subst hn
    match hd : decode bs with
    | .incomplete =>
      rw [decodeAll_incomplete hd] at h
      exact absurd rfl h
    | .refused fault => rw [decodeAll_refused hd, decodeAll_refused (decode_refused_append hd more)]
    | .frame f rest (.error fault) =>
      rw [decodeAll_malformed hd, decodeAll_malformed (decode_frame_append hd more)]
    | .frame f rest (.ok a) =>
      rw [decodeAll_frame hd] at h ⊢
      rw [decodeAll_frame (decode_frame_append hd more), ih rest.length (length_rest_lt hd) h rfl]

end Apdu

/-! ## The codec -/

/-- Frames that came in, as they were seen. -/
def received (frames : List Octets) : List Sighting := frames.map (⟨.received, ·⟩)

namespace Codec

variable {c c' : Codec}

theorem decodeAll_none (h : c.decode = (c', .ok none)) : c.decodeAll = (c', [], none) := by
  rw [decodeAll.eq_def]
  split <;> simp_all

theorem decodeAll_some {a : Apdu} (h : c.decode = (c', .ok (some a))) :
    c.decodeAll = (c'.decodeAll.1, a :: c'.decodeAll.2.1, c'.decodeAll.2.2) := by
  rw [decodeAll.eq_def]
  split <;> simp_all

theorem decodeAll_error {fault : Fault} (h : c.decode = (c', .error fault)) :
    c.decodeAll = (c', [], some fault) := by
  rw [decodeAll.eq_def]
  split <;> simp_all

theorem decodeAll_eq (c : Codec) : c.decodeAll =
    ({ c with
        source := (Apdu.decodeAll c.source).rest
        seen := c.seen ++ received (Apdu.decodeAll c.source).seen },
      (Apdu.decodeAll c.source).apdus, (Apdu.decodeAll c.source).fault) := by
  induction hn : c.source.length using Nat.strongRecOn generalizing c with
  | ind n ih =>
    subst hn
    match hd : Apdu.decode c.source with
    | .incomplete =>
      have hc : c.decode = (c, .ok none) := by simp only [decode, hd]
      rw [Apdu.decodeAll_incomplete hd, decodeAll_none hc]
      simp [received]
    | .refused fault =>
      have hc : c.decode = (c, .error fault) := by simp only [decode, hd]
      rw [Apdu.decodeAll_refused hd, decodeAll_error hc]
      simp [received]
    | .frame f rest (.error fault) =>
      have hc : c.decode = ({ c with source := rest, seen := c.seen ++ [⟨.received, f⟩] }, .error fault) := by
        simp only [decode, hd]
        rfl
      rw [Apdu.decodeAll_malformed hd, decodeAll_error hc]
      rfl
    | .frame f rest (.ok a) =>
      have hc : c.decode =
          ({ c with source := rest, seen := c.seen ++ [⟨.received, f⟩] }, .ok (some a)) := by
        simp only [decode, hd]
        rfl
      rw [Apdu.decodeAll_frame hd, decodeAll_some hc, ih rest.length (Apdu.length_rest_lt hd) _ rfl]
      simp [received]

end Codec

/-! ## Receptions -/

/-- What became of a stream so far. -/
structure Reception where
  codec : Codec := {}
  apdus : List Apdu := []
  fault : Option Fault := none

namespace Reception

/-- Takes a chunk and decodes what there is. After a fault nothing is taken. -/
def take (r : Reception) (chunk : Octets) : Reception :=
  match r.fault with
  | some _ => r
  | none =>
    let (codec, apdus, fault) := (r.codec.feed chunk).decodeAll
    { codec, apdus := r.apdus ++ apdus, fault }

def takeAll (chunks : List Octets) : Reception := chunks.foldl take {}

/-- What was made of a stream is what the decoder makes of all its octets at once. -/
structure Decodes (r : Reception) (bs : Octets) : Prop where
  apdus : r.apdus = (Apdu.decodeAll bs).apdus
  fault : r.fault = (Apdu.decodeAll bs).fault
  seen : r.codec.seen = received (Apdu.decodeAll bs).seen
  source : r.fault = none → r.codec.source = (Apdu.decodeAll bs).rest

variable {r : Reception} {bs : Octets}

theorem decodes_start : Decodes {} [] := by
  have h : Apdu.decodeAll [] = {} := Apdu.decodeAll_incomplete rfl
  constructor <;> simp [h, received]

theorem Decodes.take (h : r.Decodes bs) (chunk : Octets) : (r.take chunk).Decodes (bs ++ chunk) := by
  unfold Reception.take
  cases hf : r.fault with
  | some fault =>
    have hne : (Apdu.decodeAll bs).fault ≠ none := by simp [← h.fault, hf]
    constructor <;> simp [Apdu.decodeAll_append_of_fault hne, h.apdus, h.fault, h.seen, hne]
  | none =>
    have hnone : (Apdu.decodeAll bs).fault = none := by rw [← h.fault, hf]
    have hsource : (r.codec.feed chunk).source = (Apdu.decodeAll bs).rest ++ chunk := by
      rw [← h.source hf]
      rfl
    have hseen : (r.codec.feed chunk).seen = received (Apdu.decodeAll bs).seen := h.seen
    rw [Codec.decodeAll_eq, hsource, hseen]
    constructor <;> simp [Apdu.decodeAll_append hnone, h.apdus, received]

theorem decodes_takeAll (chunks : List Octets) : (takeAll chunks).Decodes chunks.flatten := by
  have h : ∀ (r : Reception) (bs : Octets), r.Decodes bs →
      (chunks.foldl Reception.take r).Decodes (bs ++ chunks.flatten) := by
    induction chunks with
    | nil =>
      intro r bs h
      simpa using h
    | cons chunk chunks ih =>
      intro r bs h
      rw [List.foldl_cons, List.flatten_cons, ← List.append_assoc]
      exact ih _ _ (h.take chunk)
  exact h {} [] decodes_start

open Framing

/-- **Chunks do not matter, and the grammar decides.** However a stream is cut, the same frames are decoded
and seen and the same fault ends it. The frames are the longest run of well-formed ones at the front of the
stream; each is written as its octets up to ignored bits. There is a fault just if what follows violates the
grammar, and otherwise it is an incomplete frame, which waits as it came. -/
theorem takeAll_splits (chunks : List Octets) :
    let r := takeAll chunks
    (∀ chunks' : List Octets, chunks'.flatten = chunks.flatten →
      (takeAll chunks').apdus = r.apdus ∧ (takeAll chunks').fault = r.fault ∧
        (takeAll chunks').codec.seen = r.codec.seen) ∧
    ∃ frames rest, Splits chunks.flatten frames rest ∧
      r.apdus.map Apdu.encode = frames.map (.ok ∘ significant) ∧
      (∀ a ∈ r.apdus, a.Normal ∧ a.reduced = a) ∧
      (r.fault ≠ none ↔ ∃ whole, Violation rest whole) ∧
      ((∃ whole text, Violation rest whole ∧ r.fault = some (.protocol text) ∧
          r.codec.seen = received (frames ++ whole)) ∨
        (Incomplete rest ∧ r.fault = none ∧ r.codec.source = rest ∧ r.codec.seen = received frames)) := by
  intro r
  have h : r.Decodes chunks.flatten := decodes_takeAll chunks
  refine ⟨fun chunks' hc => ?_, ?_⟩
  · have h' := decodes_takeAll chunks'
    rw [hc] at h'
    exact ⟨h'.apdus.trans h.apdus.symm, h'.fault.trans h.fault.symm, h'.seen.trans h.seen.symm⟩
  · obtain ⟨frames, rest, hs, hmap, hall, hend⟩ := Apdu.decodeAll_splits chunks.flatten
    refine ⟨frames, rest, hs, by rw [h.apdus, hmap], by rwa [h.apdus], ?_⟩
    rcases hend with ⟨hi, hfault, hrest, hseen⟩ | ⟨whole, text, hv, hfault, hseen⟩
    · have hno : ¬ ∃ whole, Violation rest whole := fun ⟨whole, hv⟩ => hv.not_incomplete hi
      rw [h.fault, h.seen, hfault, hseen]
      exact ⟨by simp [hno], Or.inr ⟨hi, rfl, (h.source (h.fault.trans hfault)).trans hrest, rfl⟩⟩
    · rw [h.fault, h.seen, hfault, hseen]
      exact ⟨by simpa using ⟨whole, hv⟩, Or.inl ⟨whole, text, hv, rfl, rfl⟩⟩

/-- A link test and an S-frame with ignored bits, and an S-frame that is too long, cut in two ways. -/
theorem takeAll_splits_cut :
    let chunks : List Octets :=
      [[0x68, 4, 0x43, 0, 0, 0, 0x68], [4, 0x05, 9, 7, 1, 0x68, 5, 0x01, 0, 0, 0], [0, 0x68]]
    let chunks' : List Octets :=
      [[0x68], [4, 0x43, 0], [], [0, 0, 0x68, 4, 0x05, 9], [7, 1, 0x68, 5, 0x01, 0, 0, 0, 0], [0x68]]
    let r := takeAll chunks
    chunks'.flatten = chunks.flatten ∧
      ((takeAll chunks').apdus = r.apdus ∧ (takeAll chunks').fault = r.fault ∧
        (takeAll chunks').codec.seen = r.codec.seen) ∧
      r.apdus = [.unnumbered .testAct, .supervisory 131] ∧
      r.fault = some (.protocol "S(R=0) frame with 1 trailing bytes") ∧
      r.codec.seen = received
        [[0x68, 4, 0x43, 0, 0, 0], [0x68, 4, 0x05, 9, 7, 1], [0x68, 5, 0x01, 0, 0, 0, 0]] := by
  intro chunks chunks' r
  have hc : chunks'.flatten = chunks.flatten := by decide
  exact ⟨hc, (takeAll_splits chunks).1 chunks' hc, by decide +kernel, by decide +kernel, by decide +kernel⟩

end Reception

end Telecontrol
