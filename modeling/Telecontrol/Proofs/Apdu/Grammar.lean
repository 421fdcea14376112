import Telecontrol.Proofs.Apdu.RoundTrip
import Telecontrol.Proofs.Bits

/-!
# The grammar of frames

What a frame is, said of its octets alone, and what the decoder makes of any octet string.

* `Framing.Delimited`, `Framing.Consistent`, `Framing.WellFormed`: whole frames, and those whose first
  control octet agrees with their length.
* `Framing.Incomplete`, `Framing.Violation`: what else can stand at the front of a stream.
* `Framing.significant`: the octets of a frame without the bits that its format ignores.
* `Apdu.decode_cases`, `Apdu.ofOctets_of_wellFormed`, `Apdu.ofOctets_of_not_consistent`: one step of the decoder.
* `Apdu.decodeAll_splits`: the whole decoder takes the longest run of well-formed frames.
-/

namespace Telecontrol

namespace Framing

/-! ## Octets -/

/-- A start octet, a length octet and as many octets as it says. -/
inductive Delimited : Octets → Prop where
  | mk {length : UInt8} {body : Octets} (hmin : 4 ≤ length.toNat) (hmax : length.toNat ≤ 253)
      (hbody : body.length = length.toNat) : Delimited (0x68 :: length :: body)

/-- A frame has octets behind the four control octets just if the lowest bit of the first is zero. -/
def Consistent (frame : Octets) : Prop :=
  4 < (frame.getD 1 0).toNat ↔ (frame.getD 2 0).toNat % 2 = 0

def WellFormed (frame : Octets) : Prop := Delimited frame ∧ Consistent frame

/-- Some octets of a frame are still to come. -/
def Incomplete (bs : Octets) : Prop := ∃ more, more ≠ [] ∧ Delimited (bs ++ more)

/-- No stream of frames goes on like this. The list holds the malformed frame, if there is a whole one. -/
inductive Violation : Octets → List Octets → Prop where
  | start {b : UInt8} {bs : Octets} (hb : b ≠ 0x68) : Violation (b :: bs) []
  | length {length : UInt8} {bs : Octets} (hl : length.toNat < 4 ∨ 253 < length.toNat) :
      Violation (0x68 :: length :: bs) []
  | content {frame more : Octets} (hd : Delimited frame) (hc : ¬ Consistent frame) :
      Violation (frame ++ more) [frame]

/-- An octet string is cut into well-formed frames, as many as possible, and a rest. -/
structure Splits (bs : Octets) (frames : List Octets) (rest : Octets) : Prop where
  octets : bs = frames.flatten ++ rest
  wellFormed : ∀ f ∈ frames, WellFormed f
  longest : ∀ f more, rest = f ++ more → ¬ WellFormed f

variable {f g r s bs : Octets} {whole : List Octets}

/-- No frame is the beginning of another. -/
theorem Delimited.eq_of_append (hf : Delimited f) (hg : Delimited g) (h : f ++ r = g ++ s) :
    f = g ∧ r = s := by
  obtain ⟨-, -, hf⟩ := hf
  obtain ⟨-, -, hg⟩ := hg
  simp only [List.cons_append, List.cons.injEq, true_and] at h
  obtain ⟨rfl, h⟩ := h
  obtain ⟨rfl, rfl⟩ := List.append_inj h (by omega)
  exact ⟨rfl, rfl⟩

theorem Delimited.exists_control (h : Delimited f) : ∃ length a b c d asdu,
    f = 0x68 :: length :: a :: b :: c :: d :: asdu ∧ length.toNat = 4 + asdu.length ∧ asdu.length ≤ 249 := by
  obtain ⟨hmin, hmax, hbody⟩ := h
  rename_i length body
  match body with
  | a :: b :: c :: d :: asdu =>
    simp only [List.length_cons] at hbody
    exact ⟨length, a, b, c, d, asdu, rfl, by omega, by omega⟩
  | [] | [_] | [_, _] | [_, _, _] =>
    simp at hbody
    omega

theorem Incomplete.not_delimited (h : Incomplete bs) (hbs : bs = f ++ r) : ¬ Delimited f := by
  intro hf
  obtain ⟨more, hne, hd⟩ := h
  have hd' : f ++ (r ++ more) = bs ++ more ++ [] := by simp [hbs]
  obtain ⟨-, hr⟩ := hf.eq_of_append hd hd'
  simp_all

theorem Violation.not_wellFormed (h : Violation bs whole) (hbs : bs = f ++ r) : ¬ WellFormed f := by
  rintro ⟨hf, hc⟩
  cases h with
  | start hb =>
    cases hf
    simp_all
  | length hl =>
    cases hf
    simp_all
    omega
  | content hd hc' =>
    obtain ⟨rfl, -⟩ := hd.eq_of_append hf hbs
    exact hc' hc

theorem Violation.not_incomplete (h : Violation bs whole) : ¬ Incomplete bs := by
  rintro ⟨more, hne, hd⟩
  generalize hall : bs ++ more = all at hd
  cases h with
  | start hb =>
    cases hd
    simp_all
  | length hl =>
    cases hd
    simp_all
    omega
  | content hf _ => exact Incomplete.not_delimited ⟨more, hne, hall ▸ hd⟩ rfl hf

/-! ## Control octets -/

/-- The bits that a format uses of the four control octets; the first of them tells the format. -/
def usedControl (first : UInt8) : Octets :=
  if first.toNat % 2 = 0 then [0xFF, 0xFF, 0xFE, 0xFF]
  else if first.toNat % 4 = 1 then [0x03, 0x00, 0xFE, 0xFF]
  else [0xFF, 0x00, 0x00, 0x00]

/-- The octets of a frame without the bits that its format ignores. -/
def significant (frame : Octets) : Octets :=
  frame.take 2 ++ Octets.masked ((frame.drop 2).take 4) (usedControl (frame.getD 2 0)) ++ frame.drop 6

end Framing

theorem ControlFunction.toOctet_ofOctet (b : UInt8) : (ofOctet b).toOctet = b := by
  unfold ofOctet
  iterate 6
    split
    · exact Eq.symm (by assumption)
  rfl

theorem ControlFunction.normal_ofOctet {b : UInt8} (h : b.toNat % 4 = 3) : (ofOctet b).Normal := by
  have hb := toOctet_ofOctet b
  cases hf : ofOctet b with
  | undefined octet =>
    rw [hf] at hb
    subst hb
    exact ⟨h, hf⟩
  | _ => trivial

namespace Apci

theorem decodeNumber_lt (low high : UInt8) : decodeNumber low high < sequenceModulus := by
  have := low.toNat_lt
  have := high.toNat_lt
  unfold decodeNumber sequenceModulus
  omega

/-- The lowest bit in front of a number is lost. -/
theorem encodeNumber_decodeNumber (low high : UInt8) :
    encodeNumber (decodeNumber low high) = [low &&& 0xFE, high &&& 0xFF] := by
  have heven : ∀ b : UInt8, UInt8.ofNat (b.toNat / 2 * 2) = b &&& 0xFE := by decide +kernel
  have hhigh : high &&& 0xFF = high := UInt8.and_neg_one
  have := low.toNat_lt
  unfold encodeNumber
  rw [Nat.mod_eq_of_lt (decodeNumber_lt low high), ← heven, hhigh]
  unfold decodeNumber
  rw [show (high.toNat * 128 + low.toNat / 2) % 128 = low.toNat / 2 by omega,
    show (high.toNat * 128 + low.toNat / 2) / 128 = high.toNat by omega, UInt8.ofNat_toNat]

/-- What any four control octets are read as, and what becomes of them when they are written again. -/
theorem parse_control (a b c d : UInt8) (rest : Octets) : ∃ x, parse (a :: b :: c :: d :: rest) = .ok x ∧
    x.reduced = x ∧ x.encode = Octets.masked [a, b, c, d] (Framing.usedControl a) ∧
      (x.isInformation = true ↔ a.toNat % 2 = 0) ∧ ∀ function, x = .unnumbered function → function.Normal := by
  have hn (low high : UInt8) : decodeNumber low high % sequenceModulus = decodeNumber low high :=
    Nat.mod_eq_of_lt (decodeNumber_lt low high)
  unfold Framing.usedControl
  by_cases hi : a.toNat % 2 = 0
  · have ha : ∀ a : UInt8, a.toNat % 2 = 0 → a &&& 0xFE = a &&& 0xFF := by decide +kernel
    refine ⟨information (decodeNumber a b) (decodeNumber c d), if_pos hi, ?_, ?_, ?_, ?_⟩
    · simp only [reduced, hn]
    · simp [encode, encodeNumber_decodeNumber, Octets.masked, hi, ha a hi]
    · simp [isInformation, hi]
    · rintro function ⟨⟩
  · by_cases hs : a.toNat % 4 = 1
    · have ha : ∀ a : UInt8, a.toNat % 4 = 1 → 0x01 = a &&& 0x03 := by decide +kernel
      refine ⟨supervisory (decodeNumber c d), (if_neg hi).trans (if_pos hs), ?_, ?_, ?_, ?_⟩
      · simp only [reduced, hn]
      · simp [encode, encodeNumber_decodeNumber, Octets.masked, hi, hs, ← ha a hs]
      · simp [isInformation, hi]
      · rintro function ⟨⟩
    · have ha : a &&& 0xFF = a := UInt8.and_neg_one
      refine ⟨unnumbered (.ofOctet a), (if_neg hi).trans (if_neg hs), rfl, ?_, ?_, ?_⟩
      · simpa [encode, ControlFunction.toOctet_ofOctet, Octets.masked, hi, hs] using ha.symm
      · simp [isInformation, hi]
      · rintro function ⟨⟩
        exact ControlFunction.normal_ofOctet (by omega)

end Apci

namespace Apdu

open Framing

variable {bs f rest : Octets}

/-! ## One step of the decoder -/

theorem decode_cases (bs : Octets) :
    (decode bs = .incomplete ∧ Incomplete bs) ∨
      (∃ text, decode bs = .refused (.protocol text) ∧ Violation bs []) ∨
      ∃ f rest, decode bs = .frame f rest (ofOctets f) ∧ bs = f ++ rest ∧ Delimited f := by
  match bs with
  | [] => exact Or.inl ⟨rfl, 0x68 :: 4 :: [0, 0, 0, 0], by simp, by constructor <;> decide⟩
  | [start] =>
    by_cases hs : start = startOctet
    · subst hs
      exact Or.inl ⟨rfl, 4 :: [0, 0, 0, 0], by simp, by constructor <;> decide⟩
    · exact Or.inr (Or.inl ⟨_, if_pos hs, .start hs⟩)
  | start :: length :: body =>
    by_cases hs : start = startOctet
    · subst hs
      rw [decode, if_neg (by simp)]
      by_cases hl : length.toNat < minLength ∨ maxLength < length.toNat
      · exact Or.inr (Or.inl ⟨_, if_pos hl, .length hl⟩)
      · rw [if_neg hl]
        simp only [minLength, maxLength] at hl
        by_cases hb : body.length < length.toNat
        · refine Or.inl ⟨if_pos hb, List.replicate (length.toNat - body.length) 0, ?_, ?_⟩
          · simp
            omega
          · exact .mk (by omega) (by omega) (by simp; omega)
        · refine Or.inr (Or.inr ⟨_, _, if_neg hb, ?_, .mk (by omega) (by omega) ?_⟩)
          · simp [startOctet]
          · simp
            omega
    · exact Or.inr (Or.inl ⟨_, if_pos hs, .start hs⟩)

theorem decode_frame {octets : Octets} {content : Except Fault Apdu}
    (h : decode bs = .frame octets rest content) :
    content = ofOctets octets ∧ bs = octets ++ rest ∧ Delimited octets := by
  obtain ⟨he, -⟩ | ⟨text, he, -⟩ | ⟨f, rest', he, hbs, hf⟩ := decode_cases bs
  · rw [he] at h
    cases h
  · rw [he] at h
    cases h
  · rw [he] at h
    cases h
    exact ⟨rfl, hbs, hf⟩

theorem decode_content {octets : Octets} {content : Except Fault Apdu}
    (h : decode bs = .frame octets rest content) : content = ofOctets octets := (decode_frame h).1

theorem decode_delimited (hf : Delimited f) (rest : Octets) :
    decode (f ++ rest) = .frame f rest (ofOctets f) := by
  rcases decode_cases (f ++ rest) with ⟨-, hi⟩ | ⟨text, -, hv⟩ | ⟨g, rest', hd, hg, hdg⟩
  · exact absurd hf (hi.not_delimited rfl)
  · cases hf
    generalize hbs : _ ++ rest = bs at hv
    cases hv <;> simp_all
    omega
  · obtain ⟨rfl, rfl⟩ := hf.eq_of_append hdg hg
    exact hd

/-! ## What a whole frame holds -/

theorem ofOctets_of_wellFormed (hf : WellFormed f) : ∃ a, ofOctets f = .ok a ∧
    a.encode = .ok (significant f) ∧ a.Normal ∧ a.reduced = a := by
  obtain ⟨hd, hc⟩ := hf
  obtain ⟨length, a, b, c, d, asdu, rfl, hlength, hle⟩ := hd.exists_control
  obtain ⟨x, hx, hreduced, hencode, hinformation, hnormal⟩ := Apci.parse_control a b c d asdu
  have hsome : 0 < asdu.length ↔ x.isInformation = true := by
    rw [hinformation]
    simpa [Consistent, hlength] using hc
  have heq : ofOctets (0x68 :: length :: a :: b :: c :: d :: asdu) =
      .ok ⟨x, if asdu = [] then none else some asdu⟩ := by
    simp only [ofOctets, List.drop_succ_cons, List.drop_zero, hx, bind, Except.bind]
    cases asdu <;> cases hi : x.isInformation <;> simp_all [pure, Except.pure]
  have hlength' : UInt8.ofNat (4 + asdu.length) = length := by
    rw [← hlength, UInt8.ofNat_toNat]
  have hasdu : (if asdu = [] then none else some asdu).getD [] = asdu := by
    split <;> simp_all
  refine ⟨_, heq, ?_, ?_, ?_⟩
  · unfold encode asduLength
    dsimp only
    rw [hasdu, if_neg (by simp only [maxAsduLength, maxLength, minLength]; omega), hencode]
    simp only [minLength, hlength', significant, startOctet]
    simp
  · cases x with
    | information send receive =>
      have h0 : asdu ≠ [] := List.ne_nil_of_length_pos (hsome.2 rfl)
      simpa [Normal, h0, maxAsduLength, maxLength, minLength] using ⟨List.length_pos_iff.2 h0, hle⟩
    | supervisory receive => simp_all [Normal, Apci.isInformation]
    | unnumbered function =>
      have h0 : asdu = [] := by simp_all [Apci.isInformation]
      simpa [Normal, h0] using hnormal function rfl
  · simp only [reduced, hreduced]

theorem ofOctets_of_not_consistent (hf : Delimited f) (hc : ¬ Consistent f) :
    ∃ text, ofOctets f = .error (.protocol text) := by
  obtain ⟨length, a, b, c, d, asdu, rfl, hlength, hle⟩ := hf.exists_control
  obtain ⟨x, hx, -, -, hinformation, -⟩ := Apci.parse_control a b c d asdu
  have hsome : ¬ (0 < asdu.length ↔ x.isInformation = true) := by
    rw [hinformation]
    simpa [Consistent, hlength] using hc
  simp only [ofOctets, List.drop_succ_cons, List.drop_zero, hx, bind, Except.bind]
  cases asdu <;> cases hi : x.isInformation <;> simp_all [throw, throwThe, MonadExceptOf.throw]

/-! ## The whole decoder -/

theorem decodeAll_refused {fault : Fault} (h : decode bs = .refused fault) :
    decodeAll bs = { fault := some fault, rest := bs } := by
  rw [decodeAll.eq_def]
  split <;> simp_all

theorem decodeAll_malformed {fault : Fault} (h : decode bs = .frame f rest (.error fault)) :
    decodeAll bs = { seen := [f], fault := some fault, rest } := by
  rw [decodeAll.eq_def]
  split <;> simp_all

/-- The decoder takes well-formed frames as long as there are any. What it stops at is incomplete and stays
where it is, or it violates the grammar. -/
theorem decodeAll_splits (bs : Octets) : ∃ frames rest, Splits bs frames rest ∧
    (decodeAll bs).apdus.map encode = frames.map (.ok ∘ significant) ∧
      (∀ a ∈ (decodeAll bs).apdus, a.Normal ∧ a.reduced = a) ∧
      ((Incomplete rest ∧ (decodeAll bs).fault = none ∧ (decodeAll bs).rest = rest ∧
          (decodeAll bs).seen = frames) ∨
        ∃ whole text, Violation rest whole ∧ (decodeAll bs).fault = some (.protocol text) ∧
          (decodeAll bs).seen = frames ++ whole) := by
  induction hn : bs.length using Nat.strongRecOn generalizing bs with
  | ind n ih =>
    subst hn
    rcases decode_cases bs with ⟨hd, hi⟩ | ⟨text, hd, hv⟩ | ⟨f, rest, hd, hbs, hf⟩
    · rw [decodeAll_incomplete hd]
      refine ⟨[], bs, ⟨rfl, nofun, fun f more h hw => hi.not_delimited h hw.1⟩, rfl, nofun, Or.inl ?_⟩
      exact ⟨hi, rfl, rfl, rfl⟩
    · rw [decodeAll_refused hd]
      refine ⟨[], bs, ⟨rfl, nofun, fun f more h => hv.not_wellFormed h⟩, rfl, nofun, Or.inr ?_⟩
      exact ⟨[], text, hv, rfl, rfl⟩
    · by_cases hc : Consistent f
      · obtain ⟨a, ha, hencode, hnormal⟩ := ofOctets_of_wellFormed ⟨hf, hc⟩
        rw [ha] at hd
        obtain ⟨frames, rest', hs, hmap, hall, hend⟩ := ih rest.length (length_rest_lt hd) rest rfl
        rw [decodeAll_frame hd]
        refine ⟨f :: frames, rest', ⟨?_, ?_, hs.longest⟩, ?_, List.forall_mem_cons.2 ⟨hnormal, hall⟩, ?_⟩
        · rw [hbs, hs.octets, List.flatten_cons, List.append_assoc]
        · exact List.forall_mem_cons.2 ⟨⟨hf, hc⟩, hs.wellFormed⟩
        · simp only [List.map_cons, hencode, hmap]
          rfl
        · rcases hend with ⟨hi, hfault, hrest, hseen⟩ | ⟨whole, text, hv, hfault, hseen⟩
          · exact Or.inl ⟨hi, hfault, hrest, congrArg (f :: ·) hseen⟩
          · exact Or.inr ⟨whole, text, hv, hfault, congrArg (f :: ·) hseen⟩
      · obtain ⟨text, ht⟩ := ofOctets_of_not_consistent hf hc
        rw [ht] at hd
        have hv : Violation bs [f] := hbs ▸ .content hf hc
        rw [decodeAll_malformed hd]
        refine ⟨[], bs, ⟨rfl, nofun, fun g more h => hv.not_wellFormed h⟩, rfl, nofun, Or.inr ?_⟩
        exact ⟨[f], text, hv, rfl, rfl⟩

end Apdu

end Telecontrol
