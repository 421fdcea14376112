import Telecontrol.Proofs.Apdu.RoundTrip
import Telecontrol.Proofs.Session.Quiet
import Telecontrol.Proofs.Window.Refinement

/-!
# Frames in flight

What the frames on the way from one end of a link to the other have in common, in terms of the unbounded
counters of the two ends.

* `Transit`: the I-frames carry the numbers that the receiver expects next, one after the other, and the
  numbers N(R) rise from what the receiver knows to be acknowledged up to what the sender has received.
* `Transit.append`: frames that follow; from it `Transit.snoc_information` and `Transit.append_quiet`,
  what the sender does, and `Transit.raise`, a sender that has received more.
-/

namespace Telecontrol

open Apci (sequenceModulus)

/-- The frames on the way from an end that has sent `sent` I-frames and received `high` of them to an end
that has received `next` and knows `low` of its own to be acknowledged. -/
inductive Transit (sent high : Nat) : Nat → Nat → List Apdu → Prop where
  | nil {low : Nat} (hr : low ≤ high) : Transit sent high sent low []
  | information {next low r : Nat} {asdu : Octets} {frames : List Apdu} (hr : low ≤ r)
      (hn : (Apdu.information (next % sequenceModulus) (r % sequenceModulus) asdu).Normal)
      (h : Transit sent high (next + 1) r frames) :
      Transit sent high next low
        (.information (next % sequenceModulus) (r % sequenceModulus) asdu :: frames)
  | supervisory {next low r : Nat} {frames : List Apdu} (hr : low ≤ r)
      (h : Transit sent high next r frames) :
      Transit sent high next low (.supervisory (r % sequenceModulus) :: frames)
  | unnumbered {next low : Nat} {function : ControlFunction} {frames : List Apdu}
      (hf : function.Defined) (h : Transit sent high next low frames) :
      Transit sent high next low (.unnumbered function :: frames)

namespace Transit

variable {sent high next low : Nat} {frames more : List Apdu}

theorem low_le_high (h : Transit sent high next low frames) : low ≤ high := by
  induction h with
  | nil hr => exact hr
  | information hr _ _ ih => exact hr.trans ih
  | supervisory hr _ ih => exact hr.trans ih
  | unnumbered _ _ ih => exact ih

theorem next_le_sent (h : Transit sent high next low frames) : next ≤ sent := by
  induction h with
  | nil _ => exact Nat.le_refl _
  | information _ _ _ ih => exact Nat.le_of_succ_le ih
  | supervisory _ _ ih => exact ih
  | unnumbered _ _ ih => exact ih

/-- Frames in flight can be encoded, and their numbers are those on the wire. -/
theorem normal (h : Transit sent high next low frames) :
    ∀ a ∈ frames, a.Normal ∧ a.reduced = a := by
  induction h with
  | nil _ => exact fun a ha => absurd ha List.not_mem_nil
  | information _ hn _ ih =>
    refine List.forall_mem_cons.2 ⟨⟨hn, ?_⟩, ih⟩
    simp only [Apdu.reduced, Apci.reduced, Apdu.information, Nat.mod_mod]
  | supervisory _ _ ih =>
    refine List.forall_mem_cons.2 ⟨⟨trivial, ?_⟩, ih⟩
    simp only [Apdu.reduced, Apci.reduced, Apdu.supervisory, Nat.mod_mod]
  | unnumbered hf _ ih => exact List.forall_mem_cons.2 ⟨⟨hf.normal, rfl⟩, ih⟩

/-- Frames that go on where all numbers have arrived can follow those in flight. -/
theorem append {sent' high' : Nat} (h : Transit sent high next low frames)
    (hm : ∀ l ≤ high, Transit sent' high' sent l more) :
    Transit sent' high' next low (frames ++ more) := by
  induction h with
  | nil hr => exact hm _ hr
  | information hr hn _ ih => exact .information hr hn ih
  | supervisory hr _ ih => exact .supervisory hr ih
  | unnumbered hf _ ih => exact .unnumbered hf ih

/-- What the sender receives in the meantime is acknowledged by later frames. -/
theorem raise {high' : Nat} (h : Transit sent high next low frames) (hh : high ≤ high') :
    Transit sent high' next low frames := by
  rw [← List.append_nil frames]
  exact h.append fun l hl => .nil (hl.trans hh)

theorem snoc_information {asdu : Octets} (h : Transit sent high next low frames)
    (hn : (Apdu.information (sent % sequenceModulus) (high % sequenceModulus) asdu).Normal) :
    Transit (sent + 1) high next low
      (frames ++ [.information (sent % sequenceModulus) (high % sequenceModulus) asdu]) :=
  h.append fun _ hl => .information hl hn (.nil (Nat.le_refl _))

theorem snoc_supervisory (h : Transit sent high next low frames) :
    Transit sent high next low (frames ++ [.supervisory (high % sequenceModulus)]) :=
  h.append fun _ hl => .supervisory hl (.nil (Nat.le_refl _))

theorem snoc_unnumbered {function : ControlFunction} (h : Transit sent high next low frames)
    (hd : function.Defined) : Transit sent high next low (frames ++ [.unnumbered function]) :=
  h.append fun _ hl => .unnumbered hd (.nil hl)

theorem append_quiet (h : Transit sent high next low frames)
    (hq : ∀ f ∈ more, f = .supervisory (high % sequenceModulus) ∨
      ∃ function : ControlFunction, function.Defined ∧ f = .unnumbered function) :
    Transit sent high next low (frames ++ more) := by
  induction more generalizing frames with
  | nil => rwa [List.append_nil]
  | cons f more ih =>
    have hs : Transit sent high next low (frames ++ [f]) := by
      rcases hq f (by simp) with rfl | ⟨function, hd, rfl⟩
      · exact h.snoc_supervisory
      · exact h.snoc_unnumbered hd
    have := ih hs fun g hg => hq g (by simp [hg])
    rwa [List.append_assoc] at this

end Transit

/-- The ASDUs of frames. -/
def payloads (frames : List Apdu) : List Octets := frames.filterMap (·.asdu)

theorem payloads_append (frames more : List Apdu) :
    payloads (frames ++ more) = payloads frames ++ payloads more :=
  List.filterMap_append

theorem payloads_reduced (frames : List Apdu) :
    payloads (frames.map Apdu.reduced) = payloads frames :=
  List.filterMap_map

theorem payloads_quiet {frames : List Apdu} {n : Nat}
    (hq : ∀ f ∈ frames, f = .supervisory n ∨
      ∃ function : ControlFunction, function.Defined ∧ f = .unnumbered function) :
    payloads frames = [] := by
  refine List.filterMap_eq_nil_iff.2 fun f hf => ?_
  rcases hq f hf with rfl | ⟨function, -, rfl⟩
  · rfl
  · rfl

end Telecontrol
