import Telecontrol.Proofs.Apdu.Grammar
import Telecontrol.Proofs.Window.Refinement

/-!
# Windows whose numbers fit

What every operation keeps of the numbers of a window.

* `Apci.Fits`: the number N(R) of a frame is a sequence number. Every frame that is read is so.
* `Window.Numbered`: the numbers of a window are sequence numbers, and it awaits no more acknowledgements than
  it may. Every operation keeps that.
-/

namespace Telecontrol

open Apci (sequenceModulus)

/-! ## Frames -/

/-- The number N(R) of a frame is a sequence number. -/
def Apci.Fits : Apci → Prop
  | .information _ receive | .supervisory receive => receive < sequenceModulus
  | .unnumbered _ => True

theorem Apci.fits_parse {control : Octets} {apci : Apci} (h : parse control = .ok apci) : apci.Fits := by
  unfold parse at h
  split at h
  · split at h
    · cases h
      exact decodeNumber_lt _ _
    · split at h <;> cases h
      · exact decodeNumber_lt _ _
      · trivial
  · cases h

theorem Apdu.fits_ofOctets {frame : Octets} {a : Apdu} (h : ofOctets frame = .ok a) : a.apci.Fits := by
  unfold ofOctets at h
  cases hp : Apci.parse (frame.drop 2) with
  | error fault =>
    rw [hp] at h
    cases h
  | ok apci =>
    have hfits := Apci.fits_parse hp
    rw [hp] at h
    simp only [bind, Except.bind, pure, Except.pure, throw, throwThe, MonadExceptOf.throw] at h
    split at h <;> cases h <;> exact hfits

/-! ## Windows -/

/-- The numbers of a window are sequence numbers, and no more frames await their acknowledgement than may. -/
structure Window.Numbered (w : Window) : Prop where
  send : w.sendCount < sequenceModulus
  receive : w.receiveCount < sequenceModulus
  within : w.outstanding.size ≤ w.parameters.k
  k_lt : w.parameters.k < sequenceModulus

namespace Window.Numbered

variable {w w' : Window} {send receive : Nat} {now : Millis}

theorem start {p : Parameters} (hp : p.k < sequenceModulus) : (Window.start p).Numbered where
  send := Nat.two_pow_pos 15
  receive := Nat.two_pow_pos 15
  within := Nat.zero_le _
  k_lt := hp

theorem successor_lt (n : Nat) : successor n < sequenceModulus := Nat.mod_lt _ (by decide)

theorem confirmed (h : w.Numbered) : w.confirmed.Numbered := ⟨h.send, h.receive, h.within, h.k_lt⟩

theorem prepareInformation (h : w.Numbered) (hc : w.canSend = true) (now : Millis) :
    (w.prepareInformation now).2.Numbered where
  send := successor_lt _
  receive := h.receive
  within := by
    have hlt : w.outstanding.size < w.parameters.k := of_decide_eq_true hc
    show (w.outstanding.push _).size ≤ w.parameters.k
    rw [Array.size_push]
    exact hlt
  k_lt := h.k_lt

theorem release (h : w.Numbered) (n : Nat) : (w.release n).Numbered where
  send := h.send
  receive := h.receive
  within := by
    have hle := h.within
    show (w.outstanding.drop n).size ≤ w.parameters.k
    simp only [Array.drop_eq_extract, Array.size_extract]
    omega
  k_lt := h.k_lt

theorem countReceived (h : w.Numbered) (now : Millis) : (w.countReceived now).Numbered :=
  ⟨h.send, successor_lt _, h.within, h.k_lt⟩

theorem acknowledge (h : w.Numbered) (ha : Window.acknowledge receive w = .ok () w') :
    w'.Numbered ∧ w'.receiveCount = w.receiveCount := by
  rcases acknowledge_eq receive w _ rfl with ⟨-, text, he⟩ | ⟨-, he⟩
  · rw [he] at ha
    cases ha
  · rw [he] at ha
    cases ha
    exact ⟨h.release _, rfl⟩

theorem onInformation (h : w.Numbered) (hi : Window.onInformation send receive now w = .ok () w') :
    w'.Numbered := by
  by_cases hs : send = w.receiveCount
  · subst hs
    rw [onInformation_next] at hi
    cases ha : Window.acknowledge receive w with
    | error fault v =>
      rw [ha] at hi
      cases hi
    | ok u v =>
      rw [ha] at hi
      cases hi
      exact (h.acknowledge ha).1.countReceived now
  · rw [onInformation_mismatch hs] at hi
    cases hi

end Window.Numbered

end Telecontrol
