import Mathlib.Data.Nat.ModEq
import Telecontrol.Window

/-!
# The ideal window

A window whose counters grow without bound, and the frames of a real window read through it.

* `IdealWindow`: how many I-frames were sent, acknowledged and received; `IdealWindow.Acks` says which
  counter a number N(R) stands for, and at most one counter qualifies (`IdealWindow.Acks.unique`).
* `IdealWindow.send`, `IdealWindow.acknowledge?`, `IdealWindow.receive?`: its moves.
* `Window.Tracks`: the real window shows the counters of the ideal one modulo 32768.
* `Window.Tracks.released`: the arithmetic of `Window.acknowledge` finds the frames that the ideal window
  would release.
-/

namespace Telecontrol

open Apci (sequenceModulus)

/-- A window whose counters of the I-frames sent, acknowledged and received grow without bound. -/
structure IdealWindow where
  capacity : Nat
  sent : Nat := 0
  acked : Nat := 0
  received : Nat := 0
  deriving DecidableEq, Repr, Inhabited

namespace IdealWindow

variable {i : IdealWindow} {r a b : Nat}

/-- N(R) = `r` acknowledges the first `a` of the frames sent. -/
def Acks (i : IdealWindow) (r a : Nat) : Prop :=
  i.acked ≤ a ∧ a ≤ i.sent ∧ a ≡ r [MOD sequenceModulus]

/-- In a window that is not as wide as the number range, at most one counter qualifies. -/
theorem Acks.unique (hw : i.sent - i.acked < sequenceModulus) (ha : i.Acks r a) (hb : i.Acks r b) :
    a = b := by
  obtain ⟨hla, hua, hra⟩ := ha
  obtain ⟨hlb, hub, hrb⟩ := hb
  have hab : a % sequenceModulus = b % sequenceModulus := hra.trans hrb.symm
  simp only [sequenceModulus] at hw hab
  omega

/-- The counter that N(R) = `r` stands for. -/
def target? (i : IdealWindow) (r : Nat) : Option Nat :=
  (List.range' i.acked (i.sent + 1 - i.acked)).find? fun a =>
    a % sequenceModulus = r % sequenceModulus

theorem acks_of_target? (h : i.target? r = some a) : i.Acks r a := by
  have hm := List.mem_of_find?_eq_some h
  have hr := List.find?_some h
  rw [List.mem_range'_1] at hm
  exact ⟨hm.1, by omega, of_decide_eq_true hr⟩

theorem target?_eq_some (hw : i.sent - i.acked < sequenceModulus) (h : i.Acks r a) :
    i.target? r = some a := by
  cases ht : i.target? r with
  | some b => rw [(acks_of_target? ht).unique hw h]
  | none =>
    have hm : a ∈ List.range' i.acked (i.sent + 1 - i.acked) :=
      List.mem_range'_1.2 ⟨h.1, by have := h.2.1; omega⟩
    exact absurd (decide_eq_true h.2.2) (List.find?_eq_none.1 ht a hm)

theorem target?_eq_none (h : ∀ a, ¬ i.Acks r a) : i.target? r = none := by
  cases ht : i.target? r with
  | none => rfl
  | some a => exact absurd (acks_of_target? ht) (h a)

/-! ## The moves of the ideal window -/

def start (capacity : Nat) : IdealWindow := { capacity }

/-- Sends a frame, if another one may await its acknowledgement. -/
def send (i : IdealWindow) : IdealWindow :=
  if i.sent - i.acked < i.capacity then { i with sent := i.sent + 1 } else i

/-- Takes N(R) = `r`, if it stands for a counter. -/
def acknowledge? (i : IdealWindow) (r : Nat) : Option IdealWindow :=
  (i.target? r).map fun a => { i with acked := a }

/-- Takes a frame with N(S) = `s` and N(R) = `r`, if it is the next one. -/
def receive? (i : IdealWindow) (s r : Nat) : Option IdealWindow :=
  if s = i.received % sequenceModulus then
    (i.acknowledge? r).map fun i => { i with received := i.received + 1 }
  else none

end IdealWindow

namespace Window

variable {w : Window} {i : IdealWindow} {r a : Nat}

/-- The numbers of the frames that await their acknowledgement, the oldest first. -/
def numbers (w : Window) : List Nat := w.outstanding.toList.map (·.number)

/-- The numbers of the frames counted from `low` up to `high`. -/
def numbersBetween (low high : Nat) : List Nat :=
  (List.range' low (high - low)).map (· % sequenceModulus)

theorem numbersBetween_snoc {low high : Nat} (h : low ≤ high) :
    numbersBetween low (high + 1) = numbersBetween low high ++ [high % sequenceModulus] := by
  unfold numbersBetween
  rw [show high + 1 - low = high - low + 1 by omega, List.range'_1_concat, List.map_append]
  rw [show low + (high - low) = high by omega, List.map_singleton]

theorem drop_numbersBetween {low mid high : Nat} (hl : low ≤ mid) :
    (numbersBetween low high).drop (mid - low) = numbersBetween mid high := by
  unfold numbersBetween
  rw [← List.map_drop, List.drop_range']
  rw [show low + (mid - low) * 1 = mid by omega, show high - low - (mid - low) = high - mid by omega]

/-- A window shows the counters of an ideal one modulo 32768, and holds the frames between them. -/
structure Tracks (w : Window) (i : IdealWindow) : Prop where
  capacity : w.parameters.k = i.capacity
  sendCount : w.sendCount = i.sent % sequenceModulus
  receiveCount : w.receiveCount = i.received % sequenceModulus
  numbers : w.numbers = numbersBetween i.acked i.sent
  acked_le : i.acked ≤ i.sent
  within : i.sent - i.acked ≤ i.capacity

namespace Tracks

theorem size_outstanding (h : w.Tracks i) : w.outstanding.size = i.sent - i.acked := by
  have := congrArg List.length h.numbers
  simpa [Window.numbers, numbersBetween] using this

theorem canSend_iff (h : w.Tracks i) : w.canSend = true ↔ i.sent - i.acked < i.capacity := by
  rw [canSend, decide_eq_true_iff, h.size_outstanding, h.capacity]

end Tracks

theorem add_distance_mod (c r : Nat) :
    (c + distance (c % sequenceModulus) r) % sequenceModulus = r % sequenceModulus := by
  simp only [distance, sequenceModulus]
  omega

theorem distance_lt (start finish : Nat) : distance start finish < sequenceModulus :=
  Nat.mod_lt _ (by decide)

/-- The number that the window takes for its oldest frame is the right one, although it is computed
from the count of the frames alone. -/
theorem Tracks.oldest (h : w.Tracks i) :
    distance (w.outstanding.size % 65536) w.sendCount = i.acked % sequenceModulus := by
  have hn := h.size_outstanding
  have hle := h.acked_le
  rw [hn, h.sendCount]
  simp only [distance, sequenceModulus]
  omega

/-- The count of the frames fits into the 16 bits that the window takes of it. -/
theorem Tracks.waiting (h : w.Tracks i) (hk : i.capacity < sequenceModulus) :
    w.outstanding.size % 65536 = i.sent - i.acked := by
  have hw := h.within
  simp only [sequenceModulus] at hk
  rw [h.size_outstanding, Nat.mod_eq_of_lt (by omega)]

/-- The frames that N(R) = `r` would release lie in the window exactly if `r` stands for a counter. -/
theorem Tracks.released (h : w.Tracks i) (hk : i.capacity < sequenceModulus) :
    i.Acks r a ↔ a = i.acked + distance (i.acked % sequenceModulus) r ∧
      distance (i.acked % sequenceModulus) r ≤ i.sent - i.acked := by
  have hd := distance_lt (i.acked % sequenceModulus) r
  have hr := add_distance_mod i.acked r
  have hw := h.within
  have hle := h.acked_le
  generalize distance (i.acked % sequenceModulus) r = d at hd hr ⊢
  constructor
  · rintro ⟨hl, hu, hm⟩
    have hm : a % sequenceModulus = r % sequenceModulus := hm
    simp only [sequenceModulus] at hk hd hr hm
    omega
  · rintro ⟨rfl, hd'⟩
    exact ⟨by omega, by omega, hr⟩

end Window

end Telecontrol
