import Mathlib.Data.List.DropRight
import Mathlib.Data.Nat.ModEq
import Telecontrol.Apdu
import Telecontrol.Parameters

/-!
# The log of a link

What has passed on a link, frame by frame, and what the frames say about each other. Nothing here
mentions the session.

* `Passage`, `Log`: the frames that were sent and received, with their times.
* `Log.sentTimes`, `Log.receivedTimes`, `Log.unacknowledged`: when the I-frames passed.
* `Log.Acknowledged`, `Log.Awaits`: which frames have been answered.
* `Log.Stamped`: every sent frame carries the right numbers.
* Lemmas on a log with one more frame, for a frame that was sent and for one that was received.
-/

namespace Telecontrol

open Apci (sequenceModulus)

/-- A frame that has passed on a link. -/
structure Passage where
  time : Millis
  direction : Direction
  frame : Apdu
  deriving DecidableEq, Repr

/-- What has passed on a link, in order. -/
abbrev Log := List Passage

namespace Log

/-- When the I-frames of one direction passed, in order. -/
def informationTimes (direction : Direction) (log : Log) : List Millis :=
  (log.filter fun x => x.direction == direction && x.frame.apci.isInformation).map (·.time)

def sentTimes (log : Log) : List Millis := log.informationTimes .sent

def receivedTimes (log : Log) : List Millis := log.informationTimes .received

/-- When the I-frames were received that came in since an I-frame or an S-frame was last sent. -/
def unacknowledged (log : Log) : List Millis :=
  receivedTimes <| log.rtakeWhile fun x =>
    !(x.direction == .sent && x.frame.apci.receiveNumber?.isSome)

/-- An N(R) has come in that acknowledges the I-frame that was sent after `n` others: it stands for a
larger number of I-frames that had been sent then. -/
def Acknowledged (log : Log) (n : Nat) : Prop :=
  ∃ before x r a, before ++ [x] <+: log ∧ x.direction = .received ∧
    x.frame.apci.receiveNumber? = some r ∧ n < a ∧ a ≤ (sentTimes before).length ∧
    a ≡ r [MOD sequenceModulus]

/-- An activation was sent at `time`, and no confirmation of its kind has come in since. -/
def Awaits (log : Log) (function : ControlFunction) (time : Millis) : Prop :=
  ∃ confirmation, function.confirmation = some confirmation ∧
    ⟨time, .sent, .unnumbered function⟩ ∈ log.rtakeWhile fun x =>
      !(x.direction == .received && x.frame.apci == .unnumbered confirmation)

/-- Every I-frame and every S-frame that was sent carries how many I-frames had come in, and every
I-frame how many had been sent before it. -/
def Stamped (log : Log) : Prop :=
  ∀ before x, before ++ [x] <+: log → x.direction = .sent →
    (∀ r, x.frame.apci.receiveNumber? = some r →
      r = (receivedTimes before).length % sequenceModulus) ∧
    ∀ n, x.frame.apci.sendNumber? = some n → n = (sentTimes before).length % sequenceModulus

/-- Frames that pass at one instant. -/
theorem of_mem_map {now : Millis} {direction : Direction} {frames : List Apdu} {x : Passage}
    (hx : x ∈ frames.map (Passage.mk now direction)) : x.time = now ∧ x.direction = direction := by
  obtain ⟨frame, -, rfl⟩ := List.mem_map.1 hx
  exact ⟨rfl, rfl⟩

/-! ## One more frame -/

variable {log : Log} {x : Passage} {n : Nat} {function : ControlFunction} {time : Millis}

theorem concat_prefix_concat {α : Type} {before l : List α} {x y : α} :
    before ++ [x] <+: l ++ [y] ↔ before = l ∧ x = y ∨ before ++ [x] <+: l := by
  rw [List.prefix_concat_iff, List.append_singleton_inj]

theorem informationTimes_sublist (direction : Direction) (log : Log) :
    List.Sublist (log.informationTimes direction) (log.map (·.time)) :=
  List.filter_sublist.map _

theorem informationTimes_append (direction : Direction) (log more : Log) :
    informationTimes direction (log ++ more) =
      log.informationTimes direction ++ more.informationTimes direction := by
  rw [informationTimes, List.filter_append, List.map_append]
  rfl

theorem informationTimes_concat (direction : Direction) (log : Log) (x : Passage) :
    informationTimes direction (log ++ [x]) = log.informationTimes direction ++
      if x.direction == direction && x.frame.apci.isInformation then [x.time] else [] := by
  rw [informationTimes, List.filter_append, List.map_append, List.filter_singleton]
  split <;> simp [informationTimes, *]

theorem informationTimes_of_not {direction : Direction} (hx : x.frame.apci.isInformation = false) :
    informationTimes direction (log ++ [x]) = log.informationTimes direction := by
  simp [informationTimes_concat, hx]

theorem sentTimes_sent (hd : x.direction = .sent) (hx : x.frame.apci.isInformation = true) :
    sentTimes (log ++ [x]) = log.sentTimes ++ [x.time] := by
  simp [sentTimes, informationTimes_concat, hd, hx]

theorem sentTimes_received (hd : x.direction = .received) : sentTimes (log ++ [x]) = log.sentTimes := by
  simp [sentTimes, informationTimes_concat, hd]

theorem receivedTimes_sent (hd : x.direction = .sent) : receivedTimes (log ++ [x]) = log.receivedTimes := by
  simp [receivedTimes, informationTimes_concat, hd]

theorem receivedTimes_received (hd : x.direction = .received) (hx : x.frame.apci.isInformation = true) :
    receivedTimes (log ++ [x]) = log.receivedTimes ++ [x.time] := by
  simp [receivedTimes, informationTimes_concat, hd, hx]

theorem unacknowledged_sent (hd : x.direction = .sent) :
    unacknowledged (log ++ [x]) =
      if x.frame.apci.receiveNumber?.isSome then [] else log.unacknowledged := by
  rw [unacknowledged, List.rtakeWhile_concat, hd]
  cases hr : x.frame.apci.receiveNumber?.isSome with
  | true => rfl
  | false =>
    simp [receivedTimes, informationTimes_concat, hd, unacknowledged]

theorem unacknowledged_received (hd : x.direction = .received) :
    unacknowledged (log ++ [x]) = log.unacknowledged ++
      if x.frame.apci.isInformation then [x.time] else [] := by
  rw [unacknowledged, List.rtakeWhile_concat, hd]
  simp [receivedTimes, informationTimes_concat, hd, unacknowledged]

/-- Only an I-frame or an S-frame that is sent, and an I-frame that is received, matter. -/
theorem unacknowledged_of_not (hx : x.frame.apci.isInformation = false)
    (hd : x.direction = .received ∨ x.frame.apci.receiveNumber? = none) :
    unacknowledged (log ++ [x]) = log.unacknowledged := by
  cases h : x.direction with
  | sent =>
    have hr := hd.resolve_left (by rw [h]; exact nofun)
    rw [unacknowledged_sent h, hr]
    rfl
  | received =>
    rw [unacknowledged_received h, hx]
    exact List.append_nil _

theorem acknowledged_concat : Acknowledged (log ++ [x]) n ↔ log.Acknowledged n ∨
    x.direction = .received ∧ ∃ r a, x.frame.apci.receiveNumber? = some r ∧ n < a ∧
      a ≤ log.sentTimes.length ∧ a ≡ r [MOD sequenceModulus] := by
  constructor
  · rintro ⟨before, y, r, a, hp, hd, hr, ha⟩
    obtain ⟨rfl, rfl⟩ | hp := concat_prefix_concat.1 hp
    · exact .inr ⟨hd, r, a, hr, ha⟩
    · exact .inl ⟨before, y, r, a, hp, hd, hr, ha⟩
  · rintro (⟨before, y, r, a, hp, h⟩ | ⟨hd, r, a, hr, ha⟩)
    · exact ⟨before, y, r, a, hp.trans (List.prefix_append _ _), h⟩
    · exact ⟨log, x, r, a, List.prefix_rfl, hd, hr, ha⟩

theorem Acknowledged.append (h : log.Acknowledged n) (more : Log) : Acknowledged (log ++ more) n := by
  obtain ⟨before, x, r, a, hp, h⟩ := h
  exact ⟨before, x, r, a, hp.trans (List.prefix_append _ _), h⟩

theorem acknowledged_sent (hd : x.direction = .sent) :
    Acknowledged (log ++ [x]) n ↔ log.Acknowledged n := by
  rw [acknowledged_concat, hd]
  simp

theorem stamped_concat (h : log.Stamped) (hx : x.direction = .sent →
    (∀ r, x.frame.apci.receiveNumber? = some r → r = log.receivedTimes.length % sequenceModulus) ∧
      ∀ n, x.frame.apci.sendNumber? = some n → n = log.sentTimes.length % sequenceModulus) :
    Stamped (log ++ [x]) := by
  intro before y hp hd
  obtain ⟨rfl, rfl⟩ | hp := concat_prefix_concat.1 hp
  · exact hx hd
  · exact h before y hp hd

theorem stamped_received (h : log.Stamped) (hd : x.direction = .received) : Stamped (log ++ [x]) :=
  stamped_concat h fun hs => by rw [hd] at hs; cases hs

theorem awaits_received (hd : x.direction = .received) : Awaits (log ++ [x]) function time ↔
    log.Awaits function time ∧ ∀ g, x.frame.apci = .unnumbered g → function.confirmation ≠ some g := by
  constructor
  · rintro ⟨g, hg, hm⟩
    rw [List.rtakeWhile_concat] at hm
    split at hm
    · rename_i hx
      refine ⟨⟨g, hg, ?_⟩, ?_⟩
      · rcases List.mem_append.1 hm with hm | hm
        · exact hm
        · rw [← List.mem_singleton.1 hm] at hd
          cases hd
      · intro g' hg' hc
        obtain rfl : g = g' := Option.some.inj (hg.symm.trans hc)
        simp [hd, hg'] at hx
    · cases hm
  · rintro ⟨⟨g, hg, hm⟩, hx⟩
    refine ⟨g, hg, ?_⟩
    rw [List.rtakeWhile_concat_pos]
    · exact List.mem_append_left _ hm
    · have : x.frame.apci ≠ .unnumbered g := fun h => hx g h hg
      simp [hd, this]

theorem awaits_sent (hd : x.direction = .sent) : Awaits (log ++ [x]) function time ↔
    log.Awaits function time ∨
      function.confirmation.isSome = true ∧ x = ⟨time, .sent, .unnumbered function⟩ := by
  have hp : ∀ g, (!(x.direction == .received && x.frame.apci == .unnumbered g)) = true := by simp [hd]
  constructor
  · rintro ⟨g, hg, hm⟩
    rw [List.rtakeWhile_concat, if_pos (hp g), List.mem_append, List.mem_singleton] at hm
    refine hm.imp (fun hm => ⟨g, hg, hm⟩) fun hm => ⟨?_, hm.symm⟩
    rw [hg, Option.isSome_some]
  · rintro (⟨g, hg, hm⟩ | ⟨hs, hx⟩)
    · refine ⟨g, hg, ?_⟩
      rw [List.rtakeWhile_concat, if_pos (hp g)]
      exact List.mem_append_left _ hm
    · obtain ⟨g, hg⟩ := Option.isSome_iff_exists.1 hs
      refine ⟨g, hg, ?_⟩
      rw [List.rtakeWhile_concat, if_pos (hp g), hx]
      exact List.mem_append_right _ (List.mem_singleton_self _)

theorem awaits_numbered (hx : x.frame.apci.receiveNumber?.isSome = true) :
    Awaits (log ++ [x]) function time ↔ log.Awaits function time := by
  have hu : ∀ g, x.frame.apci ≠ .unnumbered g := fun g h => by rw [h] at hx; cases hx
  cases hd : x.direction with
  | sent =>
    rw [awaits_sent hd]
    exact or_iff_left fun h => hu function (by rw [h.2]; rfl)
  | received =>
    rw [awaits_received hd]
    exact and_iff_left fun g h => absurd h (hu g)

end Log

end Telecontrol
