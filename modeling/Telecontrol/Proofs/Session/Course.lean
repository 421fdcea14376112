import Telecontrol.Proofs.Session.Frames
import Telecontrol.Proofs.Session.Log
import Telecontrol.Proofs.Window.Refinement

/-!
# Sessions in the course of time

What is done with a session, and what it holds of what has passed on its link.

* `Session.Event`, `Session.perform`: what can be done with a session.
* `Course`, `Course.run`: a session with the log of its link, from one operation to the next.
* `Window.Recalls`, `Session.Recalls`: a session holds what its log tells, one lemma for every frame that
  passes.
* `Session.Outcome.Keeps`: a session still does so after an operation, one lemma for every operation.
* `Course.recalls_run`: a session does so after every run.
-/

namespace Telecontrol

open Apci (sequenceModulus)

/-! ## Runs -/

namespace Session

/-- What is done with a session. -/
inductive Event where
  | sendControl (function : ControlFunction)
  | sendInformation (asdu : Octets)
  | receive (frame : Apdu)
  | timer
  | breakStream
  deriving DecidableEq, Repr, Inhabited

/-- The frames that an event brings in. -/
def Event.received : Event → List Apdu
  | .receive frame => [frame]
  | _ => []

def perform (s : Session) (now : Millis) : Event → Outcome Unit
  | .sendControl function => s.sendControl function now
  | .sendInformation asdu => s.sendInformation asdu now
  | .receive frame => (s.receive frame now).andThen fun _ s => .done s ()
  | .timer => s.onTimer now
  | .breakStream => .done { s with writable := false } ()

end Session

/-- A session and what has passed on its link. -/
structure Course where
  session : Session
  log : Log := []
  deriving DecidableEq, Repr, Inhabited

namespace Course

def start (p : Parameters) (now : Millis) : Course := { session := .start p now }

/-- Does one thing with a session. A frame that is refused has not passed. A run ends where a failed operation
has changed the numbering, as the frame that it numbered was not written: whoever runs a session drops it
then. -/
def step (c : Course) (now : Millis) (event : Session.Event) : Option Course :=
  let o := c.session.perform now event
  match o.result with
  | .ok _ => some
      { session := o.session
        log := c.log ++ event.received.map (Passage.mk now .received) ++
          o.written.map (Passage.mk now .sent) }
  | .error _ => if o.session.window = c.session.window then some { c with session := o.session } else none

/-- Does one thing after the other with a session. -/
def run (c : Course) (events : List (Millis × Session.Event)) : Option Course :=
  events.foldlM (fun c e => c.step e.1 e.2) c

variable {c₀ c c' : Course} {events : List (Millis × Session.Event)} {now : Millis} {event : Session.Event}

theorem run_concat (c : Course) (events : List (Millis × Session.Event)) (e : Millis × Session.Event) :
    c.run (events ++ [e]) = (c.run events).bind fun c => c.step e.1 e.2 := by
  rw [run, List.foldlM_append]
  exact bind_congr fun c => by simp

/-- What holds at the start and is kept by every step holds after every run. -/
theorem run_induction {P : List (Millis × Session.Event) → Course → Prop} (h₀ : P [] c₀)
    (hs : ∀ {events c now event c'}, c₀.run events = some c → P events c → c.step now event = some c' →
      P (events ++ [(now, event)]) c') (hr : c₀.run events = some c) : P events c := by
  induction events using List.reverseRecOn generalizing c with
  | nil =>
    obtain rfl : c₀ = c := Option.some.inj hr
    exact h₀
  | append_singleton events e ih =>
    rw [run_concat] at hr
    obtain ⟨c', hc, hr⟩ := Option.bind_eq_some_iff.1 hr
    exact hs hc (ih hc) hr

/-- What a step does: it fails and leaves the numbering and the log as they were, or it succeeds and
writes down what has passed. -/
theorem step_cases (h : c.step now event = some c') :
    (∃ fault, (c.session.perform now event).result = .error fault ∧
      (c.session.perform now event).session.window = c.session.window ∧
      c' = { c with session := (c.session.perform now event).session }) ∨
    ((c.session.perform now event).result = .ok () ∧
      c' = { session := (c.session.perform now event).session
             log := c.log ++ event.received.map (Passage.mk now .received) ++
               (c.session.perform now event).written.map (Passage.mk now .sent) }) := by
  simp only [step] at h
  split at h
  · rename_i hr
    exact .inr ⟨hr, (Option.some.inj h).symm⟩
  · rename_i fault hr
    split at h
    · rename_i hw
      exact .inl ⟨fault, hr, hw, (Option.some.inj h).symm⟩
    · cases h

end Course

/-! ## What a window holds of the log -/

namespace Window

variable {w : Window} {i : IdealWindow} {log : Log} {x : Passage} {r n a : Nat}

/-- A window holds what the log tells of the I-frames, and every frame in the log is right. -/
structure Recalls (w : Window) (i : IdealWindow) (log : Log) : Prop where
  tracks : w.Tracks i
  sent : i.sent = log.sentTimes.length
  received : i.received = log.receivedTimes.length
  acked : ∀ n, n < i.acked ↔ log.Acknowledged n
  times : w.outstanding.toList.map (·.sentAt) = log.sentTimes.drop i.acked
  unconfirmed : w.unconfirmed = min log.unacknowledged.length 65535
  first : w.firstUnconfirmedAt = log.unacknowledged.head?
  stamped : log.Stamped

namespace Recalls

theorem start (p : Parameters) : (start p).Recalls (.start p.k) [] where
  tracks := tracks_start p
  sent := rfl
  received := rfl
  acked n := ⟨fun h => absurd h (Nat.not_lt_zero n), fun h => by
    obtain ⟨before, x, r, a, hp, -⟩ := h
    exact absurd (List.prefix_nil.1 hp) (by simp)⟩
  times := rfl
  unconfirmed := rfl
  first := rfl
  stamped before x hp := absurd (List.prefix_nil.1 hp) (by simp)

theorem informationSent (h : w.Recalls i log) (hc : w.canSend = true) {now : Millis} {asdu : Option Octets} :
    (w.prepareInformation now).2.Recalls { i with sent := i.sent + 1 }
      (log ++ [⟨now, .sent, (w.prepareInformation now).1, asdu⟩]) where
  tracks := h.tracks.prepareInformation hc now
  sent := by rw [Log.sentTimes_sent rfl rfl, List.length_append, ← h.sent]; rfl
  received := by rw [Log.receivedTimes_sent rfl]; exact h.received
  acked n := by rw [Log.acknowledged_sent rfl]; exact h.acked n
  times := by
    have hle : i.acked ≤ log.sentTimes.length := h.sent ▸ h.tracks.acked_le
    rw [Log.sentTimes_sent rfl rfl, List.drop_append_of_le_length hle, ← h.times]
    simp [prepareInformation, confirmed]
  unconfirmed := by rw [Log.unacknowledged_sent rfl]; rfl
  first := by rw [Log.unacknowledged_sent rfl]; rfl
  stamped := by
    refine Log.stamped_concat h.stamped fun _ => ⟨fun r hr => ?_, fun n hn => ?_⟩
    · rw [← h.received, ← h.tracks.receiveCount]
      exact (Option.some.inj hr).symm
    · rw [← h.sent, ← h.tracks.sendCount]
      exact (Option.some.inj hn).symm

theorem supervisorySent (h : w.Recalls i log) {now : Millis} :
    w.confirmed.Recalls i (log ++ [⟨now, .sent, .supervisory w.receiveCount⟩]) where
  tracks := h.tracks.confirmed
  sent := by rw [Log.sentTimes, Log.informationTimes_of_not rfl]; exact h.sent
  received := by rw [Log.receivedTimes_sent rfl]; exact h.received
  acked n := by rw [Log.acknowledged_sent rfl]; exact h.acked n
  times := by rw [Log.sentTimes, Log.informationTimes_of_not rfl]; exact h.times
  unconfirmed := by rw [Log.unacknowledged_sent rfl]; rfl
  first := by rw [Log.unacknowledged_sent rfl]; rfl
  stamped := by
    refine Log.stamped_concat h.stamped fun _ => ⟨fun r hr => ?_, fun n hn => by cases hn⟩
    rw [← h.received, ← h.tracks.receiveCount]
    exact (Option.some.inj hr).symm

/-- A U-frame says nothing about I-frames. -/
theorem unnumbered (h : w.Recalls i log) {function : ControlFunction}
    (hx : x.frame.apci = .unnumbered function) : w.Recalls i (log ++ [x]) where
  tracks := h.tracks
  sent := by rw [Log.sentTimes, Log.informationTimes_of_not (by rw [hx]; rfl)]; exact h.sent
  received := by rw [Log.receivedTimes, Log.informationTimes_of_not (by rw [hx]; rfl)]; exact h.received
  acked n := by rw [Log.acknowledged_concat, hx, ← h.acked n]; simp [Apci.receiveNumber?]
  times := by rw [Log.sentTimes, Log.informationTimes_of_not (by rw [hx]; rfl)]; exact h.times
  unconfirmed := by rw [Log.unacknowledged_of_not (by rw [hx]; rfl) (.inr (by rw [hx]; rfl))]; exact h.unconfirmed
  first := by rw [Log.unacknowledged_of_not (by rw [hx]; rfl) (.inr (by rw [hx]; rfl))]; exact h.first
  stamped := Log.stamped_concat h.stamped fun _ => by
    rw [hx]
    exact ⟨fun r hr => (by cases hr), fun n hn => by cases hn⟩

theorem lt_acks_iff (h : w.Recalls i log) (hk : i.capacity < sequenceModulus) (ha : i.Acks r a)
    (hd : x.direction = .received) (hr : x.frame.apci.receiveNumber? = some r) :
    n < a ↔ Log.Acknowledged (log ++ [x]) n := by
  rw [Log.acknowledged_concat, ← h.acked n, ← h.sent]
  constructor
  · intro hn
    exact .inr ⟨hd, r, a, hr, hn, ha.2.1, ha.2.2⟩
  · rintro (hn | ⟨-, r', b, hr', hn, hle, hm⟩)
    · exact Nat.lt_of_lt_of_le hn ha.1
    · obtain rfl : r = r' := Option.some.inj (hr.symm.trans hr')
      have hw : i.sent - i.acked < sequenceModulus := Nat.lt_of_le_of_lt h.tracks.within hk
      rcases Nat.lt_or_ge b i.acked with hb | hb
      · exact Nat.lt_of_lt_of_le (Nat.lt_trans hn hb) ha.1
      · rwa [ha.unique hw ⟨hb, hle, hm⟩]

theorem times_release (h : w.Recalls i log) (ha : i.Acks r a) :
    (w.release (a - i.acked)).outstanding.toList.map (·.sentAt) = log.sentTimes.drop a := by
  have hl : (w.release (a - i.acked)).outstanding.toList = w.outstanding.toList.drop (a - i.acked) := by
    simp [release, List.take_of_length_le]
  have hle := ha.1
  rw [hl, List.map_drop, h.times, List.drop_drop, show i.acked + (a - i.acked) = a by omega]

theorem supervisoryReceived (h : w.Recalls i log) (hk : i.capacity < sequenceModulus) (ha : i.Acks r a)
    (hd : x.direction = .received) (hx : x.frame.apci = .supervisory r) :
    (w.release (a - i.acked)).Recalls { i with acked := a } (log ++ [x]) where
  tracks := h.tracks.release ha
  sent := by rw [Log.sentTimes_received hd]; exact h.sent
  received := by rw [Log.receivedTimes, Log.informationTimes_of_not (by rw [hx]; rfl)]; exact h.received
  acked n := h.lt_acks_iff hk ha hd (by rw [hx]; rfl)
  times := by rw [Log.sentTimes_received hd]; exact h.times_release ha
  unconfirmed := by rw [Log.unacknowledged_of_not (by rw [hx]; rfl) (.inl hd)]; exact h.unconfirmed
  first := by rw [Log.unacknowledged_of_not (by rw [hx]; rfl) (.inl hd)]; exact h.first
  stamped := Log.stamped_received h.stamped hd

theorem informationReceived (h : w.Recalls i log) (hk : i.capacity < sequenceModulus) (ha : i.Acks r a)
    (hd : x.direction = .received) (hx : x.frame.apci = .information n r) :
    ((w.release (a - i.acked)).countReceived x.time).Recalls
      { i with acked := a, received := i.received + 1 } (log ++ [x]) := by
  have hi : x.frame.apci.isInformation = true := by rw [hx]; rfl
  have hu : Log.unacknowledged (log ++ [x]) = log.unacknowledged ++ [x.time] := by
    rw [Log.unacknowledged_received hd, if_pos hi]
  refine ⟨(h.tracks.release ha).countReceived x.time, ?_, ?_, fun n => ?_, ?_, ?_, ?_,
    Log.stamped_received h.stamped hd⟩
  · rw [Log.sentTimes_received hd]
    exact h.sent
  · rw [Log.receivedTimes_received hd hi, List.length_append, ← h.received]
    rfl
  · exact h.lt_acks_iff hk ha hd (by rw [hx]; rfl)
  · rw [Log.sentTimes_received hd]
    exact h.times_release ha
  · show min (w.unconfirmed + 1) 65535 = _
    rw [hu, h.unconfirmed, List.length_append, List.length_singleton]
    omega
  · show (if w.unconfirmed = 0 then some x.time else w.firstUnconfirmedAt) = _
    rw [hu, h.unconfirmed, h.first]
    cases log.unacknowledged with
    | nil => rfl
    | cons first rest => exact if_neg (by simp)

end Recalls

end Window

/-! ## What a session holds of the log -/

namespace Session

variable {α β : Type} {p : Parameters} {s : Session} {log : Log} {now : Millis} {frame : Apdu}

/-- A session holds what the log tells of its I-frames and of the activations that are not confirmed. -/
structure Recalls (p : Parameters) (s : Session) (log : Log) : Prop where
  parameters : s.parameters = p
  window : ∃ i, s.window.Recalls i log
  awaited : ∀ function deadline, ⟨function, deadline⟩ ∈ s.awaited ↔
    ∃ time, log.Awaits function time ∧ deadline = time + p.t1

namespace Recalls

theorem start (p : Parameters) (now : Millis) : (Session.start p now).Recalls p [] where
  parameters := rfl
  window := ⟨.start p.k, .start p⟩
  awaited function deadline := by
    constructor
    · intro h
      cases h
    · rintro ⟨time, ⟨g, -, hm⟩, -⟩
      cases hm

/-- A session holds of the log what its window and its awaited activations tell. -/
theorem congr {s' : Session} (h : s.Recalls p log) (hw : s'.window = s.window)
    (ha : s'.awaited = s.awaited) : s'.Recalls p log where
  parameters := by rw [Session.parameters, hw]; exact h.parameters
  window := by rw [hw]; exact h.window
  awaited := by rw [ha]; exact h.awaited

theorem capacity_lt {i : IdealWindow} (h : s.Recalls p log) (hk : p.k < sequenceModulus)
    (hi : s.window.Recalls i log) : i.capacity < sequenceModulus := by
  rwa [← hi.tracks.capacity, show s.window.parameters = p from h.parameters]

/-- An I-frame or an S-frame matters to the window only. -/
theorem numbered {w : Window} {i : IdealWindow} {x : Passage} (h : s.Recalls p log)
    (hw : w.Recalls i (log ++ [x])) (hp : w.parameters = s.window.parameters)
    (hx : x.frame.apci.receiveNumber?.isSome = true) :
    ({ s with window := w } : Session).Recalls p (log ++ [x]) where
  parameters := hp.trans h.parameters
  window := ⟨i, hw⟩
  awaited function deadline := by
    simp only [Log.awaits_numbered hx]
    exact h.awaited function deadline

theorem controlReceived (h : s.Recalls p log) (function : ControlFunction) (asdu : Option Octets) :
    (s.confirm function).Recalls p (log ++ [⟨now, .received, .unnumbered function, asdu⟩]) where
  parameters := h.parameters
  window := h.window.imp fun _ hi => hi.unnumbered rfl
  awaited g deadline := by
    have hx : (∀ f, Apci.unnumbered function = .unnumbered f → g.confirmation ≠ some f) ↔
        g.confirmation ≠ some function :=
      ⟨fun hf => hf function rfl, fun hg f hf => by cases hf; exact hg⟩
    rw [confirm, List.mem_filter, h.awaited, bne_iff_ne]
    simp only [Log.awaits_received (x := ⟨now, .received, ⟨.unnumbered function, asdu⟩⟩) rfl, hx]
    exact ⟨fun ⟨⟨time, ha, hd⟩, hg⟩ => ⟨time, ⟨ha, hg⟩, hd⟩,
      fun ⟨time, ⟨ha, hg⟩, hd⟩ => ⟨⟨time, ha, hd⟩, hg⟩⟩

theorem controlSent (h : s.Recalls p log) (function : ControlFunction) :
    (s.activated function now).Recalls p (log ++ [⟨now, .sent, .unnumbered function⟩]) where
  parameters := h.parameters
  window := h.window.imp fun _ hi => hi.unnumbered rfl
  awaited g deadline := by
    simp only [activated, List.mem_append, h.awaited, h.parameters, List.mem_map, Option.mem_toList,
      Log.awaits_sent (x := ⟨now, .sent, .unnumbered function⟩) rfl]
    constructor
    · rintro (⟨time, ha, hd⟩ | ⟨f, hf, he⟩)
      · exact ⟨time, .inl ha, hd⟩
      · cases he
        exact ⟨now, .inr ⟨by rw [hf]; rfl, rfl⟩, rfl⟩
    · rintro ⟨time, ha | ⟨hf, he⟩, hd⟩
      · exact .inl ⟨time, ha, hd⟩
      · cases he
        obtain ⟨f, hf⟩ := Option.isSome_iff_exists.1 hf
        exact .inr ⟨f, hf, by rw [hd]⟩

end Recalls

/-! ## What an operation makes of it -/

/-- Where an operation succeeded, the session holds what the log tells with the frames that were
written. -/
def Outcome.Keeps (p : Parameters) (now : Millis) (log : Log) (o : Outcome α) : Prop :=
  ∀ a, o.result = .ok a → o.session.Recalls p (log ++ o.written.map (Passage.mk now .sent))

theorem keeps_done {a : α} (h : s.Recalls p log) : (Outcome.done s a).Keeps p now log := by
  intro _ _
  exact (List.append_nil log).symm ▸ h

theorem keeps_fail {fault : Fault} : (Outcome.fail s fault : Outcome α).Keeps p now log :=
  nofun

theorem Outcome.Keeps.andThen {o : Outcome α} {next : α → Session → Outcome β} (h : o.Keeps p now log)
    (hn : ∀ a s log, s.Recalls p log → (next a s).Keeps p now log) : (o.andThen next).Keeps p now log := by
  unfold Outcome.andThen
  split
  · exact nofun
  · rename_i a ha
    intro b hb
    rw [List.map_append, ← List.append_assoc]
    exact hn a o.session _ (h a ha) b hb

theorem keeps_write (h : s.Recalls p (log ++ [⟨now, .sent, frame⟩])) :
    (s.write frame).Keeps p now log := by
  obtain ⟨fault, hw⟩ | ⟨-, hw⟩ := write_cases s frame
  · rw [hw]
    exact keeps_fail
  · rw [hw]
    exact fun _ _ => h.congr rfl rfl

theorem keeps_sendControl {function : ControlFunction} (h : s.Recalls p log) :
    (s.sendControl function now).Keeps p now log := by
  obtain ⟨fault, hw⟩ | ⟨-, hw⟩ := sendControl_cases s function now
  · rw [hw]
    exact keeps_fail
  · rw [hw]
    exact fun _ _ => (h.controlSent function).congr rfl rfl

theorem keeps_sendInformation (h : s.Recalls p log) (asdu : Octets) :
    (s.sendInformation asdu now).Keeps p now log := by
  unfold sendInformation
  split
  · rename_i hc
    obtain ⟨i, hi⟩ := h.window
    exact keeps_write (h.numbered (hi.informationSent hc) rfl rfl)
  · exact keeps_fail

theorem keeps_acknowledgeIfDue (h : s.Recalls p log) : (s.acknowledgeIfDue now).Keeps p now log := by
  unfold acknowledgeIfDue
  split
  · obtain ⟨i, hi⟩ := h.window
    exact keeps_write (h.numbered hi.supervisorySent rfl rfl)
  · exact keeps_done h

theorem keeps_receiveControl (h : s.Recalls p log) (function : ControlFunction) (asdu : Option Octets) :
    (s.receiveControl function now).Keeps p now
      (log ++ [⟨now, .received, .unnumbered function, asdu⟩]) := by
  have hc : (s.confirm function).Recalls p (log ++ [⟨now, .received, .unnumbered function, asdu⟩]) :=
    h.controlReceived function asdu
  -- No activation waits for a function that confirms nothing.
  have hs (hf : ∀ g : ControlFunction, g.confirmation ≠ some function) :
      s.Recalls p (log ++ [⟨now, .received, .unnumbered function, asdu⟩]) :=
    hc.congr rfl (List.filter_eq_self.2 fun a _ => bne_iff_ne.2 (hf a.function)).symm
  cases function with
  | testAct =>
    refine Outcome.Keeps.andThen (keeps_sendControl ?_) fun _ _ _ h => keeps_done h
    exact (hs fun g => by cases g <;> exact nofun).congr rfl rfl
  | testCon => exact keeps_done (hc.congr rfl rfl)
  | startCon => exact keeps_done hc
  | stopCon => exact keeps_done hc
  | startAct => exact keeps_done (hs fun g => by cases g <;> exact nofun)
  | stopAct => exact keeps_done (hs fun g => by cases g <;> exact nofun)
  | undefined octet => exact keeps_done (hs fun g => by cases g <;> exact nofun)

/-- What becomes of a received I-frame: it is refused, or it counts and is acknowledged if need be. -/
theorem Recalls.receive_information (hk : p.k < sequenceModulus) (h : s.Recalls p log) (n r : Nat)
    (asdu : Option Octets) (now : Millis) :
    (∃ s' fault, s.receive ⟨.information n r, asdu⟩ now = .fail s' fault) ∨
    ∃ s' : Session, s'.Recalls p (log ++ [⟨now, .received, .information n r, asdu⟩]) ∧
      s.receive ⟨.information n r, asdu⟩ now =
        (s'.acknowledgeIfDue now).andThen fun _ s => .done s (.asdu (asdu.getD [])) := by
  have hn : (s.counted now).Recalls p log := h.congr rfl rfl
  obtain ⟨i, hi⟩ := hn.window
  simp only [receive]
  cases hw : Window.onInformation n r now (s.counted now).window with
  | error fault w => exact .inl ⟨_, fault, rfl⟩
  | ok u w =>
    obtain ⟨a, ha, rfl⟩ := hi.tracks.of_onInformation_ok (hn.capacity_lt hk hi) hw
    have hr := hi.informationReceived (x := ⟨now, .received, .information n r, asdu⟩)
      (hn.capacity_lt hk hi) ha rfl rfl
    exact .inr ⟨_, hn.numbered hr rfl rfl, rfl⟩

theorem keeps_receive (hk : p.k < sequenceModulus) (h : s.Recalls p log) (frame : Apdu) :
    (s.receive frame now).Keeps p now (log ++ [⟨now, .received, frame⟩]) := by
  obtain ⟨apci, asdu⟩ := frame
  cases apci with
  | information n r =>
    obtain ⟨s', fault, he⟩ | ⟨s', hs, he⟩ := h.receive_information hk n r asdu now
    · rw [he]
      exact keeps_fail
    · rw [he]
      exact (keeps_acknowledgeIfDue hs).andThen fun _ _ _ h => keeps_done h
  | supervisory r =>
    have hn : (s.counted now).Recalls p log := h.congr rfl rfl
    obtain ⟨i, hi⟩ := hn.window
    simp only [receive]
    cases hw : Window.acknowledge r (s.counted now).window with
    | error fault w => exact keeps_fail
    | ok u w =>
      obtain ⟨a, ha, rfl⟩ := hi.tracks.of_acknowledge_ok (hn.capacity_lt hk hi) hw
      have hr := hi.supervisoryReceived (x := ⟨now, .received, .supervisory r, asdu⟩)
        (hn.capacity_lt hk hi) ha rfl rfl
      exact keeps_done (hn.numbered hr rfl rfl)
  | unnumbered function =>
    have hn : (s.counted now).Recalls p log := h.congr rfl rfl
    exact keeps_receiveControl hn function asdu

theorem keeps_testIfIdle (h : s.Recalls p log) : (s.testIfIdle now).Keeps p now log := by
  unfold testIfIdle
  split
  · dsimp only
    have hi : ({ s with idleSince := now } : Session).Recalls p log := h.congr rfl rfl
    split
    · exact keeps_done hi
    · exact keeps_sendControl hi
  · exact keeps_done h

theorem keeps_onTimer (h : s.Recalls p log) : (s.onTimer now).Keeps p now log := by
  unfold onTimer
  split
  · exact keeps_fail
  · exact (keeps_acknowledgeIfDue h).andThen fun _ _ _ h => keeps_testIfIdle h

theorem keeps_perform (hk : p.k < sequenceModulus) (h : s.Recalls p log) (event : Event) :
    (s.perform now event).Keeps p now (log ++ event.received.map (Passage.mk now .received)) := by
  have hl : log ++ [].map (Passage.mk now .received) = log := List.append_nil log
  cases event with
  | receive frame => exact (keeps_receive hk h frame).andThen fun _ _ _ h => keeps_done h
  | sendControl function => exact hl.symm ▸ keeps_sendControl h
  | sendInformation asdu => exact hl.symm ▸ keeps_sendInformation h asdu
  | timer => exact hl.symm ▸ keeps_onTimer h
  | breakStream =>
    have hb : ({ s with writable := false } : Session).Recalls p log := h.congr rfl rfl
    exact hl.symm ▸ keeps_done hb

theorem withdraws_perform (s : Session) (now : Millis) (event : Event) :
    (s.perform now event).Withdraws s := by
  cases event with
  | receive frame => exact (withdraws_receive s frame now).andThen_done _
  | sendControl function => exact withdraws_sendControl rfl
  | sendInformation asdu => exact withdraws_sendInformation s asdu now
  | timer => exact withdraws_onTimer s now
  | breakStream => exact withdraws_ok rfl

end Session

/-! ## What every run keeps -/

namespace Course

variable {p : Parameters} {t₀ : Millis} {c c' : Course} {events : List (Millis × Session.Event)}
  {now : Millis} {event : Session.Event}

theorem recalls_step (hk : p.k < sequenceModulus) (h : c.session.Recalls p c.log)
    (hs : c.step now event = some c') : c'.session.Recalls p c'.log := by
  obtain ⟨fault, he, hw, rfl⟩ | ⟨ha, rfl⟩ := step_cases hs
  · exact h.congr hw (c.session.withdraws_perform now event fault he).2
  · exact Session.keeps_perform hk h event () ha

/-- **A session holds what its log tells**, whatever was done with it. -/
theorem recalls_run (hk : p.k < sequenceModulus) (hr : (start p t₀).run events = some c) :
    c.session.Recalls p c.log :=
  run_induction (P := fun _ c => c.session.Recalls p c.log) (.start p t₀) (fun _ => recalls_step hk) hr

/-- Every passage of a step has the time of the step. -/
theorem log_step (hs : c.step now event = some c') :
    ∃ later, c'.log = c.log ++ later ∧ ∀ x ∈ later, x.time = now := by
  obtain ⟨fault, -, -, rfl⟩ | ⟨-, rfl⟩ := step_cases hs
  · exact ⟨[], (List.append_nil _).symm, nofun⟩
  · refine ⟨_, List.append_assoc _ _ _, fun x hx => ?_⟩
    obtain hx | hx := List.mem_append.1 hx
    · exact (Log.of_mem_map hx).1
    · exact (Log.of_mem_map hx).1

theorem time_mem_run (hr : (start p t₀).run events = some c) :
    ∀ x ∈ c.log, x.time ∈ events.map Prod.fst := by
  refine run_induction (P := fun events c => ∀ x ∈ c.log, x.time ∈ events.map Prod.fst)
    (fun _ hx => absurd hx List.not_mem_nil) (fun {events c now event c'} _ h hs x hx => ?_) hr
  obtain ⟨later, hl, hn⟩ := log_step hs
  rw [hl] at hx
  rw [List.map_append]
  obtain hx | hx := List.mem_append.1 hx
  · exact List.mem_append_left _ (h x hx)
  · exact List.mem_append_right _ (List.mem_singleton.2 (hn x hx))

/-- By a clock that does not go back, what has passed has passed in the order of time. -/
theorem sorted_run (hr : (start p t₀).run events = some c)
    (ht : (events.map Prod.fst).Pairwise (· ≤ ·)) : (c.log.map (·.time)).Pairwise (· ≤ ·) := by
  refine run_induction (P := fun events c => (events.map Prod.fst).Pairwise (· ≤ ·) →
    (c.log.map (·.time)).Pairwise (· ≤ ·)) (fun _ => .nil)
    (fun {events c now event c'} hr h hs ht => ?_) hr ht
  obtain ⟨later, hl, hn⟩ := log_step hs
  rw [List.map_append] at ht
  obtain ⟨hp, -, hle⟩ := List.pairwise_append.1 ht
  rw [hl, List.map_append, List.pairwise_append]
  refine ⟨h hp, ?_, ?_⟩
  · rw [List.pairwise_map]
    exact List.pairwise_of_forall_mem_list fun x hx y hy => by rw [hn x hx, hn y hy]
  · intro a ha b hb
    obtain ⟨x, hx, rfl⟩ := List.mem_map.1 ha
    obtain ⟨y, hy, rfl⟩ := List.mem_map.1 hb
    rw [hn y hy]
    exact hle x.time (time_mem_run hr x hx) now (List.mem_singleton_self now)

end Course

end Telecontrol
