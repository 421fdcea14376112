import Telecontrol.Proofs.Session.Course
import Telecontrol.Proofs.Parameters

/-!
# Acknowledgement and numbering

When a session acknowledges and what numbers its frames carry, over every run.

* `Session.Outcome.Steady`: operations that write no S-frame, one lemma for each.
* `Session.Outcome.Acknowledges`: operations that write an S-frame if one is due.
* `Course.unconfirmed_le_run`: a session never rests on more than `w` receptions.
* `Session.Disciplined`: what is counted, armed and stamped, compared with the log.
* `Course.acknowledgement_discipline`: the main result, for every operation that succeeds.
* `Course.acknowledgement_count_stops`: with `w` = 65535 no count ever makes an S-frame due.
-/

namespace Telecontrol

open Apci (sequenceModulus)

namespace Session

variable {α β : Type} {p : Parameters} {s s' : Session} {o : Outcome α} {log : Log} {now : Millis}
  {frame : Apdu}

/-! ## Operations that write no S-frame -/

/-- An operation on a window with `n` unacknowledged receptions wrote no S-frame and left no more of
them. -/
structure Outcome.Steady (n : Nat) (o : Outcome α) : Prop where
  written : ∀ r, Apdu.supervisory r ∉ o.written
  unconfirmed : o.session.window.unconfirmed ≤ n

variable {n : Nat}

theorem Outcome.Steady.andThen {next : α → Session → Outcome β} (h : o.Steady n)
    (hn : ∀ a s, s.window.unconfirmed ≤ n → (next a s).Steady n) : (o.andThen next).Steady n := by
  unfold Outcome.andThen
  split
  · exact ⟨h.written, h.unconfirmed⟩
  · rename_i a _
    have hn := hn a o.session h.unconfirmed
    refine ⟨fun r hr => ?_, hn.unconfirmed⟩
    obtain hr | hr := List.mem_append.1 hr
    · exact h.written r hr
    · exact hn.written r hr

theorem steady_done {a : α} (h : s.window.unconfirmed ≤ n) : (Outcome.done s a).Steady n := ⟨nofun, h⟩

theorem steady_fail {fault : Fault} (h : s.window.unconfirmed ≤ n) :
    (Outcome.fail s fault : Outcome α).Steady n := ⟨nofun, h⟩

theorem steady_write (h : s.window.unconfirmed ≤ n) (hf : ∀ r, frame ≠ .supervisory r) :
    (s.write frame).Steady n := by
  obtain ⟨fault, hw⟩ | ⟨-, hw⟩ := write_cases s frame
  · rw [hw]
    exact steady_fail h
  · rw [hw]
    exact ⟨fun r hr => hf r (List.mem_singleton.1 hr).symm, h⟩

theorem steady_sendControl {function : ControlFunction} (h : s.window.unconfirmed ≤ n) :
    (s.sendControl function now).Steady n := by
  obtain ⟨fault, hw⟩ | ⟨-, hw⟩ := sendControl_cases s function now
  · rw [hw]
    exact steady_fail h
  · rw [hw]
    refine ⟨fun r hr => ?_, h⟩
    cases List.mem_singleton.1 hr

theorem steady_sendInformation (h : s.window.unconfirmed ≤ n) (asdu : Octets) :
    (s.sendInformation asdu now).Steady n := by
  unfold sendInformation
  split
  · exact steady_write (Nat.zero_le n) fun r hr => by cases hr
  · exact steady_fail h

theorem steady_testIfIdle (h : s.window.unconfirmed ≤ n) : (s.testIfIdle now).Steady n := by
  unfold testIfIdle
  split
  · dsimp only
    split
    · exact steady_done h
    · exact steady_sendControl h
  · exact steady_done h

theorem steady_receiveControl (h : s.window.unconfirmed ≤ n) (function : ControlFunction) :
    (s.receiveControl function now).Steady n := by
  cases function with
  | testAct =>
    refine Outcome.Steady.andThen (steady_sendControl ?_) fun _ _ h => steady_done h
    exact h
  | _ => exact steady_done h

theorem steady_receive (h : s.window.unconfirmed ≤ n) (hf : frame.apci.isInformation = false) :
    (s.receive frame now).Steady n := by
  obtain ⟨apci, asdu⟩ := frame
  cases apci with
  | information send receive => cases hf
  | supervisory r =>
    simp only [receive]
    obtain ⟨-, text, hw⟩ | ⟨-, hw⟩ := Window.acknowledge_eq r (s.counted now).window _ rfl
    · rw [hw]
      exact steady_fail h
    · rw [hw]
      exact steady_done h
  | unnumbered function => exact steady_receiveControl (s := s.counted now) h function

/-! ## Operations that acknowledge -/

/-- An operation that succeeded wrote an S-frame exactly if one was due, and left at most `n` receptions
unacknowledged. -/
def Outcome.Acknowledges (n : Nat) (due : Prop) (o : Outcome α) : Prop :=
  ∀ a, o.result = .ok a →
    ((∃ r, Apdu.supervisory r ∈ o.written) ↔ due) ∧ o.session.window.unconfirmed ≤ n

theorem Outcome.Steady.acknowledges (h : o.Steady n) : o.Acknowledges n False :=
  fun _ _ => ⟨iff_false_intro fun ⟨r, hr⟩ => h.written r hr, h.unconfirmed⟩

theorem Outcome.Acknowledges.andThen {due : Prop} {next : α → Session → Outcome β} (h : o.Acknowledges n due)
    (hn : ∀ a s, s.window.unconfirmed ≤ n → (next a s).Steady n) : (o.andThen next).Acknowledges n due := by
  unfold Outcome.andThen
  split
  · exact nofun
  · rename_i a ha
    intro b hb
    obtain ⟨hd, hu⟩ := h a ha
    have hn := hn a o.session hu
    refine ⟨?_, hn.unconfirmed⟩
    rw [← hd]
    refine exists_congr fun r => ?_
    rw [List.mem_append]
    exact or_iff_left (hn.written r)

/-- What is not acknowledged is within the window. -/
theorem acknowledges_acknowledgeIfDue (hp : s.parameters = p) :
    (s.acknowledgeIfDue now).Acknowledges p.w (s.window.ackRequired now = true) := by
  cases hd : s.window.ackRequired now with
  | true =>
    rw [acknowledgeIfDue, if_pos hd]
    obtain ⟨fault, hw⟩ | ⟨-, hw⟩ := sendSupervisory_cases s
    · rw [hw]
      exact nofun
    · rw [hw]
      exact fun _ _ => ⟨iff_of_true ⟨_, List.mem_singleton_self _⟩ rfl, Nat.zero_le _⟩
  | false =>
    rw [acknowledgeIfDue, hd, if_neg Bool.false_ne_true]
    have hw : s.window.parameters = p := hp
    have hu : s.window.unconfirmed ≤ p.w := by
      rw [Window.ackRequired, Bool.or_eq_false_iff, hw] at hd
      exact Nat.le_of_not_lt (of_decide_eq_false hd.1)
    exact fun _ _ => ⟨iff_of_false (fun ⟨r, hr⟩ => List.not_mem_nil hr) Bool.false_ne_true, hu⟩

theorem Recalls.ackRequired_iff (h : s.Recalls p log) : s.window.ackRequired now = true ↔
    (p.w < log.unacknowledged.length ∧ p.w < 65535) ∨
      ∃ first ∈ log.unacknowledged.head?, first + p.t2 ≤ now := by
  obtain ⟨i, hi⟩ := h.window
  have hp : s.window.parameters = p := h.parameters
  rw [Window.ackRequired, Window.ackDeadline, hi.unconfirmed, hi.first, hp, Bool.or_eq_true,
    decide_eq_true_iff, lt_min_iff, Option.any_map, Option.any_eq_true]
  exact or_congr_right (exists_congr fun first => and_congr_right fun _ => decide_eq_true_iff)

/-- t2 runs from the first reception that is not acknowledged. -/
theorem Recalls.ackDeadline_eq (h : s.Recalls p log) :
    s.window.ackDeadline = log.unacknowledged.head?.map (· + p.t2) := by
  obtain ⟨i, hi⟩ := h.window
  rw [Window.ackDeadline, hi.first, show s.window.parameters = p from h.parameters]

/-- An S-frame is due in what an event does at `now` after what has passed: a received I-frame makes for
more than `w` unacknowledged receptions, where the count of them goes beyond `w`, or finds t2 elapsed, or
the timers find t2 elapsed. -/
def Event.Due (p : Parameters) (log : Log) (now : Millis) : Event → Prop
  | .receive frame =>
    let received := Log.unacknowledged (log ++ [⟨now, .received, frame⟩])
    frame.apci.isInformation = true ∧ ((p.w < received.length ∧ p.w < 65535) ∨
      ∃ first ∈ received.head?, first + p.t2 ≤ now)
  | .timer => ∃ first ∈ log.unacknowledged.head?, first + p.t2 ≤ now
  | _ => False

theorem acknowledges_receive (hk : p.k < sequenceModulus) (h : s.Recalls p log)
    (hu : s.window.unconfirmed ≤ p.w) (frame : Apdu) :
    (s.receive frame now).Acknowledges p.w ((Event.receive frame).Due p log now) := by
  cases hf : frame.apci.isInformation with
  | false =>
    have hd : ¬ (Event.receive frame).Due p log now := fun hd => by rw [Event.Due, hf] at hd; cases hd.1
    rw [iff_false_intro hd]
    exact (steady_receive hu hf).acknowledges
  | true =>
    obtain ⟨apci, asdu⟩ := frame
    cases apci with
    | supervisory r => cases hf
    | unnumbered function => cases hf
    | information n r =>
      obtain ⟨s', fault, he⟩ | ⟨s', hs, he⟩ := h.receive_information hk n r asdu now
      · rw [he]
        exact nofun
      · rw [he, Event.Due, and_iff_right hf, ← hs.ackRequired_iff]
        exact (acknowledges_acknowledgeIfDue hs.parameters).andThen fun _ _ h => steady_done h

theorem acknowledges_onTimer (h : s.Recalls p log) (hu : s.window.unconfirmed ≤ p.w) :
    (s.onTimer now).Acknowledges p.w (Event.timer.Due p log now) := by
  have hd : s.window.ackRequired now = true ↔ Event.timer.Due p log now := by
    obtain ⟨i, hi⟩ := h.window
    rw [h.ackRequired_iff, Event.Due, ← lt_min_iff, ← hi.unconfirmed]
    exact or_iff_right (Nat.not_lt_of_le hu)
  unfold onTimer
  split
  · exact nofun
  · rw [← hd]
    exact (acknowledges_acknowledgeIfDue h.parameters).andThen fun _ _ h => steady_testIfIdle h

theorem acknowledges_perform (hk : p.k < sequenceModulus) (h : s.Recalls p log)
    (hu : s.window.unconfirmed ≤ p.w) (event : Event) :
    (s.perform now event).Acknowledges p.w (event.Due p log now) := by
  cases event with
  | sendControl function => exact (steady_sendControl hu).acknowledges
  | sendInformation asdu => exact (steady_sendInformation hu asdu).acknowledges
  | receive frame => exact (acknowledges_receive hk h hu frame).andThen fun _ _ h => steady_done h
  | timer => exact acknowledges_onTimer h hu
  | breakStream =>
    refine Outcome.Steady.acknowledges (steady_done ?_)
    exact hu

/-! ## Discipline -/

/-- What a session has counted, armed and stamped is what its log tells. -/
structure Disciplined (p : Parameters) (s : Session) (log : Log) : Prop where
  outstanding_le : s.window.outstanding.size ≤ p.k
  unconfirmed_le : s.window.unconfirmed ≤ p.w
  unconfirmed : s.window.unconfirmed = min log.unacknowledged.length 65535
  unconfirmed_of_lt : p.w < 65535 → s.window.unconfirmed = log.unacknowledged.length
  ackDeadline : s.window.ackDeadline = log.unacknowledged.head?.map (· + p.t2)
  stamped : log.Stamped

/-- A session that holds what its log tells has only to be within `w`. -/
theorem Recalls.disciplined (h : s.Recalls p log) (hu : s.window.unconfirmed ≤ p.w) :
    s.Disciplined p log := by
  obtain ⟨i, hi⟩ := h.window
  have hp : s.window.parameters = p := h.parameters
  have hcount := hi.unconfirmed
  refine ⟨?_, hu, hcount, ?_, h.ackDeadline_eq, hi.stamped⟩
  · rw [hi.tracks.size_outstanding, ← hp, hi.tracks.capacity]
    exact hi.tracks.within
  · intro hw
    omega

end Session

namespace Course

variable {p : Parameters} {t₀ : Millis} {c : Course} {events : List (Millis × Session.Event)}

/-- No more than `w` receptions ever wait for their acknowledgement between two operations. -/
theorem unconfirmed_le_run (hk : p.k < sequenceModulus) (hr : (start p t₀).run events = some c) :
    c.session.window.unconfirmed ≤ p.w := by
  refine run_induction (P := fun _ c => c.session.window.unconfirmed ≤ p.w) (Nat.zero_le _)
    (fun {_ c _ _ _} hr hu hs => ?_) hr
  obtain ⟨fault, -, hw, rfl⟩ | ⟨ha, rfl⟩ := step_cases hs
  · exact hw.symm ▸ hu
  · exact (Session.acknowledges_perform hk (recalls_run hk hr) hu _ () ha).2

/-- **A session acknowledges in time and numbers its frames right.** After every run, and again after every
operation that succeeds, no more than `k` sent frames and no more than `w` received ones await their
acknowledgement; t2 runs from the first of the received ones; every frame that was written carried the right
numbers. An operation that succeeds writes an S-frame exactly if one is due, and one that fails writes
nothing. What is counted of the received frames is what came in since the last I-frame or S-frame, but the
count stops at 65535: it is exact for every smaller `w`, and for `w` = 65535 no S-frame is due by count. -/
theorem acknowledgement_discipline (hv : p.validate = .ok ()) (hr : (start p t₀).run events = some c) :
    c.session.Disciplined p c.log ∧
    ∀ now event,
      let o := c.session.perform now event
      let log := c.log ++ event.received.map (Passage.mk now .received) ++
        o.written.map (Passage.mk now .sent)
      (o.result = .ok () → o.session.Disciplined p log ∧
        ((∃ r, Apdu.supervisory r ∈ o.written) ↔ event.Due p c.log now)) ∧
      (o.result ≠ .ok () → o.written = []) := by
  have hk : p.k < sequenceModulus := Nat.lt_succ_of_le (Parameters.Valid.of_validate hv).k_le
  have h := recalls_run hk hr
  have hu := unconfirmed_le_run hk hr
  refine ⟨h.disciplined hu, ?_⟩
  intro now event o log
  have hacknowledges : o.Acknowledges p.w (event.Due p c.log now) :=
    Session.acknowledges_perform hk h hu event
  constructor
  · intro hok
    obtain ⟨hdue, hu'⟩ := hacknowledges () hok
    have h' : o.session.Recalls p log := Session.keeps_perform hk h event () hok
    exact ⟨h'.disciplined hu', hdue⟩
  · intro hfail
    cases ho : o.result with
    | ok u => exact absurd ho hfail
    | error fault => exact (c.session.withdraws_perform now event fault ho).1

/-- The second reception goes beyond `w` = 1 and is acknowledged with what had come in by then; the I-frame
that follows acknowledges the third; the fourth is acknowledged when t2 has run out. -/
theorem acknowledgement_discipline_two :
    let p : Parameters := { w := 1 }
    let events : List (Millis × Session.Event) :=
      [(0, .receive (.information 0 0 [1])), (1, .receive (.information 1 0 [2])),
        (2, .receive (.information 2 0 [3])), (3, .sendInformation [4]), (4, .receive (.information 3 1 [5]))]
    p.validate = .ok () ∧ ∃ c, (start p 0).run events = some c ∧ c.log.unacknowledged = [4] ∧
      c.session.window.unconfirmed = 1 ∧ c.session.window.ackDeadline = some 10004 ∧
      c.log.filterMap (fun x => if x.direction = .sent then some x.frame else none) =
        [.supervisory 2, .information 0 3 [4]] ∧
      c.log.Stamped ∧ (c.session.perform 10004 .timer).result = .ok () ∧
      ∃ r, Apdu.supervisory r ∈ (c.session.perform 10004 .timer).written := by
  intro p events
  have he : ((start p 0).run events).map (fun c => (c.log.unacknowledged, c.session.window.unconfirmed,
      c.session.window.ackDeadline,
      c.log.filterMap fun x => if x.direction = .sent then some x.frame else none,
      (c.session.perform 10004 .timer).result.isOk)) =
      some ([4], 1, some 10004, [.supervisory 2, .information 0 3 [4]], true) := by decide
  obtain ⟨c, hc, he⟩ := Option.map_eq_some_iff.1 he
  obtain ⟨h1, h2, h3, h4, h5⟩ : _ ∧ _ ∧ _ ∧ _ ∧ _ := by simpa only [Prod.mk.injEq] using he
  obtain ⟨hrest, hnext⟩ := acknowledgement_discipline (p := p) rfl hc
  have hok : (c.session.perform 10004 .timer).result = .ok () := by
    cases ho : (c.session.perform 10004 .timer).result with
    | ok u => rfl
    | error fault =>
      rw [ho] at h5
      cases h5
  have hdue : Session.Event.timer.Due p c.log 10004 := by
    refine ⟨4, ?_, by decide⟩
    rw [h1]
    rfl
  exact ⟨rfl, c, hc, h1, h2, h3, h4, hrest.stamped, hok, ((hnext 10004 .timer).1 hok).2.2 hdue⟩

/-! ## The count stops -/

/-- `n` I-frames that come in at once. -/
def flood (n : Nat) : List (Millis × Session.Event) :=
  (List.range n).map fun j => (0, .receive (.information (j % sequenceModulus) 0 []))

/-- Parameters under which no count of receptions makes an S-frame due. -/
def patient : Parameters := { w := 65535 }

/-- A session that has received one I-frame and then `n` others at once, and acknowledged none. -/
def flooded (n : Nat) : Session where
  window :=
    { parameters := patient
      receiveCount := (n + 1) % sequenceModulus
      unconfirmed := min (n + 1) 65535
      firstUnconfirmedAt := some 0 }
  idleSince := 0
  traffic := { received := n + 1 }

theorem onInformation_flooded (n : Nat) :
    Window.onInformation ((n + 1) % sequenceModulus) 0 0 (flooded n).window =
      .ok () (flooded (n + 1)).window := by
  have hs : (flooded n).window.receiveCount = (n + 1) % sequenceModulus := by simp only [flooded]
  have ha : Window.acknowledge 0 (flooded n).window = .ok () (flooded n).window := by
    have hd : Window.distance 0 0 = 0 := by decide
    rcases Window.acknowledge_eq 0 (flooded n).window 0 hd with ⟨hl, -⟩ | ⟨-, he⟩
    · rw [hd] at hl
      exact absurd hl (Nat.not_lt_zero _)
    · rw [he]
      rfl
  have hc : ((n + 1) % sequenceModulus + 1) % sequenceModulus = (n + 1 + 1) % sequenceModulus :=
    Nat.mod_add_mod ..
  have hu : min (min (n + 1) 65535 + 1) 65535 = min (n + 1 + 1) 65535 := by omega
  have hf : (if (flooded n).window.unconfirmed = 0 then some 0
      else (flooded n).window.firstUnconfirmedAt) = some 0 := by
    split
    · rfl
    · rfl
  rw [← hs, Window.onInformation_next, ha]
  simp only [Window.countReceived, hf]
  simp only [flooded, Window.successor, hc, hu]

theorem receive_flooded (n : Nat) :
    (flooded n).receive (.information ((n + 1) % sequenceModulus) 0 []) 0 =
      .done (flooded (n + 1)) (.asdu []) := by
  have hn : (flooded (n + 1)).window.ackRequired 0 = false := by
    have hu : ¬ 65535 < min (n + 1 + 1) 65535 := by omega
    simp [Window.ackRequired, Window.ackDeadline, flooded, patient, hu]
  have hc : ((flooded n).counted 0).window = (flooded n).window := by simp only [Session.counted]
  simp only [Session.receive, Apdu.information, hc, onInformation_flooded, Session.acknowledgeIfDue, hn]
  rfl

theorem run_flood (n : Nat) : ∃ log : Log, (start patient 0).run (flood (n + 1)) = some ⟨flooded n, log⟩ ∧
    log.unacknowledged.length = n + 1 ∧ ∀ x ∈ log, x.direction = .received := by
  induction n with
  | zero => exact ⟨[⟨0, .received, .information 0 0 []⟩], by decide, rfl, by simp⟩
  | succ n ih =>
    obtain ⟨log, hr, hu, hd⟩ := ih
    refine ⟨log ++ [⟨0, .received, .information ((n + 1) % sequenceModulus) 0 []⟩], ?_, ?_, ?_⟩
    · rw [flood, List.range_succ, List.map_append, List.map_singleton, ← flood, run_concat, hr]
      simp [step, Session.perform, receive_flooded, Session.Outcome.andThen, Session.Outcome.done,
        Session.Event.received]
    · rw [Log.unacknowledged_received rfl, List.length_append, hu]
      rfl
    · intro x hx
      obtain hx | hx := List.mem_append.1 hx
      · exact hd x hx
      · rw [List.mem_singleton.1 hx]

/-- With `w` = 65535 the count stops at `w` although one more frame has come in, and no S-frame is
written. -/
theorem acknowledgement_count_stops : patient.validate = .ok () ∧
    ∃ c, (start patient 0).run (flood 65536) = some c ∧ c.session.window.unconfirmed = patient.w ∧
      c.log.unacknowledged.length = patient.w + 1 ∧ ∀ x ∈ c.log, x.direction = .received := by
  obtain ⟨log, hr, hu, hd⟩ := run_flood 65535
  exact ⟨rfl, _, hr, rfl, hu, hd⟩

end Course

end Telecontrol
