import Telecontrol.Proofs.Link.Chronicle

/-!
# The window reopens

Two ends never wait for each other: whenever nothing is in flight, the frames that await their
acknowledgement at one end are those that the other end is to acknowledge, its timer t2 runs, and the S-frame
that it writes when t2 has run out opens the window of the first end again.

* `Link.swap`: the link seen from its right end.
* `Session.onTimer_acknowledges`, `Chronicle.receive_supervisory`: the S-frame is written, and taken.
* `Link.Reopens`: the whole property, for the frames from the left end to the right one.
* `Link.run_reopens`: it holds in both directions in every state that a run reaches.
-/

namespace Telecontrol

open Apci (sequenceModulus)

/-! ## The S-frame -/

/-- Where t1 has not run out, the timers write the S-frame that is due, and nothing before it. -/
theorem Session.onTimer_acknowledges {s : Session} {now : Millis} (hw : s.writable = true)
    (ht : s.t1Expired now = false) (hd : s.window.ackRequired now = true) :
    ∃ rest, (s.onTimer now).written = .supervisory s.window.receiveCount :: rest := by
  rw [onTimer, ht, if_neg Bool.false_ne_true, acknowledgeIfDue, if_pos hd, sendSupervisory_ok hw]
  exact ⟨_, rfl⟩

/-- With nothing in flight, the S-frame of the other end releases everything that awaits its
acknowledgement. -/
theorem Chronicle.receive_supervisory {p q : Parameters} {s t : Session} {a b : Log}
    (h : Chronicle p s a [] [] q t b) (hw : s.writable = true) (now : Millis) :
    (s.receive (.supervisory t.window.receiveCount) now).result = .ok .handled ∧
      (s.receive (.supervisory t.window.receiveCount) now).session.window.outstanding = #[] := by
  obtain ⟨i, hi⟩ := h.here.recalls.window
  obtain ⟨j, hj⟩ := h.there.recalls.window
  have hr : i.sent = j.received := by rw [hi.sent, hj.received, h.outgoing.settled.1]
  have ha : i.Acks t.window.receiveCount i.sent := by
    refine ⟨hi.tracks.acked_le, Nat.le_refl _, ?_⟩
    rw [hj.tracks.receiveCount, ← hr]
    exact (Nat.mod_mod _ _).symm
  have hack := hi.tracks.acknowledge_ok (h.here.recalls.capacity_lt h.here.capacity hi) ha
  have he : (s.window.release (i.sent - i.acked)).outstanding = #[] := by
    rw [← hi.tracks.size_outstanding]
    simp [Window.release]
  obtain ⟨hq, ho⟩ := Session.receive_supervisory hw now hack
  refine ⟨ho, ?_⟩
  obtain hq | hq := hq.window
  · rw [hq]
    exact he
  · rw [hq]
    exact he

namespace Link

variable {p q : Parameters} {l : Link} {a b : Log}

/-- A link seen from its right end. -/
def swap (l : Link) : Link :=
  { left := l.right, right := l.left, toLeft := l.toRight, toRight := l.toLeft }

theorem Chronicled.swap (h : l.Chronicled p q a b) : l.swap.Chronicled q p b a where
  sound := by
    obtain ⟨i, j, hc⟩ := h.sound
    exact ⟨j, i, hc.swap⟩
  chronicle := h.chronicle.swap

/-- The timers of the right end, handled at `now`, succeed and write an S-frame before anything else; the left
end takes it, and nothing awaits its acknowledgement there any more. -/
def Acknowledges (l : Link) (now later : Millis) : Prop :=
  let o := l.right.session.onTimer now
  let l' := (l.step ⟨.right, now, .timer⟩).step ⟨.left, later, .receive⟩
  o.result = .ok () ∧ ∃ n rest, o.written = .supervisory n :: rest ∧
    (l.left.session.receive (.supervisory n) later).result = .ok .handled ∧
    l'.left.faults = [] ∧ l'.left.session.window.outstanding = #[] ∧ l'.toLeft = Apdu.wire rest

/-- What awaits its acknowledgement at the left end is what the right end is to acknowledge, it is within both
windows, and if there is any, the right end acknowledges it when its t2 has run out, unless its own t1 has. -/
structure Reopens (p q : Parameters) (l : Link) : Prop where
  balance : l.left.session.window.outstanding.size = l.right.session.window.unconfirmed
  within : l.left.session.window.outstanding.size ≤ min p.k q.w
  acknowledged : l.left.session.window.outstanding.size ≠ 0 →
    ∃ deadline, l.right.session.window.ackDeadline = some deadline ∧
      ∀ now later, deadline ≤ now → l.right.session.t1Expired now = false → l.Acknowledges now later

theorem Chronicled.acknowledges (h : l.Chronicled p q a b) (hr : l.toRight = []) (hl : l.toLeft = [])
    {now : Millis} (hd : l.right.session.window.ackRequired now = true)
    (ht : l.right.session.t1Expired now = false) (later : Millis) : l.Acknowledges now later := by
  obtain ⟨i, j, hc⟩ := h.sound
  have hn := h.chronicle
  rw [hl, hr] at hn
  obtain ⟨rest, hs⟩ := Session.onTimer_acknowledges hc.there.writable ht hd
  obtain ⟨ho, he⟩ := hn.receive_supervisory hc.here.writable later
  have hq := Session.onTimer_quiet hc.there.writable ht
  have hred : (Apdu.supervisory l.right.session.window.receiveCount).reduced =
      .supervisory l.right.session.window.receiveCount := by
    simp only [Apdu.reduced, Apci.reduced, Apdu.supervisory, hc.there.tracks.receiveCount, Nat.mod_mod]
  have hwritten : l.step ⟨.right, now, .timer⟩ =
      { l with
        right := { l.right with session := (l.right.session.onTimer now).session }
        toLeft := Apdu.wire (.supervisory l.right.session.window.receiveCount :: rest) } := by
    rw [← hs, ← List.nil_append (Apdu.wire _), ← hl]
    rfl
  have hact : l.left.act later (Apdu.wire (.supervisory l.right.session.window.receiveCount :: rest))
      .receive = _ := Conversation.act_receive l.left later trivial
  rw [hred, ho] at hact
  refine ⟨hq.ok.choose_spec, _, rest, hs, ho, ?_⟩
  rw [hwritten, Link.step]
  simp only [hact, and_true]
  exact ⟨hc.here.faults, he⟩

theorem Chronicled.reopens (h : l.Chronicled p q a b) (hr : l.toRight = []) (hl : l.toLeft = []) :
    l.Reopens p q := by
  have hn := h.chronicle
  rw [hl, hr] at hn
  obtain ⟨i, hi⟩ := hn.here.recalls.window
  obtain ⟨j, hj⟩ := hn.there.recalls.window
  have hk : l.left.session.window.outstanding.size ≤ p.k := by
    rw [hi.tracks.size_outstanding, ← hn.here.recalls.parameters]
    exact hi.tracks.capacity ▸ hi.tracks.within
  have hb : l.left.session.window.outstanding.size = l.right.session.window.unconfirmed := by
    -- No more than k frames are outstanding, so the count of them has not stopped.
    have hc := hn.here.capacity
    have hs := hn.size_outstanding
    have hu := hj.unconfirmed
    simp only [sequenceModulus] at hc
    omega
  refine ⟨hb, le_min hk (hb ▸ hn.there.unconfirmed), fun h0 => ?_⟩
  cases hf : b.unacknowledged.head? with
  | none =>
    rw [hn.size_outstanding, List.head?_eq_none_iff.1 hf] at h0
    exact absurd rfl h0
  | some first =>
    have hd : l.right.session.window.ackDeadline = some (first + q.t2) := by
      rw [hn.there.recalls.ackDeadline_eq, hf]
      rfl
    refine ⟨first + q.t2, hd, fun now later hle ht => h.acknowledges hr hl ?_ ht later⟩
    rw [Window.ackRequired, hd, Option.any_some, decide_eq_true hle, Bool.or_true]

/-- **The window reopens.** In every state that a run of two ends with valid parameters reaches and in which
nothing is in flight, what awaits its acknowledgement at either end is what the other end is to acknowledge,
and it is acknowledged when that end's t2 has run out. -/
theorem run_reopens (p q : Parameters) (hp : p.validate = .ok ()) (hq : q.validate = .ok ()) (t u : Millis)
    (moves : List Move) (hm : ∀ m ∈ moves, m.action.Admissible)
    (hr : ((start p q t u).run moves).toRight = []) (hl : ((start p q t u).run moves).toLeft = []) :
    ((start p q t u).run moves).Reopens p q ∧ ((start p q t u).run moves).swap.Reopens q p := by
  have hk := Nat.lt_succ_of_le (Parameters.Valid.of_validate hp).k_le
  have hk' := Nat.lt_succ_of_le (Parameters.Valid.of_validate hq).k_le
  obtain ⟨a, b, h⟩ := (chronicled_start hk hk' t u).run hm
  exact ⟨h.reopens hr hl, h.swap.reopens hl hr⟩

/-- A window of two frames that is full: the first I-frame was acknowledged by one from the other end, the two
that followed are not acknowledged yet. -/
theorem run_reopens_full :
    let p : Parameters := { k := 2 }
    let q : Parameters := { w := 3 }
    let moves : List Move :=
      [⟨.left, 0, .send [1]⟩, ⟨.right, 1, .receive⟩, ⟨.right, 2, .send [2]⟩, ⟨.left, 3, .receive⟩,
        ⟨.left, 4, .send [3]⟩, ⟨.left, 5, .send [4]⟩, ⟨.right, 6, .receive⟩, ⟨.right, 7, .receive⟩]
    let l := (start p q 0 0).run moves
    (p.validate = .ok () ∧ q.validate = .ok () ∧ ∀ m ∈ moves, m.action.Admissible) ∧
      (l.toRight = [] ∧ l.toLeft = []) ∧
      (l.left.session.window.canSend = false ∧ l.right.session.window.ackDeadline = some 10006) ∧
      l.Reopens p q ∧ l.swap.Reopens q p := by
  intro p q moves l
  have hm : ∀ m ∈ moves, m.action.Admissible := by
    simp [moves, Action.Admissible, Apdu.maxAsduLength, Apdu.maxLength, Apdu.minLength]
  have hr : l.toRight = [] := by decide
  have hl : l.toLeft = [] := by decide
  exact ⟨⟨rfl, rfl, hm⟩, ⟨hr, hl⟩, ⟨by decide, by decide⟩, run_reopens p q rfl rfl 0 0 moves hm hr hl⟩

end Link

end Telecontrol
