import Telecontrol.Proofs.Link.Transit
import Telecontrol.Proofs.Parameters

/-!
# Two ends and the octets between them

Two sessions whose streams carry every octet in order. Over any run in which the ends send ASDUs and
U-frames, handle their timers and receive frames, in any order, no reception fails and every ASDU that
was accepted for sending is handed up once, in order, or still in flight.

* `Endpoint`: a session with what it accepted, what it handed up and how its receptions failed.
* `Link`: the two ends and the octets on their way; `Link.run` lets the ends act.
* `Conversation`: the invariant, the same for either end; `Conversation.act` is one action of an end.
* `Link.run_delivers`: what holds in every state that a run reaches.
-/

namespace Telecontrol

open Apci (sequenceModulus)

/-- One end of a link: its session, the ASDUs that were accepted for sending, those that were
handed up, and how receptions failed. -/
structure Endpoint where
  session : Session
  accepted : List Octets := []
  delivered : List Octets := []
  faults : List Fault := []

/-- What an end of a link does. -/
inductive Action where
  | send (asdu : Octets)
  | control (function : ControlFunction)
  | timer
  | receive
  deriving DecidableEq, Repr

/-- An action that an application can take: an ASDU fits into a frame and a function is defined. -/
def Action.Admissible : Action → Prop
  | send asdu => 0 < asdu.length ∧ asdu.length ≤ Apdu.maxAsduLength
  | control function => function.Defined
  | timer | receive => True

namespace Endpoint

def start (p : Parameters) (now : Millis) : Endpoint := { session := .start p now }

/-- Records how the reception of a frame ended. -/
def record (e : Endpoint) : Except Fault Inbound → Endpoint
  | .ok (.asdu asdu) => { e with delivered := e.delivered ++ [asdu] }
  | .ok _ => e
  | .error fault => { e with faults := e.faults ++ [fault] }

/-- An action of an end to which `incoming` is on the way: the end, the octets still on the way to it and
the octets that it writes. -/
def act (e : Endpoint) (now : Millis) (incoming : Octets) : Action → Endpoint × Octets × Octets
  | .send asdu =>
    let o := e.session.sendInformation asdu now
    let accepted := if o.result.isOk then e.accepted ++ [asdu] else e.accepted
    ({ e with session := o.session, accepted }, incoming, Apdu.wire o.written)
  | .control function =>
    let o := e.session.sendControl function now
    ({ e with session := o.session }, incoming, Apdu.wire o.written)
  | .timer =>
    let o := e.session.onTimer now
    ({ e with session := o.session }, incoming, Apdu.wire o.written)
  | .receive =>
    match Apdu.decode incoming with
    | .incomplete => (e, incoming, [])
    | .refused fault => (e.record (.error fault), incoming, [])
    | .frame _ rest (.error fault) => (e.record (.error fault), rest, [])
    | .frame _ rest (.ok frame) =>
      let o := e.session.receive frame now
      ({ e with session := o.session }.record o.result, rest, Apdu.wire o.written)

end Endpoint

inductive Side where
  | left
  | right
  deriving DecidableEq, Repr

structure Move where
  side : Side
  now : Millis
  action : Action
  deriving DecidableEq, Repr

/-- Two ends and the octets on the way between them. -/
structure Link where
  left : Endpoint
  right : Endpoint
  toLeft : Octets := []
  toRight : Octets := []

namespace Link

/-- A link between two fresh sessions, each with parameters and a start of its own. -/
def start (p q : Parameters) (t u : Millis) : Link := { left := .start p t, right := .start q u }

def step (l : Link) (m : Move) : Link :=
  match m.side with
  | .left =>
    let (left, toLeft, written) := l.left.act m.now l.toLeft m.action
    { l with left, toLeft, toRight := l.toRight ++ written }
  | .right =>
    let (right, toRight, written) := l.right.act m.now l.toRight m.action
    { l with right, toRight, toLeft := l.toLeft ++ written }

def run (l : Link) (moves : List Move) : Link := moves.foldl step l

end Link

/-! ## The invariant -/

/-- An end whose session writes, tracks an ideal window and has received without a fault. -/
structure Endpoint.Sound (e : Endpoint) (i : IdealWindow) : Prop where
  writable : e.session.writable = true
  tracks : e.session.window.Tracks i
  capacity : i.capacity < sequenceModulus
  faults : e.faults = []

/-- The octets from an end `e` to an end `f` are those of frames in transit, and their ASDUs are what `f`
has not handed up yet. -/
def Carries (e : Endpoint) (i : IdealWindow) (octets : Octets) (f : Endpoint) (j : IdealWindow) : Prop :=
  ∃ frames, octets = Apdu.wire frames ∧ Transit i.sent i.received j.received j.acked frames ∧
    e.accepted = f.delivered ++ payloads frames

/-- Two sound ends and what is in flight between them, seen from the end `e`. -/
structure Conversation (e : Endpoint) (i : IdealWindow) (incoming outgoing : Octets) (f : Endpoint)
    (j : IdealWindow) : Prop where
  here : e.Sound i
  there : f.Sound j
  outgoing : Carries e i outgoing f j
  incoming : Carries f j incoming e i

namespace Conversation

variable {e f : Endpoint} {i j : IdealWindow} {incoming outgoing : Octets}

theorem swap (h : Conversation e i incoming outgoing f j) :
    Conversation f j outgoing incoming e i :=
  ⟨h.there, h.here, h.incoming, h.outgoing⟩

/-- A quiet operation of an end adds its frames to those in flight. -/
theorem write_quiet {α : Type} {o : Session.Outcome α} (h : Conversation e i incoming outgoing f j)
    (hq : Session.Quiet e.session.window o) :
    Conversation { e with session := o.session } i incoming (outgoing ++ Apdu.wire o.written) f j where
  here := by
    refine ⟨hq.writable, ?_, h.here.capacity, h.here.faults⟩
    rcases hq.window with hw | hw <;> rw [hw]
    · exact h.here.tracks
    · exact h.here.tracks.confirmed
  there := h.there
  outgoing := by
    obtain ⟨frames, rfl, ht, ha⟩ := h.outgoing
    have hr := h.here.tracks.receiveCount
    refine ⟨frames ++ o.written, (Apdu.wire_append _ _).symm, ht.append_quiet (hr ▸ hq.written), ?_⟩
    rw [payloads_append, payloads_quiet hq.written, List.append_nil]
    exact ha
  incoming := h.incoming

/-- An accepted ASDU goes out in the next I-frame, behind the frames in flight. -/
theorem send (h : Conversation e i incoming outgoing f j) (hc : e.session.window.canSend = true)
    {asdu : Octets} (now : Millis) (ha : (Action.send asdu).Admissible) :
    let o := e.session.sendInformation asdu now
    Conversation { e with session := o.session, accepted := e.accepted ++ [asdu] }
      { i with sent := i.sent + 1 } incoming (outgoing ++ Apdu.wire o.written) f j := by
  rw [Session.sendInformation_ok h.here.writable hc ha.1 ha.2]
  refine ⟨⟨h.here.writable, h.here.tracks.prepareInformation hc now, h.here.capacity, h.here.faults⟩,
    h.there, ?_, h.incoming⟩
  obtain ⟨frames, rfl, ht, hp⟩ := h.outgoing
  rw [h.here.tracks.sendCount, h.here.tracks.receiveCount, ← Apdu.wire_append]
  refine ⟨_, rfl, ht.snoc_information ha, ?_⟩
  rw [payloads_append, ← List.append_assoc, ← hp]
  rfl

/-- Whatever is in flight can be acknowledged: its numbers lie between what this end knows to be
acknowledged and what it has sent. -/
theorem acks (h : Conversation e i incoming outgoing f j) {r : Nat} (hl : i.acked ≤ r)
    (hr : r ≤ j.received) : i.Acks (r % sequenceModulus) r := by
  obtain ⟨frames, -, ht, -⟩ := h.outgoing
  exact ⟨hl, hr.trans ht.next_le_sent, (Nat.mod_mod r sequenceModulus).symm⟩

/-- More that this end has received is no burden to what is on its way from it. -/
theorem outgoing_raise (h : Conversation e i incoming outgoing f j) {i' : IdealWindow}
    {e' : Endpoint} (hs : i'.sent = i.sent) (hr : i.received ≤ i'.received)
    (ha : e'.accepted = e.accepted) : Carries e' i' outgoing f j := by
  obtain ⟨frames, ho, ht, hp⟩ := h.outgoing
  exact ⟨frames, ho, hs ▸ ht.raise hr, ha ▸ hp⟩

/-- The frame in front is received with its numbers as the wire carries them. -/
theorem act_receive (e : Endpoint) (now : Millis) {a : Apdu} {frames : List Apdu} (ha : a.Normal) :
    e.act now (Apdu.wire (a :: frames)) .receive =
      ({ e with session := (e.session.receive a.reduced now).session }.record
          (e.session.receive a.reduced now).result,
        Apdu.wire frames, Apdu.wire (e.session.receive a.reduced now).written) := by
  rw [Apdu.wire_cons, Endpoint.act, Apdu.decode_octets ha]

/-- The next frame in flight is received without a fault; an ASDU is handed up. -/
theorem receive (h : Conversation e i incoming outgoing f j) (now : Millis) :
    ∃ i', Conversation (e.act now incoming .receive).1 i' (e.act now incoming .receive).2.1
      (outgoing ++ (e.act now incoming .receive).2.2) f j := by
  obtain ⟨frames, rfl, ht, hp⟩ := h.incoming
  have hw := h.here.writable
  have htracks := h.here.tracks
  have hnormal := ht.normal
  -- The indices of `Transit` must be variables for the case split on the frames in flight.
  generalize hnext : i.received = next at ht
  generalize hlow : i.acked = low at ht
  cases ht with
  | nil hr =>
    refine ⟨i, ?_⟩
    rw [show e.act now (Apdu.wire []) .receive = (e, Apdu.wire [], []) from rfl, List.append_nil]
    exact h
  | @information _ _ r asdu frames hr hn ht =>
    subst hnext hlow
    have hfront := hnormal _ List.mem_cons_self
    have hacks := h.acks hr ht.low_le_high
    have hwin := htracks.onInformation_ok h.here.capacity rfl hacks now
    obtain ⟨hq, hres⟩ := Session.receive_information hw asdu hwin
    rw [act_receive e now hfront.1, hfront.2, hres]
    refine ⟨{ i with acked := r, received := i.received + 1 }, write_quiet (e :=
      { e with
        session := { e.session.counted now with
          window := (e.session.window.release (r - i.acked)).countReceived now }
        delivered := e.delivered ++ [asdu] })
      ⟨⟨hw, (htracks.release hacks).countReceived now, h.here.capacity, h.here.faults⟩, h.there,
        h.outgoing_raise rfl (Nat.le_succ _) rfl, ?_⟩ hq⟩
    refine ⟨frames, rfl, ht, ?_⟩
    rw [hp, List.append_assoc]
    rfl
  | @supervisory _ _ r frames hr ht =>
    subst hnext hlow
    have hfront := hnormal _ List.mem_cons_self
    have hacks := h.acks hr ht.low_le_high
    have hwin := htracks.acknowledge_ok h.here.capacity hacks
    obtain ⟨hq, hres⟩ := Session.receive_supervisory hw now hwin
    rw [act_receive e now hfront.1, hfront.2, hres]
    exact ⟨{ i with acked := r }, write_quiet (e :=
      { e with
        session := { e.session.counted now with window := e.session.window.release (r - i.acked) } })
      ⟨⟨hw, htracks.release hacks, h.here.capacity, h.here.faults⟩, h.there,
        h.outgoing_raise rfl (Nat.le_refl _) rfl, frames, rfl, ht, hp⟩ hq⟩
  | @unnumbered _ _ function frames hd ht =>
    subst hnext hlow
    have hfront := hnormal _ List.mem_cons_self
    obtain ⟨hq, hres⟩ := Session.receive_unnumbered hw now function
    rw [act_receive e now hfront.1, hfront.2]
    obtain ⟨inbound, hok⟩ := hq.ok
    have hrec : ∀ e : Endpoint, e.record (.ok inbound) = e := by
      intro e
      cases inbound with
      | asdu bs => exact absurd hok (hres bs)
      | control g => rfl
      | handled => rfl
    rw [hok, hrec]
    exact ⟨i, write_quiet ⟨h.here, h.there, h.outgoing, frames, rfl, ht, hp⟩ hq⟩

theorem act (h : Conversation e i incoming outgoing f j) (now : Millis) {action : Action}
    (ha : action.Admissible) :
    ∃ i', Conversation (e.act now incoming action).1 i' (e.act now incoming action).2.1
      (outgoing ++ (e.act now incoming action).2.2) f j := by
  cases action with
  | send asdu =>
    cases hc : e.session.window.canSend with
    | true =>
      refine ⟨{ i with sent := i.sent + 1 }, ?_⟩
      have := h.send hc now ha
      rw [Session.sendInformation_ok h.here.writable hc ha.1 ha.2] at this
      rw [Endpoint.act, Session.sendInformation_ok h.here.writable hc ha.1 ha.2]
      exact this
    | false =>
      refine ⟨i, ?_⟩
      rw [Endpoint.act, Session.sendInformation_full hc]
      simpa [Session.Outcome.fail, Apdu.wire, Except.isOk, Except.toBool] using h
  | control function => exact ⟨i, h.write_quiet (Session.sendControl_quiet h.here.writable ha)⟩
  | timer =>
    cases ht : e.session.t1Expired now with
    | false => exact ⟨i, h.write_quiet (Session.onTimer_quiet h.here.writable ht)⟩
    | true =>
      refine ⟨i, ?_⟩
      rw [Endpoint.act, Session.onTimer_expired ht]
      simpa [Session.Outcome.fail, Apdu.wire] using h
  | receive => exact h.receive now

end Conversation

/-- What was accepted at one end and not handed up at the other is what the octets in flight hold, and
these are whole frames. -/
theorem Carries.in_flight {e f : Endpoint} {i j : IdealWindow} {octets : Octets}
    (h : Carries e i octets f j) :
    e.accepted = f.delivered ++ payloads (Apdu.decodeAll octets).apdus ∧
      (Apdu.decodeAll octets).fault = none ∧ (Apdu.decodeAll octets).rest = [] := by
  obtain ⟨frames, rfl, ht, ha⟩ := h
  rw [Apdu.decodeAll_wire frames fun a hf => (ht.normal a hf).1]
  exact ⟨(payloads_reduced frames).symm ▸ ha, rfl, rfl⟩

namespace Link

variable {l : Link}

/-- Both ends are sound and everything in flight is accounted for. -/
def Sound (l : Link) : Prop := ∃ i j, Conversation l.left i l.toLeft l.toRight l.right j

theorem sound_start {p q : Parameters} (hp : p.k < sequenceModulus) (hq : q.k < sequenceModulus)
    (t u : Millis) : (start p q t u).Sound :=
  ⟨.start p.k, .start q.k, ⟨rfl, Window.tracks_start p, hp, rfl⟩, ⟨rfl, Window.tracks_start q, hq, rfl⟩,
    ⟨[], rfl, .nil (Nat.le_refl 0), rfl⟩, [], rfl, .nil (Nat.le_refl 0), rfl⟩

theorem Sound.step (h : l.Sound) {m : Move} (hm : m.action.Admissible) : (l.step m).Sound := by
  obtain ⟨i, j, h⟩ := h
  rw [Link.step]
  cases m.side with
  | left =>
    obtain ⟨i', h'⟩ := h.act m.now hm
    exact ⟨i', j, h'⟩
  | right =>
    obtain ⟨j', h'⟩ := h.swap.act m.now hm
    exact ⟨i, j', h'.swap⟩

theorem Sound.run (h : l.Sound) {moves : List Move} (hm : ∀ m ∈ moves, m.action.Admissible) :
    (l.run moves).Sound := by
  induction moves generalizing l with
  | nil => exact h
  | cons m moves ih => exact ih (h.step (hm m (by simp))) fun n hn => hm n (by simp [hn])

/-- **A link delivers.** Between two sessions with valid parameters no reception ever fails, and in
either direction the accepted ASDUs are those handed up followed by those in flight. -/
theorem run_delivers (p q : Parameters) (hp : p.validate = .ok ()) (hq : q.validate = .ok ())
    (t u : Millis) (moves : List Move) (hm : ∀ m ∈ moves, m.action.Admissible) :
    let l := (start p q t u).run moves
    let right := Apdu.decodeAll l.toRight
    let left := Apdu.decodeAll l.toLeft
    (l.left.faults = [] ∧ l.right.faults = []) ∧
      (l.left.accepted = l.right.delivered ++ payloads right.apdus ∧
        right.fault = none ∧ right.rest = []) ∧
      (l.right.accepted = l.left.delivered ++ payloads left.apdus ∧
        left.fault = none ∧ left.rest = []) := by
  have hk := Nat.lt_succ_of_le (Parameters.Valid.of_validate hp).k_le
  have hk' := Nat.lt_succ_of_le (Parameters.Valid.of_validate hq).k_le
  obtain ⟨i, j, h⟩ := (sound_start hk hk' t u).run hm
  exact ⟨⟨h.here.faults, h.there.faults⟩, h.outgoing.in_flight, h.incoming.in_flight⟩

/-- A window of one frame: the second ASDU is refused until the first is acknowledged, and crosses a
link test. -/
theorem run_delivers_narrow :
    let p : Parameters := { k := 1 }
    let q : Parameters := { w := 1 }
    let moves : List Move :=
      [⟨.left, 0, .send [1]⟩, ⟨.left, 1, .send [2]⟩, ⟨.right, 2, .receive⟩,
        ⟨.right, 12000, .timer⟩, ⟨.right, 12001, .control .testAct⟩, ⟨.left, 12002, .receive⟩,
        ⟨.left, 12003, .send [3, 4]⟩, ⟨.left, 12004, .receive⟩]
    let l := (start p q 0 0).run moves
    let right := Apdu.decodeAll l.toRight
    let left := Apdu.decodeAll l.toLeft
    (p.validate = .ok () ∧ q.validate = .ok () ∧ ∀ m ∈ moves, m.action.Admissible) ∧
      (l.left.accepted = [[1], [3, 4]] ∧ l.right.delivered = [[1]]) ∧
      (l.left.faults = [] ∧ l.right.faults = []) ∧
      (l.left.accepted = l.right.delivered ++ payloads right.apdus ∧
        right.fault = none ∧ right.rest = []) ∧
      (l.right.accepted = l.left.delivered ++ payloads left.apdus ∧
        left.fault = none ∧ left.rest = []) := by
  have hm : ∀ m ∈ ([⟨.left, 0, .send [1]⟩, ⟨.left, 1, .send [2]⟩, ⟨.right, 2, .receive⟩,
      ⟨.right, 12000, .timer⟩, ⟨.right, 12001, .control .testAct⟩, ⟨.left, 12002, .receive⟩,
      ⟨.left, 12003, .send [3, 4]⟩, ⟨.left, 12004, .receive⟩] : List Move), m.action.Admissible := by
    simp [Action.Admissible, ControlFunction.Defined, Apdu.maxAsduLength, Apdu.maxLength,
      Apdu.minLength]
  exact ⟨⟨rfl, rfl, hm⟩, ⟨by decide, by decide⟩,
    run_delivers { k := 1 } { w := 1 } rfl rfl 0 0 _ hm⟩

end Link

end Telecontrol
