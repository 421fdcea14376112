import Telecontrol.Proofs.Link.Delivery
import Telecontrol.Proofs.Session.Acknowledgement

/-!
# The logs of two ends

What the log of one end of a link says about the log of the other.

* `Log.frames`, `Log.granted`: the frames of one direction, and how many of the received I-frames have been
  acknowledged by what was sent.
* `Log.Reaches`: the frames that one end sent are those that the other received and those in flight, and
  what the other takes to be acknowledged is what had been acknowledged when the last of the received ones
  was sent. `Log.Reaches.front` is the reception of one more.
* `Chronicle`: two sessions that hold what their logs tell, one lemma for every action.
* `Link.Chronicled`: a link with such logs; every run keeps them (`Link.Chronicled.run`).
-/

namespace Telecontrol

open Apci (sequenceModulus)

theorem Apdu.wire_eq_nil {frames : List Apdu} (hn : ∀ f ∈ frames, f.Normal) (h : wire frames = []) :
    frames = [] := by
  cases frames with
  | nil => rfl
  | cons f frames =>
    rw [wire_cons, (hn f List.mem_cons_self).octets_eq] at h
    cases h

theorem Apci.receiveNumber?_reduced (a : Apci) :
    a.reduced.receiveNumber? = a.receiveNumber?.map (· % sequenceModulus) := by
  cases a <;> rfl

namespace Log

variable {a b log more : Log} {x : Passage} {octets : Octets} {direction : Direction} {now : Millis}

/-- The frames of one direction, in order. -/
def frames (direction : Direction) (log : Log) : List Apdu :=
  (log.filter (·.direction == direction)).map (·.frame)

theorem frames_append (direction : Direction) (log more : Log) :
    frames direction (log ++ more) = log.frames direction ++ frames direction more := by
  rw [frames, List.filter_append, List.map_append]
  rfl

theorem frames_concat (direction : Direction) (log : Log) (x : Passage) :
    frames direction (log ++ [x]) =
      log.frames direction ++ if x.direction == direction then [x.frame] else [] := by
  rw [frames_append, frames, frames, List.filter_singleton]
  cases x.direction == direction with
  | true => rfl
  | false => rfl

theorem frames_map (direction d : Direction) (now : Millis) (written : List Apdu) :
    frames direction (written.map (Passage.mk now d)) = if d = direction then written else [] := by
  have hc : (fun f : Apdu => (Passage.mk now d f).frame) = id := rfl
  rw [frames, List.filter_map, List.map_map]
  split
  · rename_i hd
    simp [Function.comp_def, hd, hc]
  · rename_i hd
    simp [Function.comp_def, hd]

theorem length_informationTimes (direction : Direction) (log : Log) :
    (log.informationTimes direction).length = (log.frames direction).countP (·.apci.isInformation) := by
  rw [informationTimes, List.length_map, frames, List.countP_map, List.countP_filter,
    List.countP_eq_length_filter]
  congr 2
  funext x
  exact Bool.and_comm _ _

/-! ## What has been acknowledged -/

/-- How many of the received I-frames have been acknowledged by what was sent. -/
def granted (log : Log) : Nat := log.receivedTimes.length - log.unacknowledged.length

theorem unacknowledged_suffix (log : Log) : log.unacknowledged <:+ log.receivedTimes :=
  ((List.rtakeWhile_suffix _ _).filter _).map _

theorem granted_add (log : Log) :
    log.granted + log.unacknowledged.length = log.receivedTimes.length :=
  Nat.sub_add_cancel log.unacknowledged_suffix.length_le

theorem drop_granted (log : Log) : log.receivedTimes.drop log.granted = log.unacknowledged :=
  (List.suffix_iff_eq_drop.1 log.unacknowledged_suffix).symm

theorem granted_le (log : Log) : log.granted ≤ log.receivedTimes.length := Nat.sub_le _ _

theorem granted_received (hd : x.direction = .received) : granted (log ++ [x]) = log.granted := by
  have hr : receivedTimes (log ++ [x]) =
      log.receivedTimes ++ if x.frame.apci.isInformation then [x.time] else [] := by
    simp [receivedTimes, informationTimes_concat, hd]
  rw [granted, granted, unacknowledged_received hd, hr, List.length_append, List.length_append]
  exact Nat.add_sub_add_right _ _ _

theorem granted_sent (hd : x.direction = .sent) : granted (log ++ [x]) =
    if x.frame.apci.receiveNumber?.isSome then log.receivedTimes.length else log.granted := by
  rw [granted, unacknowledged_sent hd, receivedTimes_sent hd]
  split
  · rfl
  · rfl

theorem direction_of_ne_sent (h : ∀ x ∈ more, ¬ (x.direction == .sent) = true) :
    ∀ x ∈ more, x.direction = .received := fun x hx => by
  cases hd : x.direction with
  | received => rfl
  | sent => exact absurd (beq_iff_eq.2 hd) (h x hx)

theorem granted_append_received (hd : ∀ x ∈ more, x.direction = .received) :
    granted (log ++ more) = log.granted := by
  induction more using List.reverseRecOn with
  | nil => rw [List.append_nil]
  | append_singleton more x ih =>
    rw [← List.append_assoc, granted_received (hd x (by simp))]
    exact ih fun y hy => hd y (by simp [hy])

theorem acknowledged_append_sent {n : Nat} (hd : ∀ x ∈ more, x.direction = .sent) :
    Acknowledged (log ++ more) n ↔ log.Acknowledged n := by
  induction more using List.reverseRecOn with
  | nil => rw [List.append_nil]
  | append_singleton more x ih =>
    rw [← List.append_assoc, acknowledged_sent (hd x (by simp))]
    exact ih fun y hy => hd y (by simp [hy])

theorem length_informationTimes_append (direction : Direction) (log more : Log) :
    (log.informationTimes direction).length ≤ (informationTimes direction (log ++ more)).length := by
  rw [informationTimes_append, List.length_append]
  exact Nat.le_add_right _ _

/-! ## What has reached the other end -/

/-- The end with the log `b` knows what the other one did up to `before`: it has received the frames that
were sent by then and takes for acknowledged what had been acknowledged by then. The frames that were sent
`after` are on the way. -/
structure Arrived (before after b : Log) (octets : Octets) : Prop where
  frames : b.frames .received = (before.frames .sent).map Apdu.reduced
  octets : octets = Apdu.wire (after.frames .sent)
  normal : ∀ f ∈ after.frames .sent, f.Normal
  acknowledged : ∀ n, b.Acknowledged n ↔ n < before.granted

/-- What the end with the log `a` sent has reached the end with the log `b`, but for what is on the way. -/
def Reaches (a b : Log) (octets : Octets) : Prop :=
  ∃ before after, a = before ++ after ∧ Arrived before after b octets

namespace Reaches

theorem nil : Reaches [] [] [] :=
  ⟨[], [], rfl, rfl, rfl, nofun, fun n => ⟨fun ⟨_, _, _, _, hp, _⟩ => absurd (List.prefix_nil.1 hp) (by simp),
    fun h => absurd h (Nat.not_lt_zero n)⟩⟩

/-- What is sent is on the way. -/
theorem append_left (h : a.Reaches b octets) (hn : ∀ f ∈ more.frames .sent, f.Normal) :
    Reaches (a ++ more) b (octets ++ Apdu.wire (more.frames .sent)) := by
  obtain ⟨before, after, rfl, h⟩ := h
  refine ⟨before, after ++ more, List.append_assoc _ _ _, h.frames, ?_, ?_, h.acknowledged⟩
  · rw [frames_append, Apdu.wire_append, h.octets]
  · rw [frames_append]
    exact List.forall_mem_append.2 ⟨h.normal, hn⟩

/-- What the other end sends says nothing about what has reached it. -/
theorem append_right (h : a.Reaches b octets) (written : List Apdu) :
    a.Reaches (b ++ written.map (Passage.mk now .sent)) octets := by
  obtain ⟨before, after, rfl, h⟩ := h
  refine ⟨before, after, rfl, ?_, h.octets, h.normal, fun n => ?_⟩
  · rw [frames_append, frames_map, if_neg nofun, List.append_nil]
    exact h.frames
  · rw [acknowledged_append_sent fun x hx => (of_mem_map hx).2]
    exact h.acknowledged n

end Reaches

theorem Arrived.length_receivedTimes {before after : Log} (h : Arrived before after b octets) :
    b.receivedTimes.length = before.sentTimes.length := by
  have hi : (fun f : Apdu => f.apci.isInformation) ∘ Apdu.reduced = fun f => f.apci.isInformation :=
    funext fun f => Apci.isInformation_reduced f.apci
  rw [receivedTimes, sentTimes, length_informationTimes, length_informationTimes, h.frames,
    List.countP_map, hi]

theorem Reaches.length_receivedTimes_le (h : a.Reaches b octets) :
    b.receivedTimes.length ≤ a.sentTimes.length := by
  obtain ⟨before, after, rfl, h⟩ := h
  rw [h.length_receivedTimes]
  exact length_informationTimes_append _ _ _

/-- With nothing on the way the other end knows everything. -/
theorem Reaches.settled (h : a.Reaches b []) :
    b.receivedTimes.length = a.sentTimes.length ∧ ∀ n, b.Acknowledged n ↔ n < a.granted := by
  obtain ⟨before, after, rfl, h⟩ := h
  have hs : after.frames .sent = [] := Apdu.wire_eq_nil h.normal h.octets.symm
  rw [granted_append_received (direction_of_ne_sent (List.filter_eq_nil_iff.1 (List.map_eq_nil_iff.1 hs)))]
  refine ⟨?_, h.acknowledged⟩
  rw [h.length_receivedTimes, sentTimes, sentTimes, length_informationTimes, length_informationTimes,
    frames_append, hs, List.append_nil]

/-- A frame that is received brings along what had been acknowledged when it was sent. -/
theorem acknowledged_reduced_iff {before : Log} {w : Window} {i : IdealWindow} (hb : w.Recalls i b)
    (hk : i.capacity < sequenceModulus) (hack : ∀ n, b.Acknowledged n ↔ n < before.granted)
    (hle : before.receivedTimes.length ≤ i.sent) (hd : x.direction = .sent)
    (hx : ∀ r, x.frame.apci.receiveNumber? = some r → r = before.receivedTimes.length % sequenceModulus)
    (n : Nat) : Acknowledged (b ++ [⟨now, .received, x.frame.reduced⟩]) n ↔ n < granted (before ++ [x]) := by
  have hr : x.frame.reduced.apci.receiveNumber? = x.frame.apci.receiveNumber?.map (· % sequenceModulus) :=
    Apci.receiveNumber?_reduced x.frame.apci
  rw [granted_sent hd]
  cases hn : x.frame.apci.receiveNumber? with
  | none =>
    rw [Option.isSome_none, if_neg Bool.false_ne_true, ← hack, acknowledged_concat]
    simp [hr, hn]
  | some r =>
    -- The number counts the receptions before it, and no other counter that it can stand for does.
    obtain rfl := hx r hn
    have hi : i.acked = before.granted := eq_of_forall_lt_iff fun n => (hb.acked n).trans (hack n)
    have hacks : i.Acks (before.receivedTimes.length % sequenceModulus) before.receivedTimes.length :=
      ⟨hi ▸ before.granted_le, hle, (Nat.mod_mod _ _).symm⟩
    rw [Option.isSome_some, if_pos rfl]
    exact (hb.lt_acks_iff hk hacks rfl (by simp [hr, hn])).symm

/-- The next frame on the way, if there is one, and its reception. -/
theorem Reaches.front (h : a.Reaches b octets) (ha : a.Stamped)
    (hr : a.receivedTimes.length ≤ b.sentTimes.length) {w : Window} {i : IdealWindow} (hb : w.Recalls i b)
    (hk : i.capacity < sequenceModulus) : octets = [] ∨ ∃ f rest, octets = Apdu.wire (f :: rest) ∧ f.Normal ∧
      ∀ now, a.Reaches (b ++ [⟨now, .received, f.reduced⟩]) (Apdu.wire rest) := by
  obtain ⟨before, after, rfl, h⟩ := h
  cases hs : after.frames .sent with
  | nil =>
    rw [h.octets, hs]
    exact .inl rfl
  | cons f rest =>
    refine .inr ⟨f, rest, hs ▸ h.octets, h.normal f (by simp [hs]), fun now => ?_⟩
    obtain ⟨x, sent, hl, rfl, rfl⟩ := List.map_eq_cons_iff.1 hs
    obtain ⟨skip, later, rfl, hskip, hd, rfl⟩ := List.filter_eq_cons_iff.1 hl
    have hd : x.direction = .sent := eq_of_beq hd
    have hg : granted (before ++ skip) = before.granted := granted_append_received (direction_of_ne_sent hskip)
    have hn : frames .sent skip = [] := List.map_eq_nil_iff.2 (List.filter_eq_nil_iff.2 hskip)
    have hsplit : before ++ (skip ++ x :: later) = before ++ skip ++ ([x] ++ later) := by simp
    rw [hsplit] at ha hr ⊢
    have hle : (receivedTimes (before ++ skip)).length ≤ i.sent :=
      hb.sent ▸ (length_informationTimes_append _ _ _).trans hr
    have hx := (ha (before ++ skip) x (List.append_assoc _ [x] later ▸ List.prefix_append _ _) hd).1
    refine ⟨before ++ skip ++ [x], later, (List.append_assoc _ _ _).symm, ?_, rfl, fun g hf => h.normal g ?_,
      acknowledged_reduced_iff hb hk (hg ▸ h.acknowledged) hle hd hx⟩
    · rw [frames_concat, frames_concat, frames_append, hn, hd, List.append_nil, List.map_append, h.frames]
      rfl
    · rw [hs]
      exact List.mem_cons_of_mem _ hf

end Log

/-! ## Sessions and their logs -/

namespace Session

variable {p : Parameters} {s : Session} {log : Log} {now : Millis}

/-- A session that holds what its log tells and does not rest on more receptions than its window allows. -/
structure Chronicled (p : Parameters) (s : Session) (log : Log) : Prop where
  recalls : s.Recalls p log
  unconfirmed : s.window.unconfirmed ≤ p.w
  capacity : p.k < sequenceModulus

theorem Chronicled.start (hk : p.k < sequenceModulus) (now : Millis) : (Session.start p now).Chronicled p [] :=
  ⟨.start p now, Nat.zero_le _, hk⟩

theorem Chronicled.perform (h : s.Chronicled p log) {event : Event}
    (ho : (s.perform now event).result = .ok ()) : (s.perform now event).session.Chronicled p
      (log ++ event.received.map (Passage.mk now .received) ++
        (s.perform now event).written.map (Passage.mk now .sent)) where
  recalls := keeps_perform h.capacity h.recalls event () ho
  unconfirmed := (acknowledges_perform h.capacity h.recalls h.unconfirmed event () ho).2
  capacity := h.capacity

theorem perform_receive {frame : Apdu} {inbound : Inbound} (h : (s.receive frame now).result = .ok inbound) :
    s.perform now (.receive frame) =
      ⟨(s.receive frame now).session, (s.receive frame now).written, .ok ()⟩ := by
  simp only [perform, Outcome.andThen, h, Outcome.done, List.append_nil]

end Session

/-- Two sessions that hold what their logs tell, and what the logs tell of each other, seen from `s`. -/
structure Chronicle (p : Parameters) (s : Session) (a : Log) (incoming outgoing : Octets) (q : Parameters)
    (t : Session) (b : Log) : Prop where
  here : s.Chronicled p a
  there : t.Chronicled q b
  outgoing : a.Reaches b outgoing
  incoming : b.Reaches a incoming

namespace Chronicle

open Session (Event)

variable {p q : Parameters} {s t : Session} {a b : Log} {incoming outgoing : Octets} {now : Millis}

theorem swap (h : Chronicle p s a incoming outgoing q t b) : Chronicle q t b outgoing incoming p s a :=
  ⟨h.there, h.here, h.incoming, h.outgoing⟩

/-- What a session does goes into its log, and what it writes is on the way. -/
theorem perform (h : Chronicle p s a incoming outgoing q t b) (now : Millis) (event : Event)
    (ho : (s.perform now event).result = .ok ()) (hn : (s.perform now event).Writes Apdu.Normal)
    {left : Octets} (hl : b.Reaches (a ++ event.received.map (Passage.mk now .received)) left) :
    ∃ later, (∀ x ∈ later, x.time = now) ∧ Chronicle p (s.perform now event).session (a ++ later) left
      (outgoing ++ Apdu.wire (s.perform now event).written) q t b := by
  refine ⟨event.received.map (Passage.mk now .received) ++
    (s.perform now event).written.map (Passage.mk now .sent), fun x hx => ?_, ?_⟩
  · obtain hx | hx := List.mem_append.1 hx
    · exact (Log.of_mem_map hx).1
    · exact (Log.of_mem_map hx).1
  · have hf : Log.frames .sent (event.received.map (Passage.mk now .received) ++
        (s.perform now event).written.map (Passage.mk now .sent)) = (s.perform now event).written := by
      rw [Log.frames_append, Log.frames_map, Log.frames_map, if_neg nofun, if_pos rfl, List.nil_append]
    have hout := h.outgoing.append_left (by rw [hf]; exact hn)
    rw [hf] at hout
    rw [← List.append_assoc] at hout ⊢
    exact ⟨h.here.perform ho, h.there, hout, hl.append_right _⟩

/-- An operation that receives nothing. -/
theorem perform_sending (h : Chronicle p s a incoming outgoing q t b) (now : Millis) (event : Event)
    (he : event.received = []) (ho : (s.perform now event).result = .ok ())
    (hn : (s.perform now event).Writes Apdu.Normal) :
    ∃ later, (∀ x ∈ later, x.time = now) ∧ Chronicle p (s.perform now event).session (a ++ later) incoming
      (outgoing ++ Apdu.wire (s.perform now event).written) q t b := by
  refine h.perform now event ho hn ?_
  rw [he]
  exact (List.append_nil a).symm ▸ h.incoming

/-- Nothing has happened. -/
theorem idle (h : Chronicle p s a incoming outgoing q t b) (now : Millis) :
    ∃ later, (∀ x ∈ later, x.time = now) ∧ Chronicle p s (a ++ later) incoming (outgoing ++ []) q t b :=
  ⟨[], nofun, by simpa only [List.append_nil] using h⟩

end Chronicle

theorem Endpoint.session_record (e : Endpoint) (result : Except Fault Inbound) :
    (e.record result).session = e.session := by
  rcases result with fault | (asdu | function | _) <;> rfl

namespace Chronicle

variable {p q : Parameters} {e f : Endpoint} {i j : IdealWindow} {a b : Log} {incoming outgoing : Octets}

theorem receive (h : Chronicle p e.session a incoming outgoing q f.session b)
    (hc : Conversation e i incoming outgoing f j) (now : Millis) :
    ∃ later, (∀ x ∈ later, x.time = now) ∧ Chronicle p (e.act now incoming .receive).1.session (a ++ later)
      (e.act now incoming .receive).2.1 (outgoing ++ (e.act now incoming .receive).2.2) q f.session b := by
  obtain ⟨iₐ, hia⟩ := h.here.recalls.window
  obtain ⟨jb, hjb⟩ := h.there.recalls.window
  obtain rfl | ⟨frame, rest, rfl, hn, hl⟩ := h.incoming.front hjb.stamped h.outgoing.length_receivedTimes_le
    hia (h.here.recalls.capacity_lt h.here.capacity hia)
  · exact h.idle now
  · obtain ⟨i', hc'⟩ := hc.receive now
    have hf := hc'.here.faults
    rw [Conversation.act_receive e now hn] at hf ⊢
    cases hr : (e.session.receive frame.reduced now).result with
    | error fault =>
      rw [hr] at hf
      exact absurd hf (by simp [Endpoint.record])
    | ok inbound =>
      have hp := Session.perform_receive hr
      have hw : (e.session.receive frame.reduced now).Writes Apdu.Normal :=
        Session.writes_receive (fun _ => trivial) trivial
      have := h.perform now (.receive frame.reduced) (by rw [hp]) (by rw [hp]; exact hw) (hl now)
      rw [hp] at this
      simpa only [Endpoint.session_record] using this

theorem act (h : Chronicle p e.session a incoming outgoing q f.session b)
    (hc : Conversation e i incoming outgoing f j) (now : Millis) {action : Action} (ha : action.Admissible) :
    ∃ later, (∀ x ∈ later, x.time = now) ∧ Chronicle p (e.act now incoming action).1.session (a ++ later)
      (e.act now incoming action).2.1 (outgoing ++ (e.act now incoming action).2.2) q f.session b := by
  have hw := hc.here.writable
  cases action with
  | send asdu =>
    cases hs : e.session.window.canSend with
    | true =>
      refine h.perform_sending now (.sendInformation asdu) rfl ?_ ?_
      · rw [Session.perform, Session.sendInformation_ok hw hs ha.1 ha.2]
      · exact Session.writes_sendInformation fun _ _ => ha
    | false =>
      rw [Endpoint.act, Session.sendInformation_full hs]
      exact h.idle now
  | control function =>
    refine h.perform_sending now (.sendControl function) rfl ?_ ?_
    · exact (Session.sendControl_quiet hw ha).ok.choose_spec
    · exact Session.writes_sendControl ha.normal
  | timer =>
    cases ht : e.session.t1Expired now with
    | false =>
      refine h.perform_sending now .timer rfl ?_ ?_
      · exact (Session.onTimer_quiet hw ht).ok.choose_spec
      · exact Session.writes_onTimer (fun _ => trivial) trivial
    | true =>
      rw [Endpoint.act, Session.onTimer_expired ht]
      exact h.idle now
  | receive => exact h.receive hc now

end Chronicle

/-! ## Nothing in flight -/

namespace Chronicle

variable {p q : Parameters} {s t : Session} {a b : Log} {i : IdealWindow}

/-- With nothing in flight, what a session takes for acknowledged has been acknowledged. -/
theorem acked_eq (h : Chronicle p s a [] [] q t b) (hi : s.window.Recalls i a) : i.acked = b.granted :=
  eq_of_forall_lt_iff fun n => (hi.acked n).trans (h.incoming.settled.2 n)

/-- With nothing in flight, what awaits its acknowledgement at one end is to be acknowledged at the other. -/
theorem size_outstanding (h : Chronicle p s a [] [] q t b) :
    s.window.outstanding.size = b.unacknowledged.length := by
  obtain ⟨i, hi⟩ := h.here.recalls.window
  rw [hi.tracks.size_outstanding, h.acked_eq hi, hi.sent, ← h.outgoing.settled.1, ← b.granted_add,
    Nat.add_sub_cancel_left]

end Chronicle

/-! ## Runs of a link -/

namespace Link

variable {p q : Parameters} {l : Link} {a b : Log}

/-- The two ends of a sound link hold what the logs `a` and `b` tell. -/
structure Chronicled (p q : Parameters) (l : Link) (a b : Log) : Prop where
  sound : l.Sound
  chronicle : Chronicle p l.left.session a l.toLeft l.toRight q l.right.session b

theorem chronicled_start (hp : p.k < sequenceModulus) (hq : q.k < sequenceModulus) (t u : Millis) :
    (start p q t u).Chronicled p q [] [] :=
  ⟨sound_start hp hq t u, .start hp t, .start hq u, .nil, .nil⟩

/-- A move adds to the logs what passes at its instant. -/
theorem Chronicled.step (h : l.Chronicled p q a b) {m : Move} (hm : m.action.Admissible) :
    ∃ more later, (∀ x ∈ more, x.time = m.now) ∧ (∀ x ∈ later, x.time = m.now) ∧
      (l.step m).Chronicled p q (a ++ more) (b ++ later) := by
  have hs := h.sound.step hm
  obtain ⟨i, j, hc⟩ := h.sound
  obtain ⟨side, now, action⟩ := m
  cases side with
  | left =>
    obtain ⟨more, ht, hl⟩ := h.chronicle.act hc now hm
    exact ⟨more, [], ht, nofun, hs, (List.append_nil b).symm ▸ hl⟩
  | right =>
    obtain ⟨later, ht, hl⟩ := h.chronicle.swap.act hc.swap now hm
    exact ⟨[], later, nofun, ht, hs, (List.append_nil a).symm ▸ hl.swap⟩

theorem Chronicled.run (h : l.Chronicled p q a b) {moves : List Move} (hm : ∀ m ∈ moves, m.action.Admissible) :
    ∃ a b, (l.run moves).Chronicled p q a b := by
  induction moves generalizing l a b with
  | nil => exact ⟨a, b, h⟩
  | cons m moves ih =>
    obtain ⟨more, later, -, -, hs⟩ := h.step (hm m (by simp))
    exact ih hs fun n hn => hm n (by simp [hn])

end Link

end Telecontrol
