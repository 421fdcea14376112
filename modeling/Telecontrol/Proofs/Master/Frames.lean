import Telecontrol.Proofs.Master.Ledger
import Telecontrol.Proofs.Session.Quiet
import Telecontrol.Proofs.Window.Refinement

/-!
# What a master makes of a frame

A link takes a frame whose numbers are right by its ledger, and no other.

* `Session.receive_takes`, `Session.receive_refuses`: the link layer's part of a frame.
* `Apdu.told`: what is reported and delivered for a frame; `Master.Refuses`: the application refuses it.
* `Master.onFrame_takes`, `Master.onFrame_wrong`, `Master.onInbound_told`, `Master.onInbound_refuses`: what a
  master does with a frame.
-/

namespace Telecontrol

open Apci (sequenceModulus)

/-! ## The link layer -/

/-- What a frame leaves to the application. -/
def Apdu.inbound (frame : Apdu) : Inbound :=
  match frame.apci with
  | .information _ _ => .asdu (frame.asdu.getD [])
  | .supervisory _ => .handled
  | .unnumbered .testAct | .unnumbered .testCon | .unnumbered (.undefined _) => .handled
  | .unnumbered function => .control function

namespace Session

variable {α : Type} {s : Session} {w : Window} {i i' : IdealWindow} {o : Outcome α} {frame : Apdu}
  {now : Millis}

/-- A session whose stream takes octets and whose window shows the counters `i`. -/
structure Counts (s : Session) (i : IdealWindow) : Prop where
  writable : s.writable = true
  tracks : s.window.Tracks i
  capacity : i.capacity < sequenceModulus

theorem Quiet.tracks (h : Quiet w o) (hw : w.Tracks i) : o.session.window.Tracks i := by
  rcases h.window with hv | hv
  · rw [hv]
    exact hw
  · rw [hv]
    exact hw.confirmed

theorem Quiet.counts (h : Quiet w o) (hw : w.Tracks i) (hk : i.capacity < sequenceModulus) :
    o.session.Counts i :=
  ⟨h.writable, h.tracks hw, hk⟩

theorem Quiet.bare (h : Quiet w o) : ∀ f ∈ o.written, f.apci.isInformation = false := by
  intro f hf
  obtain rfl | ⟨function, -, rfl⟩ := h.written f hf
  · rfl
  · rfl

theorem receive_unnumbered_result (hs : s.writable = true) (function : ControlFunction)
    (octets : Option Octets) (now : Millis) : (s.receive ⟨.unnumbered function, octets⟩ now).result =
      .ok (Apdu.inbound ⟨.unnumbered function, octets⟩) := by
  show ((s.counted now).receiveControl function now).result = _
  cases function with
  | testAct =>
    let tested : Session := { s.counted now with traffic := { (s.counted now).traffic with
      testAct := (s.counted now).traffic.testAct + 1 } }
    have hq : Quiet s.window (tested.sendControl .testCon now) := sendControl_quiet (s := tested) hs trivial
    obtain ⟨a, ha⟩ := hq.ok
    show ((tested.sendControl .testCon now).andThen fun _ s => .done s Inbound.handled).result = .ok .handled
    simp only [Outcome.andThen, ha]
    rfl
  | _ => rfl

/-- A frame with the right numbers is taken, and only S-frames and U-frames are written for it. -/
theorem receive_takes (h : s.Counts i) (ht : i.take? frame = some i') (now : Millis) :
    (s.receive frame now).result = .ok frame.inbound ∧ (s.receive frame now).session.Counts i' ∧
      ∀ f ∈ (s.receive frame now).written, f.apci.isInformation = false := by
  have hcapacity := IdealWindow.capacity_take? ht
  obtain ⟨apci, octets⟩ := frame
  cases apci with
  | information send receive =>
    have hsame : s.receive ⟨.information send receive, octets⟩ now =
        s.receive (.information send receive (octets.getD [])) now := by cases octets <;> rfl
    obtain ⟨hsend, a, ha, rfl⟩ := IdealWindow.acks_of_receive? ht
    obtain ⟨hq, hr⟩ := receive_information h.writable (octets.getD [])
      (h.tracks.onInformation_ok h.capacity hsend ha now)
    rw [hsame]
    exact ⟨hr, hq.counts ((h.tracks.release ha).countReceived now) h.capacity, hq.bare⟩
  | supervisory receive =>
    obtain ⟨a, ha, rfl⟩ := IdealWindow.acks_of_acknowledge? ht
    obtain ⟨hq, hr⟩ := receive_supervisory h.writable now (h.tracks.acknowledge_ok h.capacity ha)
    exact ⟨hr, hq.counts (h.tracks.release ha) h.capacity, hq.bare⟩
  | unnumbered function =>
    cases ht
    have hq := (receive_unnumbered h.writable now function).1
    exact ⟨receive_unnumbered_result h.writable function octets now, hq.counts h.tracks h.capacity, hq.bare⟩

/-- Any other frame is refused, and nothing is written for it. -/
theorem receive_refuses (h : s.Counts i) (ht : i.take? frame = none) (now : Millis) :
    ∃ s' fault, s.receive frame now = .fail s' fault := by
  have hw := h.tracks.target_lt h.capacity
  obtain ⟨apci, octets⟩ := frame
  cases apci with
  | information send receive =>
    have hn := IdealWindow.not_acks_of_receive? hw ht
    rw [← h.tracks.receive_iff h.capacity send receive now] at hn
    cases ho : Window.onInformation send receive now s.window with
    | ok u w' => exact absurd ⟨w', ho⟩ hn
    | error fault w' =>
      refine ⟨{ s.counted now with window := w' }, fault, ?_⟩
      simp only [Session.receive, counted, ho]
  | supervisory receive =>
    have hn := IdealWindow.not_acks_of_acknowledge? hw ht
    rw [← h.tracks.acknowledge_iff h.capacity receive] at hn
    cases ho : Window.acknowledge receive s.window with
    | ok u w' => exact absurd ⟨w', ho⟩ hn
    | error fault w' =>
      refine ⟨{ s.counted now with window := w' }, fault, ?_⟩
      simp only [Session.receive, counted, ho]
  | unnumbered function => cases ht

end Session

/-! ## The application -/

/-- What is told of a frame: its event, and its ASDU to an application that takes any. -/
def Apdu.told (p : Parameters) (heard : Bool) (frame : Apdu) : List MasterEffect :=
  frame.report?.toList.map .event ++ if heard then (frame.carried? p).toList.map .delivered else []

section

variable (m : Master) (p : Parameters) (heard : Bool) (frame : Apdu) (effects : List MasterEffect)

theorem framesIn_told : framesIn (frame.told p heard) = [] := by
  unfold Apdu.told
  cases frame.report? <;> cases frame.carried? p <;> cases heard <;> rfl

theorem eventsIn_told : eventsIn (frame.told p heard) = frame.report?.toList := by
  unfold Apdu.told
  cases frame.report? <;> cases frame.carried? p <;> cases heard <;> rfl

theorem asdusIn_told : asdusIn (frame.told p heard) = if heard then (frame.carried? p).toList else [] := by
  unfold Apdu.told
  cases frame.report? <;> cases frame.carried? p <;> cases heard <;> rfl

theorem Master.ledger_told : m.ledger (effects ++ frame.told p heard) = m.ledger effects := by
  rw [Master.ledger_append]
  unfold Apdu.told
  cases frame.report? <;> cases frame.carried? p <;> cases heard <;> rfl

end

namespace Master

variable {n : Master} {link : MasterLink} {frame : Apdu} {i i' : IdealWindow} {now : Millis}

/-- The application refuses the ASDU that a frame carries. -/
def Refuses (n : Master) (frame : Apdu) : Prop :=
  frame.carried? n.config.parameters ≠ none ∧ ∃ later, n.answers = some (false :: later)

/-- The master after it has told what a frame brings, unless that was refused. -/
def toldOf (n : Master) (link : MasterLink) (frame : Apdu) : Master :=
  { n with
    link := some link
    state := (frame.report?.map fun event => stateAfter (some link) [event]).getD n.state
    answers := n.answers.map (·.drop (frame.carried? n.config.parameters).toList.length) }

theorem toldOf_nothing (hr : frame.report? = none) (hc : frame.carried? n.config.parameters = none) :
    n.toldOf link frame = { n with link := some link } := by
  have ha : (n.answers.map (·.drop 0)) = n.answers := by cases n.answers <;> rfl
  rw [toldOf, hr, hc]
  exact congrArg (fun answers => { n with link := some link, answers := answers }) ha

theorem state_toldOf {before : MasterLink} {events : List LinkEvent} (frame : Apdu)
    (h : n.state = stateAfter (some before) events) :
    (n.toldOf link frame).state = stateAfter (some link) (events ++ frame.report?.toList) := by
  show (frame.report?.map _).getD n.state = _
  cases frame.report? with
  | none =>
    rw [Option.toList_none, List.append_nil]
    exact h
  | some event =>
    show stateAfter (some link) [event] = stateAfter (some link) (events ++ [event])
    rw [stateAfter_concat]

/-- An application that does not refuse the next ASDU takes it, if it takes any. -/
theorem deliver_accepted (link : MasterLink) (asdu : Asdu) (h : ∀ later, n.answers ≠ some (false :: later)) :
    n.deliver link asdu = ({ n with link := some link, answers := n.answers.map (·.drop 1) },
      if n.answers.isSome then [.delivered asdu] else []) := by
  unfold deliver
  match ha : n.answers with
  | none => rfl
  | some [] => rfl
  | some (true :: later) => rfl
  | some (false :: later) => exact absurd ha (h later)

theorem onInbound_told (link : MasterLink) (h : ¬ n.Refuses frame) :
    n.onInbound link frame.inbound =
      (n.toldOf link frame, frame.told n.config.parameters n.answers.isSome) := by
  obtain ⟨apci, octets⟩ := frame
  cases apci with
  | information send receive =>
    have hc : Apdu.carried? n.config.parameters ⟨.information send receive, octets⟩ =
        (Asdu.parse n.config.parameters (octets.getD [])).toOption := rfl
    cases hp : Asdu.parse n.config.parameters (octets.getD []) with
    | error fault =>
      rw [hp] at hc
      rw [toldOf_nothing rfl hc]
      simp only [Apdu.inbound, onInbound, hp, Apdu.told, hc]
      cases n.answers <;> rfl
    | ok asdu =>
      rw [hp] at hc
      have hh (later : List Bool) : n.answers ≠ some (false :: later) := by
        intro ha
        refine h ⟨?_, later, ha⟩
        rw [hc]
        exact nofun
      simp only [Apdu.inbound, onInbound, hp, deliver_accepted link asdu hh, toldOf, Apdu.told, hc]
      rfl
  | supervisory receive =>
    rw [toldOf_nothing rfl rfl]
    simp only [Apdu.inbound, onInbound, Apdu.told]
    cases n.answers <;> rfl
  | unnumbered function =>
    have hc : Apdu.carried? n.config.parameters ⟨.unnumbered function, octets⟩ = none := rfl
    cases function with
    | startCon =>
      simp only [Apdu.inbound, onInbound, Apdu.told, toldOf, hc]
      cases n.answers <;> rfl
    | stopCon =>
      simp only [Apdu.inbound, onInbound, Apdu.told, toldOf, hc]
      cases n.answers <;> rfl
    | _ =>
      rw [toldOf_nothing rfl hc]
      simp only [Apdu.inbound, onInbound, Apdu.told, hc]
      cases n.answers <;> rfl

theorem onInbound_refuses (link : MasterLink) (h : n.Refuses frame) :
    ∃ asdu later, frame.carried? n.config.parameters = some asdu ∧ n.answers = some (false :: later) ∧
      n.onInbound link frame.inbound =
        after [.delivered asdu] (finish { n with answers := some later } link.session) := by
  obtain ⟨hc, later, ha⟩ := h
  obtain ⟨apci, octets⟩ := frame
  cases apci with
  | information send receive =>
    cases hp : Asdu.parse n.config.parameters (octets.getD []) with
    | error fault =>
      refine absurd ?_ hc
      simp only [Apdu.carried?, hp, Except.toOption]
    | ok asdu =>
      refine ⟨asdu, later, ?_, ha, ?_⟩
      · simp only [Apdu.carried?, hp, Except.toOption]
      · simp only [Apdu.inbound, onInbound, hp, deliver, ha]
        rfl
  | supervisory receive => exact absurd rfl hc
  | unnumbered function => exact absurd rfl hc

/-! ## The frame -/

/-- A frame with the right numbers is acknowledged or answered, and then the application is told of it. -/
theorem onFrame_takes (h : link.session.Counts i) (ht : i.take? frame = some i') (now : Millis) :
    ∃ (session : Session) (written : List Apdu), n.onFrame link frame now =
        after (written.map .sent) (n.onInbound { link with session } frame.inbound) ∧
      session.Counts i' ∧ ∀ f ∈ written, f.apci.isInformation = false := by
  obtain ⟨hr, hs, hw⟩ := Session.receive_takes h ht now
  refine ⟨_, _, ?_, hs, hw⟩
  unfold onFrame
  simp only [hr]
  rfl

/-- Any other frame ends the link. -/
theorem onFrame_wrong (h : link.session.Counts i) (ht : i.take? frame = none) (now : Millis) :
    ∃ session, n.onFrame link frame now = n.finish session := by
  obtain ⟨session, fault, hr⟩ := Session.receive_refuses h ht now
  refine ⟨session, ?_⟩
  unfold onFrame
  rw [hr]
  rfl

end Master

end Telecontrol
