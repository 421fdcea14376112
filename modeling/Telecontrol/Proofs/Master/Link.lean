import Telecontrol.Proofs.Master.Running

/-!
# The course of a link

A link over any run: what its master reports, what state it shows, what it gives to the application, and what ends
it.

* `Master.run`: inputs one after the other; `Master.linkRun` starts a link in front of them.
* `Master.Running.apply`, `Master.Over.apply`: the account of a link is kept by every input.
* `Master.Unread`, `Master.Unread.run`: the octets that came in are the frames received and what waits.
* `Master.link_course`: the account of a link, and the inputs that end it.
-/

namespace Telecontrol

namespace Master

variable {m n : Master} {effects : List MasterEffect} {link : MasterLink} {rest : Octets}

/-! ## Runs -/

/-- Takes inputs one after the other, each at its instant. -/
def run (m : Master) : List (Millis × Input) → Step
  | [] => (m, [])
  | (now, input) :: inputs => after (m.apply now input).2 ((m.apply now input).1.run inputs)

/-- Starts a link on a stream and takes inputs. -/
def linkRun (m : Master) (start : Millis) (inputs : List (Millis × Input)) : Step :=
  after (m.connectStream start).1.2 ((m.connectStream start).1.1.run inputs)

theorem run_append (n : Master) (inputs more : List (Millis × Input)) :
    n.run (inputs ++ more) = after (n.run inputs).2 ((n.run inputs).1.run more) := by
  induction inputs generalizing n with
  | nil => rfl
  | cons turn inputs ih =>
    obtain ⟨now, input⟩ := turn
    rw [List.cons_append, run, run, ih]
    simp only [after, List.append_assoc]

/-! ## The account -/

/-- Nothing happens on a link that has ended. -/
theorem Over.apply (h : Over m n effects) (now : Millis) (input : Input) :
    (n.apply now input).2 = [] ∧ Over m (n.apply now input).1 effects := by
  have hn := h.closed
  have hstays : ((n, []) : Step).2 = [] ∧ Over m ((n, []) : Step).1 effects := ⟨rfl, h⟩
  cases input with
  | octets bs => simpa only [Master.apply, receive, hn] using hstays
  | endOfStream => simpa only [Master.apply, endOfStream, hn] using hstays
  | timer => simpa only [Master.apply, onTimer, hn] using hstays
  | sendControl function => simpa only [Master.apply, sendControl, hn] using hstays
  | sendAsdu asdu => simpa only [Master.apply, sendAsdu, hn] using hstays
  | request r =>
    simp only [Master.apply, request]
    cases r.asdu n.config.parameters with
    | error fault => exact hstays
    | ok asdu => simpa only [sendAsdu, hn] using hstays
  | close =>
    simp only [Master.apply, close]
    split
    · simpa [hn] using h.detached
    · exact hstays

theorem Over.run (h : Over m n effects) (inputs : List (Millis × Input)) :
    (n.run inputs).2 = [] ∧ Over m (n.run inputs).1 effects := by
  induction inputs generalizing n with
  | nil => exact ⟨rfl, h⟩
  | cons turn inputs ih =>
    obtain ⟨now, input⟩ := turn
    obtain ⟨hnone, hover⟩ := h.apply now input
    obtain ⟨hlater, hend⟩ := ih hover
    rw [Master.run, after, hnone, hlater]
    exact ⟨rfl, hend⟩

/-- What came of a link after some effects: it runs, or it has ended. -/
def Courses (m n : Master) (effects : List MasterEffect) : Prop :=
  (∃ link, Running m n effects link) ∨ Over m n effects

theorem Goes.ended_iff {step : Step} {ended : Prop} (h : Goes m effects step ended) :
    step.1.link = none ↔ ended := by
  refine ⟨fun hn => ?_, fun he => (h.1 he).closed⟩
  by_contra he
  obtain ⟨link, hlink⟩ := h.2 he
  rw [hlink.runs] at hn
  cases hn

theorem Goes.courses {step : Step} {ended : Prop} (h : Goes m effects step ended) :
    Courses m step.1 (effects ++ step.2) := by
  by_cases he : ended
  · exact .inr (h.1 he)
  · exact .inl (h.2 he)

/-- Every input keeps the account of a link that runs. -/
theorem Running.apply (h : Running m n effects link) (hv : m.config.parameters.validate = .ok ())
    (now : Millis) (input : Input) :
    Courses m (n.apply now input).1 (effects ++ (n.apply now input).2) := by
  cases input with
  | octets bs =>
    have hstep : n.receive bs now = n.consume (link.inbound ++ bs) now := by
      rw [receive, h.runs]
    show Courses m (n.receive bs now).1 _
    rw [Master.apply, hstep]
    exact h.consume _ now
  | endOfStream => exact h.endOfStream.courses
  | timer => exact (h.onTimer now).courses
  | sendControl function => exact (h.sendControl function now).courses
  | sendAsdu asdu => exact (h.sendAsdu asdu now).courses
  | request r => exact (h.request hv r now).courses
  | close => exact h.close.courses

theorem Courses.run (h : Courses m n effects) (hv : m.config.parameters.validate = .ok ())
    (inputs : List (Millis × Input)) : Courses m (n.run inputs).1 (effects ++ (n.run inputs).2) := by
  induction inputs generalizing n effects with
  | nil => exact (List.append_nil effects).symm ▸ h
  | cons turn inputs ih =>
    obtain ⟨now, input⟩ := turn
    rw [Master.run, after, ← List.append_assoc]
    obtain ⟨link, hlink⟩ | hover := h
    · exact ih (hlink.apply hv now input)
    · obtain ⟨hnone, hend⟩ := hover.apply now input
      rw [hnone, List.append_nil]
      exact ih (.inr hend)

/-! ## The octets -/

/-- The octets that an input brings. -/
def Input.arriving : Input → Octets
  | .octets bs => bs
  | _ => []

/-- The octets that came in. -/
def arrived (inputs : List (Millis × Input)) : Octets := inputs.flatMap (·.2.arriving)

/-- If the link runs, these octets wait and make no frame yet. -/
def Unread (n : Master) (rest : Octets) : Prop :=
  ∀ link, n.link = some link → link.inbound = rest ∧ Apdu.decode rest = .incomplete

theorem Unread.finish (n : Master) (session : Session) (rest : Octets) : (n.finish session).1.Unread rest := nofun

theorem Unread.settle (h : n.Unread rest) (hl : n.link = some link) (o : Session.Outcome Unit) :
    framesIn (n.settle link o).2 = [] ∧ (n.settle link o).1.Unread rest := by
  simp only [Master.settle, after, sentFrames, framesIn_append, framesIn_sent]
  cases o.result with
  | ok u =>
    refine ⟨rfl, ?_⟩
    rintro _ ⟨⟩
    exact h link hl
  | error fault => exact ⟨rfl, Unread.finish n o.session rest⟩

theorem Unread.answer (h : n.Unread rest) (hl : n.link = some link) (o : Session.Outcome Unit) :
    framesIn (n.answer link o).1.2 = [] ∧ (n.answer link o).1.1.Unread rest := by
  unfold Master.answer
  split
  · exact h.settle hl o
  · exact ⟨rfl, h⟩
  · exact h.settle hl o

theorem Unread.sendControl (h : n.Unread rest) (function : ControlFunction) (now : Millis) :
    framesIn (n.sendControl function now).1.2 = [] ∧ (n.sendControl function now).1.1.Unread rest := by
  unfold Master.sendControl
  split
  · exact ⟨rfl, h⟩
  · exact h.answer ‹_› _

theorem Unread.sendAsdu (h : n.Unread rest) (asdu : Asdu) (now : Millis) :
    framesIn (n.sendAsdu asdu now).1.2 = [] ∧ (n.sendAsdu asdu now).1.1.Unread rest := by
  unfold Master.sendAsdu
  split
  · exact ⟨rfl, h⟩
  · exact h.answer ‹_› _

/-- Every input adds its octets; the frames among them are received. -/
theorem Unread.apply (h : n.Unread rest) (now : Millis) (input : Input) :
    ∃ rest', rest ++ input.arriving = (framesIn (n.apply now input).2).flatten ++ rest' ∧
      (n.apply now input).1.Unread rest' := by
  have hquiet {step : Step} (hs : framesIn step.2 = [] ∧ step.1.Unread rest) :
      ∃ rest', rest ++ [] = (framesIn step.2).flatten ++ rest' ∧ step.1.Unread rest' :=
    ⟨rest, by rw [hs.1, List.flatten_nil, List.nil_append, List.append_nil], hs.2⟩
  cases input with
  | octets bs =>
    show ∃ rest', rest ++ bs = (framesIn (n.receive bs now).2).flatten ++ rest' ∧
      (n.receive bs now).1.Unread rest'
    unfold receive
    split
    · rename_i hl
      exact ⟨rest ++ bs, rfl, fun link hlink => by rw [hl] at hlink; cases hlink⟩
    · rename_i link hl
      rw [(h link hl).1]
      exact consume_splits n (rest ++ bs) now
  | endOfStream =>
    apply hquiet
    show framesIn n.endOfStream.2 = [] ∧ n.endOfStream.1.Unread rest
    unfold Master.endOfStream
    split
    · exact ⟨rfl, h⟩
    · exact ⟨rfl, Unread.finish n _ rest⟩
  | timer =>
    apply hquiet
    show framesIn (n.onTimer now).2 = [] ∧ (n.onTimer now).1.Unread rest
    unfold Master.onTimer
    split
    · exact ⟨rfl, h⟩
    · split
      · exact h.settle ‹_› _
      · exact ⟨rfl, h⟩
  | sendControl function => exact hquiet (h.sendControl function now)
  | sendAsdu asdu => exact hquiet (h.sendAsdu asdu now)
  | request r =>
    apply hquiet
    show framesIn (n.request r now).1.2 = [] ∧ (n.request r now).1.1.Unread rest
    unfold Master.request
    split
    · exact ⟨rfl, h⟩
    · exact h.sendAsdu _ now
  | close =>
    apply hquiet
    show framesIn n.close.1.2 = [] ∧ n.close.1.1.Unread rest
    unfold Master.close
    split
    · cases hl : n.link with
      | none => exact ⟨rfl, fun link hlink => by simp at hlink⟩
      | some link => exact ⟨rfl, Unread.finish _ _ rest⟩
    · exact ⟨rfl, h⟩

theorem Unread.run (h : n.Unread rest) (inputs : List (Millis × Input)) :
    ∃ rest', rest ++ arrived inputs = (framesIn (n.run inputs).2).flatten ++ rest' ∧
      (n.run inputs).1.Unread rest' := by
  induction inputs generalizing n rest with
  | nil => exact ⟨rest, List.append_nil rest, h⟩
  | cons turn inputs ih =>
    obtain ⟨now, input⟩ := turn
    obtain ⟨waiting, hfirst, hwaiting⟩ := h.apply now input
    obtain ⟨rest', hlater, hrest'⟩ := ih hwaiting
    refine ⟨rest', ?_, hrest'⟩
    show rest ++ (input.arriving ++ arrived inputs) = (framesIn (_ ++ _)).flatten ++ rest'
    rw [← List.append_assoc, hfirst, List.append_assoc, hlater, framesIn_append, List.flatten_append,
      List.append_assoc]

/-! ## The start -/

/-- The link of a fresh stream. -/
def fresh (m : Master) (start : Millis) : MasterLink := { session := .start m.config.parameters start }

/-- The master with the link of a fresh stream. -/
def opened (m : Master) (start : Millis) : Master :=
  { m with state := .connectedInactive, link := some (m.fresh start), attached := true }

theorem opened_running (hv : m.config.parameters.validate = .ok ()) (start : Millis) :
    Running m (m.opened start) [.event .opened] (m.fresh start) where
  runs := rfl
  config := rfl
  attached := rfl
  counts := {
    writable := rfl
    tracks := Window.tracks_start m.config.parameters
    capacity := Nat.lt_succ_of_le (Parameters.valid_iff.1 hv).k_le }
  answers := by
    show m.answers = m.answers.map (·.drop 0)
    cases m.answers <;> rfl
  received := ⟨[], rfl, Nat.zero_le 1, fun _ => rfl⟩
  events := rfl
  ended := nofun
  state := rfl
  delivered := by cases m.answers <;> rfl
  refused _ _ _ _ := Nat.zero_le _
  tracks := by
    rintro _ ⟨⟩
    exact Window.tracks_start m.config.parameters

theorem opened_unread (m : Master) (start : Millis) : (m.opened start).Unread [] := by
  rintro _ ⟨⟩
  exact ⟨rfl, rfl⟩

theorem connectStream_eq (hm : m.state = .disconnected ∨ m.state = .closed)
    (hv : m.config.parameters.validate = .ok ()) (start : Millis) : m.connectStream start =
      (after [.event .opened] (if m.config.autostart then ((m.opened start).sendControl .startAct start).1
        else (m.opened start, [])), .ok ()) := by
  have hbegin : m.beginConnect = .ok { m with state := .connecting } := by
    unfold beginConnect
    rcases hm with hm | hm <;> rw [hm] <;> simp only [hv] <;> rfl
  have ho := Session.sendControl_ok (s := (m.fresh start).session) rfl .startAct start
  have hl : (m.opened start).link = some (m.fresh start) := rfl
  simp only [connectStream, hbegin, startLink, sendControl, hl, answer, ho]
  rfl

/-- A link that is started agrees with its account, and no octets have come in. -/
theorem start_running (hm : m.state = .disconnected ∨ m.state = .closed)
    (hv : m.config.parameters.validate = .ok ()) (start : Millis) :
    (∃ link, Running m (m.connectStream start).1.1 (m.connectStream start).1.2 link) ∧
      framesIn (m.connectStream start).1.2 = [] ∧ (m.connectStream start).1.1.Unread [] := by
  have hopened := opened_running hv start
  have hunread := opened_unread m start
  rw [connectStream_eq hm hv]
  cases m.config.autostart with
  | false => exact ⟨⟨m.fresh start, hopened⟩, rfl, hunread⟩
  | true => exact ⟨(hopened.sendControl .startAct start).2 id, hunread.sendControl .startAct start⟩

/-! ## The course of a link -/

/-- **The course of a link.** A link that is started with valid parameters agrees with its account after any inputs:
it was opened, then each confirmation was reported and each well-formed ASDU that came in sequence was delivered,
up to the first that was refused, and it was closed once it had ended. The octets that came in are the frames
received and a rest. Each I-frame that was taken was counted, whatever it carried. The link ends with the first
input that is to end it and with no other, and after that nothing is seen of it. How the octets are cut into inputs
makes no difference. -/
theorem link_course (m : Master) (hm : m.state = .disconnected ∨ m.state = .closed)
    (hv : m.config.parameters.validate = .ok ()) (start : Millis) :
    (m.connectStream start).2 = .ok () ∧ ∀ inputs,
      let n := (m.linkRun start inputs).1
      let effects := (m.linkRun start inputs).2
      Account m n effects ∧
      (∃ rest, arrived inputs = (framesIn effects).flatten ++ rest ∧ n.Unread rest) ∧
      (m.ledger effects).window.received = (m.ledger effects).taken.countP (·.apci.isInformation) ∧
      (∀ link now input, n.link = some link → input.Single →
        ((n.apply now input).1.link = none ↔ n.Ends link (m.ledger effects).window now input)) ∧
      (n.link = none → ∀ more, (m.linkRun start (inputs ++ more)).2 = effects ∧
        (m.linkRun start (inputs ++ more)).1.state = .closed) ∧
      ∀ now bs more, n.apply now (.octets (bs ++ more)) = n.run [(now, .octets bs), (now, .octets more)] := by
  obtain ⟨hstart, hframes, hunread⟩ := start_running hm hv start
  refine ⟨by rw [connectStream_eq hm hv], ?_⟩
  intro inputs n effects
  have hcourse : Courses m n effects := Courses.run (.inl hstart) hv inputs
  obtain ⟨rest, harrived, hrest⟩ := hunread.run inputs
  refine ⟨?_, ⟨rest, ?_, hrest⟩, received_ledger m effects, fun link now input hlink hsingle => ?_,
    fun hn more => ?_, fun now bs more => ?_⟩
  · obtain ⟨link, hlink⟩ | hover := hcourse
    · exact hlink.toAccount
    · exact hover.toAccount
  · show arrived inputs = (framesIn (_ ++ _)).flatten ++ rest
    rw [framesIn_append, hframes, List.nil_append]
    exact harrived
  · obtain ⟨link', hlink'⟩ | hover := hcourse
    · obtain rfl : link' = link := Option.some.inj (hlink'.runs.symm.trans hlink)
      obtain ⟨hinbound, hincomplete⟩ := hrest link' hlink
      exact (hlink'.apply_single hv (hinbound ▸ hincomplete) now input hsingle).ended_iff
    · rw [hover.closed] at hlink
      cases hlink
  · obtain ⟨link', hlink'⟩ | hover := hcourse
    · rw [hlink'.runs] at hn
      cases hn
    · obtain ⟨hnone, hend⟩ := hover.run more
      have hlater : m.linkRun start (inputs ++ more) = after effects (n.run more) := by
        unfold linkRun
        rw [run_append]
        exact Prod.ext rfl (List.append_assoc _ _ _).symm
      rw [hlater]
      refine ⟨?_, ?_⟩
      · rw [after, hnone, List.append_nil]
      · show (n.run more).1.state = .closed
        rw [hend.state, hend.closed]
        rfl
  · show n.receive (bs ++ more) now = _
    rw [receive_append]
    simp only [Master.run, Master.apply, after, List.append_nil]

/-- The application refuses the second ASDU. The malformed one in front of it is skipped but counts, and the frame
behind it is not handled any more. -/
theorem link_course_refused :
    let m := create { host := "outstation" } (some [true, false])
    let interrogation : Octets := [100, 1, 7, 0, 1, 0, 0, 0, 0, 20]
    let first : List (Millis × Input) :=
      [(5, .octets ([0x68, 4, 0x0B, 0, 0, 0] ++ [0x68, 14, 0, 0, 0, 0] ++ interrogation))]
    let inputs := first ++
      [(6, .octets ([0x68, 5, 2, 0, 0, 0, 100] ++ [0x68, 14, 4, 0, 0, 0] ++ interrogation ++
        [0x68, 14, 6, 0, 0, 0] ++ interrogation))]
    let effects := (m.linkRun 0 inputs).2
    m.state = .disconnected ∧ m.config.parameters.validate = .ok () ∧
      (∃ link, (m.linkRun 0 first).1.link = some link) ∧
      ((m.linkRun 0 first).1.apply 6 .close).1.link = none ∧
      Account m (m.linkRun 0 inputs).1 effects ∧
      eventsIn effects = [.opened, .startConfirmed, .closed] ∧ (asdusIn effects).length = 2 ∧
      (framesIn effects).length = 4 ∧ (m.ledger effects).window.received = 3 ∧
      (m.linkRun 0 inputs).1.link = none ∧ ∀ more, (m.linkRun 0 (inputs ++ more)).2 = effects := by
  intro m interrogation first inputs effects
  have hm : m.state = .disconnected := rfl
  have hv : m.config.parameters.validate = .ok () := rfl
  obtain ⟨-, hcourse⟩ := link_course m (.inl hm) hv 0
  have hopen : (m.linkRun 0 first).1.link.isSome = true := by decide +kernel
  have hover : (m.linkRun 0 inputs).1.link = none := by decide +kernel
  obtain ⟨link, hlink⟩ := Option.isSome_iff_exists.1 hopen
  obtain ⟨-, -, -, hends, -, -⟩ := hcourse first
  obtain ⟨haccount, -, -, -, hlater, -⟩ := hcourse inputs
  refine ⟨hm, hv, ⟨link, hlink⟩, ?_, haccount, ?_, ?_, ?_, ?_, hover, fun more => ?_⟩
  · exact (hends link 6 .close hlink trivial).2 trivial
  · decide +kernel
  · decide +kernel
  · decide +kernel
  · decide +kernel
  · exact (hlater hover more).1

end Master

end Telecontrol
