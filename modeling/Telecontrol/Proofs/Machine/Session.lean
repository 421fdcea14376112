import Telecontrol.Proofs.Machine.Frame
import Telecontrol.Proofs.Window.Numbered
import Telecontrol.Session

/-!
# The link layer in machine words

The window and the session as a machine carries them out: sequence numbers and their count have 16 bits, the
distance of two numbers is computed with 32, and the acknowledged frames are drained from a queue. Times are
unbounded.

* `Machine.acknowledge`, `Machine.onInformation`, `Machine.prepareInformation`: the operations of a window.
* `Machine.receive`, `Machine.onTimer`, `Machine.sendInformation`, `Machine.sendControl`: those of a session.
* `Machine.Runs`: an operation does on a machine what it does by itself, and the numbers of its session fit.
  On a session whose numbers fit every operation does, one lemma for each.
-/

namespace Telecontrol

open Apci (sequenceModulus)

namespace Machine

/-! ## Windows -/

def distance (start finish : Nat) : Option Nat := do
  let ahead ← add 32 finish sequenceModulus
  let ahead ← sub ahead start
  return ahead % sequenceModulus

def successor (n : Nat) : Option Nat := do
  let next ← add 16 n 1
  return next % sequenceModulus

/-- The frames that are left when the `n` oldest are taken out of the queue. -/
def drain (frames : Array SentFrame) (n : Nat) : Option (Array SentFrame) :=
  if n ≤ frames.size then some (frames.drop n) else none

def prepareInformation (w : Window) (now : Millis) : Option (Apci × Window) := do
  let next ← successor w.sendCount
  return (.information w.sendCount w.receiveCount,
    { w.confirmed with outstanding := w.outstanding.push ⟨w.sendCount, now⟩, sendCount := next })

def acknowledge (receive : Nat) (w : Window) : Option (EStateM.Result Fault Window Unit) := do
  let waiting := w.outstanding.size % 65536
  let oldest ← distance waiting w.sendCount
  let released ← distance oldest receive
  if waiting < released then
    let window := s!"(send count {w.sendCount}, {waiting} outstanding)"
    return .error (.protocol s!"invalid acknowledgement N(R)={receive} {window}") w
  let outstanding ← drain w.outstanding released
  return .ok () { w with outstanding }

/-- Counts a received I-frame with the numbers N(S) = `send` and N(R) = `receive`. The count of the frames
that are to be acknowledged stops where 16 bits end. -/
def onInformation (send receive : Nat) (now : Millis) (w : Window) :
    Option (EStateM.Result Fault Window Unit) := do
  if send ≠ w.receiveCount then
    return .error (.sequenceMismatch w.receiveCount send) w
  match ← acknowledge receive w with
  | .error fault w => return .error fault w
  | .ok _ w =>
    let next ← successor w.receiveCount
    return .ok ()
      { w with
        receiveCount := next
        firstUnconfirmedAt := if w.unconfirmed = 0 then some now else w.firstUnconfirmedAt
        unconfirmed := min (w.unconfirmed + 1) 65535 }

section

variable {w : Window} {start finish n send receive : Nat} {now : Millis}

theorem distance_eq (hs : start ≤ sequenceModulus) (hf : finish < 65536) :
    distance start finish = some (Window.distance start finish) := by
  have hsum : finish + sequenceModulus < Nat.pow 2 32 :=
    Nat.lt_trans (Nat.add_lt_add_right hf _) (by decide)
  have hmod : (finish + sequenceModulus - start) % sequenceModulus = Window.distance start finish := by
    simp only [Window.distance, sequenceModulus] at hs ⊢
    omega
  unfold distance
  simp only [add_eq hsum, sub_eq (Nat.le_trans hs (Nat.le_add_left _ _)), Option.bind_eq_bind,
    Option.bind_some, hmod]
  rfl

theorem successor_eq (h : n < sequenceModulus) : successor n = some (Window.successor n) := by
  have hsum : n + 1 < Nat.pow 2 16 := Nat.lt_trans (Nat.add_lt_add_right h _) (by decide)
  unfold successor
  simp only [add_eq hsum, Option.bind_eq_bind, Option.bind_some]
  rfl

theorem prepareInformation_eq (hw : w.Numbered) (now : Millis) :
    prepareInformation w now = some (w.prepareInformation now) := by
  unfold prepareInformation
  simp only [successor_eq hw.send, Option.bind_eq_bind, Option.bind_some]
  rfl

/-- The frames that a number N(R) releases are there: their count is below 16 bits, so that it is the real
one. -/
theorem acknowledge_eq (hw : w.Numbered) (hr : receive < 65536) :
    acknowledge receive w = some (Window.acknowledge receive w) := by
  have hsize : w.outstanding.size < sequenceModulus := Nat.lt_of_le_of_lt hw.within hw.k_lt
  have hwaiting : w.outstanding.size % 65536 = w.outstanding.size := by
    simp only [sequenceModulus] at hsize
    omega
  have hsend : w.sendCount < 65536 := Nat.lt_trans hw.send (by decide)
  have holdest := Window.distance_lt w.outstanding.size w.sendCount
  unfold acknowledge
  simp only [hwaiting, distance_eq (Nat.le_of_lt hsize) hsend, distance_eq (Nat.le_of_lt holdest) hr,
    Option.bind_eq_bind, Option.bind_some]
  unfold Window.acknowledge
  simp only [Window.get_bind, hwaiting]
  split
  · rfl
  · rename_i hle
    rw [drain, if_pos (Nat.le_of_not_lt hle)]
    rfl

theorem onInformation_eq (hw : w.Numbered) (hr : receive < 65536) :
    onInformation send receive now w = some (Window.onInformation send receive now w) := by
  unfold onInformation
  by_cases hs : send = w.receiveCount
  · subst hs
    rw [Window.onInformation_next, if_neg (not_not_intro rfl), acknowledge_eq hw hr]
    cases ha : Window.acknowledge receive w with
    | error fault w' => rfl
    | ok u w' =>
      have hcount := (hw.acknowledge ha).2
      simp only [Option.bind_eq_bind, Option.bind_some]
      rw [successor_eq (hcount ▸ hw.receive)]
      rfl
  · rw [Window.onInformation_mismatch hs, if_pos hs]
    rfl

end

/-! ## Sessions -/

open Session (Outcome)

def andThen {α β : Type} (m : Option (Outcome α)) (next : α → Session → Option (Outcome β)) :
    Option (Outcome β) := do
  let o ← m
  match o.result with
  | .error fault => return ⟨o.session, o.written, .error fault⟩
  | .ok a =>
    let later ← next a o.session
    return ⟨later.session, o.written ++ later.written, later.result⟩

def write (word : Nat) (s : Session) (frame : Apdu) : Option (Outcome Unit) := do
  match ← encode word [] frame with
  | .error fault => return .fail s fault
  | .ok _ =>
    if s.writable then
      return ⟨{ s with traffic := { s.traffic with sent := s.traffic.sent + 1 } }, [frame], .ok ()⟩
    else
      return .fail s (.io "broken pipe")

def sendControl (word : Nat) (s : Session) (function : ControlFunction) (now : Millis) :
    Option (Outcome Unit) :=
  andThen (write word s (.unnumbered function)) fun _ s =>
    match function.confirmation with
    | some _ => some (.done { s with awaited := s.awaited ++ [⟨function, now + s.parameters.t1⟩] } ())
    | none => some (.done s ())

def sendInformation (word : Nat) (s : Session) (asdu : Octets) (now : Millis) : Option (Outcome Unit) := do
  if s.window.canSend then
    let (apci, window) ← prepareInformation s.window now
    write word { s with window } ⟨apci, some asdu⟩
  else
    return .fail s (.tooManyUnconfirmed s.parameters.k)

def acknowledgeIfDue (word : Nat) (s : Session) (now : Millis) : Option (Outcome Unit) :=
  if s.window.ackRequired now then
    let (apci, window) := s.window.prepareSupervisory
    write word { s with window } ⟨apci, none⟩
  else
    some (.done s ())

def receiveControl (word : Nat) (s : Session) (function : ControlFunction) (now : Millis) :
    Option (Outcome Inbound) :=
  match function with
  | .testAct =>
    let s := { s with traffic := { s.traffic with testAct := s.traffic.testAct + 1 } }
    andThen (sendControl word s .testCon now) fun _ s => some (.done s .handled)
  | .testCon =>
    let s := { s with traffic := { s.traffic with testCon := s.traffic.testCon + 1 } }
    some (.done (s.confirm .testCon) .handled)
  | .startCon | .stopCon => some (.done (s.confirm function) (.control function))
  | .startAct | .stopAct => some (.done s (.control function))
  | .undefined _ => some (.done s .handled)

def receive (word : Nat) (s : Session) (frame : Apdu) (now : Millis) : Option (Outcome Inbound) := do
  let s := s.counted now
  match frame.apci with
  | .information send receive =>
    match ← onInformation send receive now s.window with
    | .error fault window => return .fail { s with window } fault
    | .ok _ window =>
      andThen (acknowledgeIfDue word { s with window } now) fun _ s =>
        some (.done s (.asdu (frame.asdu.getD [])))
  | .supervisory receive =>
    match ← acknowledge receive s.window with
    | .error fault window => return .fail { s with window } fault
    | .ok _ window => return .done { s with window } .handled
  | .unnumbered function => receiveControl word s function now

def testIfIdle (word : Nat) (s : Session) (now : Millis) : Option (Outcome Unit) :=
  if s.idleDeadline ≤ now then
    let s := { s with idleSince := now }
    if s.awaits .testAct then some (.done s ()) else sendControl word s .testAct now
  else
    some (.done s ())

def onTimer (word : Nat) (s : Session) (now : Millis) : Option (Outcome Unit) :=
  if s.t1Expired now then
    some (.fail s .t1Timeout)
  else
    andThen (acknowledgeIfDue word s now) fun _ s => testIfIdle word s now

/-- An operation does on a machine what it does by itself, and the numbers of the session that it leaves fit,
also where it fails. -/
structure Runs {α : Type} (m : Option (Outcome α)) (o : Outcome α) : Prop where
  eq : m = some o
  numbered : o.session.window.Numbered

section

variable {α β : Type} {m : Option (Outcome α)} {o : Outcome α} {s : Session} {word : Nat} {now : Millis}

theorem runs_done (hs : s.window.Numbered) (a : α) : Runs (some (.done s a)) (.done s a) := ⟨rfl, hs⟩

theorem runs_fail (hs : s.window.Numbered) (fault : Fault) :
    Runs (some (.fail s fault : Outcome α)) (.fail s fault) := ⟨rfl, hs⟩

theorem Runs.andThen {next : α → Session → Option (Outcome β)} {later : α → Session → Outcome β}
    (h : Runs m o) (hn : ∀ a s, s.window.Numbered → Runs (next a s) (later a s)) :
    Runs (andThen m next) (o.andThen later) := by
  obtain ⟨rfl, hs⟩ := h
  unfold Machine.andThen Outcome.andThen
  simp only [Option.bind_eq_bind, Option.bind_some]
  cases o.result with
  | error fault => exact ⟨rfl, hs⟩
  | ok a =>
    obtain ⟨heq, hs⟩ := hn a o.session hs
    dsimp only
    rw [heq]
    exact ⟨rfl, hs⟩

theorem write_runs (hw : 16 ≤ word) (hs : s.window.Numbered) (frame : Apdu) :
    Runs (write word s frame) (s.write frame) := by
  unfold write Session.write
  rw [encode_eq hw]
  simp only [Option.bind_eq_bind, Option.bind_some]
  cases frame.encode with
  | error fault => exact runs_fail hs fault
  | ok octets =>
    dsimp only
    split
    · exact ⟨rfl, hs⟩
    · exact runs_fail hs _

theorem sendControl_runs (hw : 16 ≤ word) (hs : s.window.Numbered) (function : ControlFunction) (now : Millis) :
    Runs (sendControl word s function now) (s.sendControl function now) := by
  apply (write_runs hw hs _).andThen
  intro _ s hs
  cases function.confirmation with
  | none => exact runs_done hs ()
  | some confirmation => exact ⟨rfl, hs⟩

theorem sendInformation_runs (hw : 16 ≤ word) (hs : s.window.Numbered) (asdu : Octets) (now : Millis) :
    Runs (sendInformation word s asdu now) (s.sendInformation asdu now) := by
  unfold sendInformation Session.sendInformation
  by_cases hc : s.window.canSend = true
  · rw [if_pos hc, if_pos hc, prepareInformation_eq hs]
    have hnext := hs.prepareInformation hc now
    exact write_runs hw hnext _
  · rw [if_neg hc, if_neg hc]
    exact runs_fail hs _

theorem acknowledgeIfDue_runs (hw : 16 ≤ word) (hs : s.window.Numbered) (now : Millis) :
    Runs (acknowledgeIfDue word s now) (s.acknowledgeIfDue now) := by
  unfold acknowledgeIfDue Session.acknowledgeIfDue
  split
  · exact write_runs hw hs.confirmed _
  · exact runs_done hs _

theorem receiveControl_runs (hw : 16 ≤ word) (hs : s.window.Numbered) (function : ControlFunction)
    (now : Millis) : Runs (receiveControl word s function now) (s.receiveControl function now) := by
  cases function with
  | testAct => exact (sendControl_runs hw (by exact hs) _ _).andThen fun _ _ hs => runs_done hs _
  | testCon | startCon | stopCon | startAct | stopAct | undefined => exact ⟨rfl, hs⟩

theorem receive_runs (hw : 16 ≤ word) (hs : s.window.Numbered) {frame : Apdu} (hf : frame.apci.Fits)
    (now : Millis) : Runs (receive word s frame now) (s.receive frame now) := by
  unfold receive Session.receive
  have hs' : (s.counted now).window.Numbered := hs
  cases ha : frame.apci with
  | information send receive =>
    rw [ha] at hf
    dsimp only
    rw [onInformation_eq hs' (Nat.lt_trans hf (by decide))]
    cases hi : Window.onInformation send receive now (s.counted now).window with
    | error fault w =>
      rw [Window.eq_of_onInformation_error hi]
      exact runs_fail hs' _
    | ok u w =>
      have hw' := hs'.onInformation hi
      exact (acknowledgeIfDue_runs hw (by exact hw') now).andThen fun _ _ hs => runs_done hs _
  | supervisory receive =>
    rw [ha] at hf
    dsimp only
    rw [acknowledge_eq hs' (Nat.lt_trans hf (by decide))]
    cases hi : Window.acknowledge receive (s.counted now).window with
    | error fault w =>
      rw [Window.eq_of_acknowledge_error hi]
      exact runs_fail hs' _
    | ok u w => exact runs_done (hs'.acknowledge hi).1 _
  | unnumbered function => exact receiveControl_runs hw hs' function now

theorem testIfIdle_runs (hw : 16 ≤ word) (hs : s.window.Numbered) (now : Millis) :
    Runs (testIfIdle word s now) (s.testIfIdle now) := by
  unfold testIfIdle Session.testIfIdle
  split
  · dsimp only
    split
    · exact ⟨rfl, hs⟩
    · exact sendControl_runs hw (by exact hs) _ _
  · exact runs_done hs _

theorem onTimer_runs (hw : 16 ≤ word) (hs : s.window.Numbered) (now : Millis) :
    Runs (onTimer word s now) (s.onTimer now) := by
  unfold onTimer Session.onTimer
  split
  · exact runs_fail hs _
  · exact (acknowledgeIfDue_runs hw hs now).andThen fun _ _ hs => testIfIdle_runs hw hs now

end

end Machine

end Telecontrol
