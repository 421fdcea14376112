import Telecontrol.Apdu
import Telecontrol.Window

/-!
# Sessions

The link layer of one connection, the same at both ends: it numbers and acknowledges I-frames, answers
link tests, watches over confirmations and hands the rest up.

* `Session`: the window, the idle time, the activations that await a confirmation and the traffic
  counters.
* `Session.Outcome`: what an operation leaves behind: the session, the frames that it wrote and its
  result. A failed operation keeps what it had changed before it failed.
* `Session.sendControl`, `Session.sendInformation`: sending.
* `Session.receive`: the link layer's part of a received frame; `Inbound` is what is left for the
  application.
* `Session.nextDeadline`, `Session.onTimer`: the timers t1, t2 and t3.
-/

namespace Telecontrol

/-- Traffic counters of a link: frames sent and received, and among the latter link tests and
their confirmations. -/
structure Traffic where
  sent : Nat := 0
  received : Nat := 0
  testAct : Nat := 0
  testCon : Nat := 0
  deriving DecidableEq, Repr, Inhabited

/-- An activation that awaits its confirmation. -/
structure Awaited where
  function : ControlFunction
  deadline : Millis
  deriving DecidableEq, Repr, Inhabited

/-- What a received frame leaves to the application: the octets of an ASDU that came in sequence,
or a start or stop of the data transfer or the confirmation of one. -/
inductive Inbound where
  | asdu (octets : Octets)
  | control (function : ControlFunction)
  | handled
  deriving DecidableEq, Repr, Inhabited

/-- The link layer of one connection. It is idle since the last frame was received or the last
idle time ended. The activations await their confirmation in the order they were sent. -/
structure Session where
  window : Window
  idleSince : Millis
  awaited : List Awaited := []
  traffic : Traffic := {}
  writable : Bool := true
  deriving DecidableEq, Repr, Inhabited

namespace Session

def start (p : Parameters) (now : Millis) : Session where
  window := .start p
  idleSince := now

def parameters (s : Session) : Parameters := s.window.parameters

/-! ## Outcomes -/

/-- What an operation on a session leaves behind. -/
structure Outcome (α : Type) where
  session : Session
  written : List Apdu
  result : Except Fault α

namespace Outcome

def done {α : Type} (s : Session) (a : α) : Outcome α := ⟨s, [], .ok a⟩

def fail {α : Type} (s : Session) (fault : Fault) : Outcome α := ⟨s, [], .error fault⟩

/-- Goes on where an operation succeeded. -/
def andThen {α β : Type} (o : Outcome α) (next : α → Session → Outcome β) : Outcome β :=
  match o.result with
  | .error fault => ⟨o.session, o.written, .error fault⟩
  | .ok a =>
    let later := next a o.session
    ⟨later.session, o.written ++ later.written, later.result⟩

end Outcome

/-! ## Sending -/

/-- Writes a frame and counts it. -/
def write (s : Session) (frame : Apdu) : Outcome Unit :=
  match frame.encode with
  | .error fault => .fail s fault
  | .ok _ =>
    if s.writable then
      ⟨{ s with traffic := { s.traffic with sent := s.traffic.sent + 1 } }, [frame], .ok ()⟩
    else
      .fail s (.io "broken pipe")

/-- Sends a U-frame. An activation is to be confirmed within t1. -/
def sendControl (s : Session) (function : ControlFunction) (now : Millis) : Outcome Unit :=
  (s.write (.unnumbered function)).andThen fun _ s =>
    match function.confirmation with
    | some _ =>
      .done { s with awaited := s.awaited ++ [⟨function, now + s.parameters.t1⟩] } ()
    | none => .done s ()

/-- Sends the octets of an ASDU in the next I-frame. While `k` I-frames await their acknowledgement it
is refused and nothing changes. -/
def sendInformation (s : Session) (asdu : Octets) (now : Millis) : Outcome Unit :=
  if s.window.canSend then
    let (apci, window) := s.window.prepareInformation now
    { s with window }.write ⟨apci, some asdu⟩
  else
    .fail s (.tooManyUnconfirmed s.parameters.k)

def sendSupervisory (s : Session) : Outcome Unit :=
  let (apci, window) := s.window.prepareSupervisory
  { s with window }.write ⟨apci, none⟩

def acknowledgeIfDue (s : Session) (now : Millis) : Outcome Unit :=
  if s.window.ackRequired now then s.sendSupervisory else .done s ()

/-! ## Receiving -/

/-- Ends the wait of the activations that a function confirms. -/
def confirm (s : Session) (confirmation : ControlFunction) : Session :=
  { s with
    awaited := s.awaited.filter fun a => a.function.confirmation != some confirmation }

/-- The session after a frame has come in: it is not idle, and the frame counts. -/
def counted (s : Session) (now : Millis) : Session :=
  { s with
    idleSince := now
    traffic := { s.traffic with received := s.traffic.received + 1 } }

def receiveControl (s : Session) (function : ControlFunction) (now : Millis) : Outcome Inbound :=
  match function with
  | .testAct =>
    let s := { s with traffic := { s.traffic with testAct := s.traffic.testAct + 1 } }
    (s.sendControl .testCon now).andThen fun _ s => .done s .handled
  | .testCon =>
    let s := { s with traffic := { s.traffic with testCon := s.traffic.testCon + 1 } }
    .done (s.confirm .testCon) .handled
  | .startCon | .stopCon => .done (s.confirm function) (.control function)
  | .startAct | .stopAct => .done s (.control function)
  | .undefined _ => .done s .handled

def receive (s : Session) (frame : Apdu) (now : Millis) : Outcome Inbound :=
  let s := s.counted now
  match frame.apci with
  | .information send receive =>
    match Window.onInformation send receive now s.window with
    | .error fault window => .fail { s with window } fault
    | .ok _ window =>
      ({ s with window }.acknowledgeIfDue now).andThen fun _ s =>
        .done s (.asdu (frame.asdu.getD []))
  | .supervisory receive =>
    match Window.acknowledge receive s.window with
    | .error fault window => .fail { s with window } fault
    | .ok _ window => .done { s with window } .handled
  | .unnumbered function => s.receiveControl function now

/-! ## Timers -/

def idleDeadline (s : Session) : Millis := s.idleSince + s.parameters.t3

/-- The earliest instant at which a timer needs attention. -/
def nextDeadline (s : Session) : Millis :=
  (s.window.t1Deadline.toList ++ s.window.ackDeadline.toList ++ s.awaited.map (·.deadline)).foldl
    min s.idleDeadline

def awaits (s : Session) (function : ControlFunction) : Bool :=
  s.awaited.any (·.function == function)

/-- Whether an I-frame or an activation has waited for longer than t1. -/
def t1Expired (s : Session) (now : Millis) : Bool :=
  s.window.t1Expired now || s.awaited.any (·.deadline ≤ now)

/-- Tests the link if it has been idle for t3, unless a test is under way. -/
def testIfIdle (s : Session) (now : Millis) : Outcome Unit :=
  if s.idleDeadline ≤ now then
    let s := { s with idleSince := now }
    if s.awaits .testAct then .done s () else s.sendControl .testAct now
  else
    .done s ()

/-- Handles the timers that have run out: t1 fails the link, t2 acknowledges, t3 tests the link. -/
def onTimer (s : Session) (now : Millis) : Outcome Unit :=
  if s.t1Expired now then
    .fail s .t1Timeout
  else
    (s.acknowledgeIfDue now).andThen fun _ s => s.testIfIdle now

end Session

end Telecontrol
