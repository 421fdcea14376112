import Telecontrol.Master.Config
import Telecontrol.Master.Request
import Telecontrol.Session

/-!
# Masters

A controlling station with at most one link to its outstation. A link runs until its stream ends, a
frame or a timer fails it, the application refuses an ASDU, or the master closes it; then the master may
connect again and everything starts from zero.

* `Master`: configuration, state and link; `Master.create`.
* `MasterEffect`: what the outside sees of a step, in the order in which it happens.
* `Master.connectStream`, `Master.dial`, `Master.close`: the life of a link.
* `Master.receive`, `Master.endOfStream`, `Master.onTimer`: what the stream and the clock do.
* `Master.sendControl`, `Master.sendAsdu`, `Master.request`: what the application asks for.
* `Master.apply`: one step of a link, for any of its inputs.
-/

namespace Telecontrol

/-- Where a master stands with its outstation. An attempt at a link that fails leaves it
disconnected, a link that ends leaves it closed. -/
inductive MasterState where
  | disconnected
  | connecting
  | connectedInactive
  | connectedActive
  | closed
  deriving DecidableEq, Repr, Inhabited

def MasterState.label : MasterState → String
  | disconnected => "Disconnected"
  | connecting => "Connecting"
  | connectedInactive => "ConnectedInactive"
  | connectedActive => "ConnectedActive"
  | closed => "Closed"

inductive LinkEvent where
  | opened
  | closed
  | startConfirmed
  | stopConfirmed
  deriving DecidableEq, Repr, Inhabited

def LinkEvent.label : LinkEvent → String
  | opened => "Opened"
  | closed => "Closed"
  | startConfirmed => "StartDtConReceived"
  | stopConfirmed => "StopDtConReceived"

/-- What the outside sees of a master. A complete frame counts as received, well formed or not. -/
inductive MasterEffect where
  | sent (frame : Apdu)
  | received (octets : Octets)
  | event (event : LinkEvent)
  | delivered (asdu : Asdu)
  deriving DecidableEq, Repr, Inhabited

/-- A link that runs, with the octets that do not make a frame yet. -/
structure MasterLink where
  session : Session
  inbound : Octets := []
  deriving DecidableEq, Repr, Inhabited

/-- A controlling station. It is attached to a link that was started and not closed from here.
`answers` tells whether the application takes ASDUs, and how it answers the next ones: a link
whose ASDU is refused ends. Beyond the list every answer is `true`. -/
structure Master where
  config : MasterConfig
  state : MasterState := .disconnected
  link : Option MasterLink := none
  lastTraffic : Traffic := {}
  attached : Bool := false
  answers : Option (List Bool) := some []
  deriving DecidableEq, Repr, Inhabited

namespace Master

def create (config : MasterConfig) (answers : Option (List Bool)) : Master where
  config := config
  answers := answers

/-- Traffic of the link that runs, or of the last one. -/
def traffic (m : Master) : Traffic :=
  match m.link with
  | some link => link.session.traffic
  | none => m.lastTraffic

def describe (m : Master) : String :=
  Text.record "Connection" [("config", m.config.describe), ("state", m.state.label)] false

/-- A step of a master: the master after it and what was seen of it. -/
abbrev Step := Master × List MasterEffect

/-- Effects before those of a step. -/
def after (effects : List MasterEffect) (step : Step) : Step := (step.1, effects ++ step.2)

def sentFrames {α : Type} (o : Session.Outcome α) : List MasterEffect := o.written.map .sent

/-! ## The life of a link -/

/-- Ends the link whose session is given. -/
def finish (m : Master) (s : Session) : Step :=
  ({ m with state := .closed, link := none, lastTraffic := s.traffic }, [.event .closed])

/-- Goes on with the link, or ends it where a session operation failed. -/
def settle (m : Master) (link : MasterLink) (o : Session.Outcome Unit) : Step :=
  after (sentFrames o) <|
    match o.result with
    | .ok _ => ({ m with link := some { link with session := o.session } }, [])
    | .error _ => m.finish o.session

/-- Checks that a link may be opened. -/
def beginConnect (m : Master) : Except Fault Master :=
  match m.state with
  | .disconnected | .closed => do
    m.config.parameters.validate
    return { m with state := .connecting }
  | _ => .error (.connection "already connected")

def startLink (m : Master) (now : Millis) : Step :=
  let link : MasterLink := { session := .start m.config.parameters now }
  let m := { m with state := .connectedInactive, link := some link, attached := true }
  after [.event .opened] <|
    if m.config.autostart then m.settle link (link.session.sendControl .startAct now) else (m, [])

/-- Runs a link on a stream that is open already. -/
def connectStream (m : Master) (now : Millis) : Step × Except Fault Unit :=
  match m.beginConnect with
  | .error fault => ((m, []), .error fault)
  | .ok m => (m.startLink now, .ok ())

/-- How an attempt to open and secure a stream went. -/
inductive Dialled where
  | opened
  | failed (text : String)
  | timedOut
  | abandoned
  deriving DecidableEq, Repr, Inhabited

/-- Opens a stream to the outstation and runs a link on it. There is no result if the caller gave up:
the master then stays in the state of connecting. -/
def dial (m : Master) (dialled : Dialled) (now : Millis) : Step × Option (Except Fault Unit) :=
  match m.beginConnect with
  | .error fault => ((m, []), some (.error fault))
  | .ok m =>
    match dialled with
    | .opened => (m.startLink now, some (.ok ()))
    | .failed text => (({ m with state := .disconnected }, []), some (.error (.io text)))
    | .timedOut => (({ m with state := .disconnected }, []), some (.error .connectionTimeout))
    | .abandoned => ((m, []), none)

/-- Closes the link. The flag tells whether the close is complete; it is not where a link had ended and
a later attempt to connect failed, because the state never becomes `closed` then. -/
def close (m : Master) : Step × Bool :=
  if m.attached then
    let detached := { m with attached := false }
    match m.link with
    | some link => (detached.finish link.session, true)
    | none => ((detached, []), detached.state == .closed)
  else
    ((m, []), true)

/-! ## The stream and the clock -/

/-- Gives an ASDU to the application, if it takes any. A refused ASDU ends the link. -/
def deliver (m : Master) (link : MasterLink) (asdu : Asdu) : Step :=
  match m.answers with
  | none => ({ m with link := some link }, [])
  | some answers =>
    let m := { m with answers := some answers.tail }
    after [.delivered asdu] <|
      if answers.headD true then ({ m with link := some link }, []) else m.finish link.session

/-- Acts on what a received frame left over. A malformed ASDU is dropped. -/
def onInbound (m : Master) (link : MasterLink) : Inbound → Step
  | .asdu octets =>
    match Asdu.parse m.config.parameters octets with
    | .ok asdu => m.deliver link asdu
    | .error _ => ({ m with link := some link }, [])
  | .control .startCon =>
    ({ m with link := some link, state := .connectedActive }, [.event .startConfirmed])
  | .control .stopCon =>
    ({ m with link := some link, state := .connectedInactive }, [.event .stopConfirmed])
  | .control _ | .handled => ({ m with link := some link }, [])

def onFrame (m : Master) (link : MasterLink) (frame : Apdu) (now : Millis) : Step :=
  let o := link.session.receive frame now
  let link := { link with session := o.session }
  after (sentFrames o) <|
    match o.result with
    | .ok inbound => m.onInbound link inbound
    | .error _ => m.finish link.session

/-- Handles the frames of an octet string one after the other; what is incomplete waits. The link must
run, and its own undecoded octets stand in front of the string. -/
def consume (m : Master) (bs : Octets) (now : Millis) : Step :=
  match m.link with
  | none => (m, [])
  | some link =>
    match _h : Apdu.decode bs with
    | .incomplete => ({ m with link := some { link with inbound := bs } }, [])
    | .refused _ => m.finish link.session
    | .frame octets _ (.error _) => after [.received octets] (m.finish link.session)
    | .frame octets rest (.ok frame) =>
      let step := m.onFrame link frame now
      after (.received octets :: step.2) (consume step.1 rest now)
  termination_by bs.length
  decreasing_by exact Apdu.length_rest_lt (by assumption)

def receive (m : Master) (octets : Octets) (now : Millis) : Step :=
  match m.link with
  | none => (m, [])
  | some link => m.consume (link.inbound ++ octets) now

def endOfStream (m : Master) : Step :=
  match m.link with
  | none => (m, [])
  | some link => m.finish link.session

def onTimer (m : Master) (now : Millis) : Step :=
  match m.link with
  | none => (m, [])
  | some link =>
    if link.session.nextDeadline ≤ now then m.settle link (link.session.onTimer now) else (m, [])

/-! ## Requests of the application -/

/-- The answer to a request whose session operation failed. A full window leaves the link alone; any
other fault ends it, and the application hears of it as a fault of the connection. -/
def answer (m : Master) (link : MasterLink) (o : Session.Outcome Unit) : Step × Except Fault Unit :=
  match o.result with
  | .ok _ => (m.settle link o, .ok ())
  | .error (.tooManyUnconfirmed k) => ((m, []), .error (.tooManyUnconfirmed k))
  | .error fault => (m.settle link o, .error (.connection fault.message))

def sendControl (m : Master) (function : ControlFunction) (now : Millis) : Step × Except Fault Unit :=
  match m.link with
  | none => ((m, []), .error .notConnected)
  | some link => m.answer link (link.session.sendControl function now)

def sendAsdu (m : Master) (asdu : Asdu) (now : Millis) : Step × Except Fault Unit :=
  match m.link with
  | none => ((m, []), .error .notConnected)
  | some link => m.answer link (link.session.sendInformation asdu.encode now)

/-- Sends a command. One whose object does not fit into an ASDU is refused before the link is looked
at. -/
def request (m : Master) (r : Request) (now : Millis) : Step × Except Fault Unit :=
  match r.asdu m.config.parameters with
  | .error fault => ((m, []), .error fault)
  | .ok asdu => m.sendAsdu asdu now

/-! ## Runs -/

/-- What can happen to a link from outside. The timers are looked at whether or not a deadline has
been reached. -/
inductive Input where
  | octets (bs : Octets)
  | endOfStream
  | timer
  | sendControl (function : ControlFunction)
  | sendAsdu (asdu : Asdu)
  | request (r : Request)
  | close
  deriving DecidableEq, Inhabited

def apply (m : Master) (now : Millis) : Input → Step
  | .octets bs => m.receive bs now
  | .endOfStream => m.endOfStream
  | .timer => m.onTimer now
  | .sendControl function => (m.sendControl function now).1
  | .sendAsdu asdu => (m.sendAsdu asdu now).1
  | .request r => (m.request r now).1
  | .close => m.close.1

end Master

end Telecontrol
