import Telecontrol.Outstation.Config
import Telecontrol.Outstation.Connection
import Telecontrol.Outstation.Queue

/-!
# Outstations

A controlled station with any number of connections from masters, at most one of which is active.
Every connection has a task of its own. It takes one frame, one command or one timer at a time and then
sends what the window allows; other tasks may go on wherever it waits for its stream.

* `Outstation`: the connections and the queue that they share; `Outstation.create`.
* `StationEffect`: what is seen of a step, in the order in which it happens.
* `Outstation.accept`, `Outstation.secure`: how a connection begins.
* `Outstation.takeFrame`, `Outstation.takeCommand`, `Outstation.handleTimers`, `Outstation.endOfStream`:
  what a task does that waits.
* `Outstation.proceed`: what a task does next until it waits again.
* `Outstation.push`, `Outstation.lookUp`, `Outstation.wake`, `Outstation.send`,
  `Outstation.closeConnection`: what the application does.
-/

namespace Telecontrol

/-- Where an ASDU waited before it was sent: among the responses of a connection or in the queue
of the outstation. -/
inductive Source where
  | outbox
  | queue
  deriving DecidableEq, Repr, Inhabited

/-- What is seen of an outstation: its frames, what it reports and what it notes. -/
inductive StationEffect where
  /-- The application was asked whether a master may connect. -/
  | asked
  | admitted (id : Nat)
  | event (id : Nat) (event : ConnectionEvent)
  | sent (id : Nat) (frame : Apdu)
  | received (id : Nat) (octets : Octets)
  | called (id : Nat) (asdu : Asdu) (call : HandlerCall) (results : List (Except Fault Unit))
  /-- A connection took an ASDU from the application. -/
  | accepted (id : Nat) (asdu : Asdu)
  /-- The outstation itself answered a command. -/
  | replied (id : Nat) (asdu : Asdu)
  /-- The task of a connection took an ASDU to send; `c` is the connection as it was then. -/
  | taken (c : StationConnection) (source : Source) (asdu : Asdu)
  | dropped (asdu : Asdu)
  | hungUp (id : Nat)

/-- A controlled station. `waking` counts the ASDUs in the queue for which the active connection
is still to be looked up, and `woken` are the connections that were looked up and are still to be
woken. Connections that are over stay in the list. -/
structure Outstation where
  config : OutstationConfig
  handlers : Handlers := {}
  running : Bool := false
  queue : OutboundQueue
  waking : Nat := 0
  woken : List Nat := []
  nextId : Nat := 1
  connections : List StationConnection := []
  deriving Inhabited

namespace Outstation

def create (config : OutstationConfig) (handlers : Handlers) : Outstation where
  config := config
  handlers := handlers
  queue := .ofCapacity config.maxQueueSize

/-- The outstation as a diagnostic record while it does not listen. -/
def describe (o : Outstation) : String :=
  Text.record "Server" [("config", o.config.describe), ("local_addr", "None")] false

/-- A step of an outstation: the outstation after it and what was seen of it. -/
abbrev Step := Outstation × List StationEffect

def after (effects : List StationEffect) (step : Step) : Step := (step.1, effects ++ step.2)

def andThen (step : Step) (next : Outstation → Step) : Step := after step.2 (next step.1)

/-! ## Connections -/

/-- The connections that count against the limit, in the order they were accepted. -/
def registered (o : Outstation) : List StationConnection :=
  o.connections.filter (·.isRegistered)

def openConnections (o : Outstation) : Nat := o.registered.length

/-- The connection that carries the data transfer. -/
def activeConnection (o : Outstation) : Option StationConnection := o.registered.find? (·.active)

def connection? (o : Outstation) (id : Nat) : Option StationConnection :=
  o.connections.find? (·.id == id)

/-- The outstation with a connection in a new state. -/
def put (o : Outstation) (c : StationConnection) : Outstation :=
  { o with connections := o.connections.map fun other => if other.id = c.id then c else other }

/-- Does something with a connection whose stream is being secured. -/
def onSecuring (o : Outstation) (id : Nat) (task : StationConnection → Millis → Step) : Step :=
  match o.connection? id with
  | some c =>
    match c.phase with
    | .securing deadline => task c deadline
    | _ => (o, [])
  | none => (o, [])

/-- Does something with a connection whose stream is in use. -/
def onLink (o : Outstation) (id : Nat) (task : StationConnection → StationLink → Step) : Step :=
  match o.connection? id with
  | some c =>
    match c.phase with
    | .serving link => task c link
    | _ => (o, [])
  | none => (o, [])

/-- Does something with a connection whose task waits. -/
def onWaiting (o : Outstation) (id : Nat) (task : StationConnection → StationLink → Step) : Step :=
  o.onLink id fun c link => if link.point = .waiting then task c link else (o, [])

def sentFrames {α : Type} (id : Nat) (outcome : Session.Outcome α) : List StationEffect :=
  outcome.written.map (.sent id)

/-- Ends a connection that is in use. -/
def finish (o : Outstation) (c : StationConnection) (s : Session) : Step :=
  (o.put { c with active := false, phase := .ended s.traffic, commands := [] },
    [.event c.id .closed, .hungUp c.id])

/-- Ends a connection whose stream was never secured. -/
def abandon (o : Outstation) (c : StationConnection) : Step :=
  (o.put { c with phase := .ended {}, commands := [] }, [.hungUp c.id])

/-- Puts a link back after a session operation, or ends the connection if that failed. -/
def conclude (o : Outstation) (c : StationConnection) (link : StationLink)
    (outcome : Session.Outcome Unit) : Step :=
  after (sentFrames c.id outcome) <|
    match outcome.result with
    | .ok _ => (o.put (c.withLink { link with session := outcome.session }), [])
    | .error _ => o.finish c outcome.session

/-! ## How a connection begins -/

/-- A master dials in. It is turned away if the application does not want it (`answer`, if it was
asked) or if too many connections are open; else it gets an id and its stream is secured. -/
def accept (o : Outstation) (peer : String) (answer : Option Bool) (now : Millis) :
    Step × Option Nat :=
  let asked : List StationEffect := if answer.isSome then [.asked] else []
  if answer = some false ∨ o.config.maxOpenConnections ≤ o.openConnections then
    ((o, asked), none)
  else
    let c : StationConnection :=
      { id := o.nextId, peer, phase := .securing (now + o.config.parameters.t0) }
    (({ o with nextId := o.nextId + 1, connections := o.connections ++ [c] },
      asked ++ [.admitted c.id]), some c.id)

/-- The stream of a connection is secured, or could not be. -/
def secure (o : Outstation) (id : Nat) (secured : Bool) (now : Millis) : Step :=
  o.onSecuring id fun c _ =>
    if secured then
      (o.put (c.withLink { session := .start o.config.parameters now }), [.event id .opened])
    else o.abandon c

def expire (o : Outstation) (id : Nat) (now : Millis) : Step :=
  o.onSecuring id fun c deadline => if deadline ≤ now then o.abandon c else (o, [])

/-! ## What a task does that waits -/

def receiveFrame (o : Outstation) (c : StationConnection) (link : StationLink) (frame : Apdu)
    (now : Millis) : Step :=
  let outcome := link.session.receive frame now
  after (sentFrames c.id outcome) <|
    match outcome.result with
    | .ok inbound =>
      (o.put (c.withLink { link with session := outcome.session, point := .acting inbound }), [])
    | .error _ => o.finish c outcome.session

/-- A task takes the next frame off its stream, if it is complete. A faulty one ends the connection. -/
def takeFrame (o : Outstation) (id : Nat) (now : Millis) : Step :=
  o.onWaiting id fun c link =>
    match Apdu.decode link.inbound with
    | .incomplete => (o, [])
    | .refused _ => o.finish c link.session
    | .frame octets _ (.error _) => after [.received id octets] (o.finish c link.session)
    | .frame octets rest (.ok frame) =>
      after [.received id octets] (o.receiveFrame c { link with inbound := rest } frame now)

def takeCommand (o : Outstation) (id : Nat) : Step :=
  o.onWaiting id fun c link =>
    match c.commands with
    | [] => (o, [])
    | command :: later =>
      let c := { c with commands := later }
      match command with
      | .send asdu =>
        (o.put (c.withLink { link with outbox := link.outbox ++ [asdu], point := .due }), [])
      | .wake => (o.put (c.withLink { link with point := .due }), [])
      | .close => o.finish c link.session

def handleTimers (o : Outstation) (id : Nat) (now : Millis) : Step :=
  o.onWaiting id fun c link =>
    if link.session.nextDeadline ≤ now then
      o.conclude c { link with point := .due } (link.session.onTimer now)
    else (o, [])

/-- A task sees that its master has closed the stream, or that the outstation stops. -/
def endOfStream (o : Outstation) (id : Nat) : Step :=
  o.onWaiting id fun c link => o.finish c link.session

/-! ## What a task does next -/

/-- Makes a connection the only active one. The others hear of it first. -/
def activate (o : Outstation) (id : Nat) : Step :=
  let displaced := o.registered.filter fun c => c.id != id && c.active
  ({ o with
      connections := o.connections.map fun c =>
        if c.id = id then { c with active := true }
        else if c.isRegistered then { c with active := false }
        else c },
    displaced.map (fun c => .event c.id .deactivated) ++ [.event id .activated])

/-- Notes the calls of a dispatch and does what the handlers want done. -/
def performCalls (c : StationConnection) (asdu : Asdu) :
    List HandlerCall → StationConnection × List StationEffect
  | [] => (c, [])
  | call :: later =>
    let (c, results) := c.perform call.answer.actions
    let accepted := (call.answer.accepted results).map (.accepted c.id)
    let (c, effects) := performCalls c asdu later
    (c, accepted ++ .called c.id asdu call results :: effects)

/-- Routes an ASDU that came in on the active connection. A malformed one is dropped. -/
def onAsdu (o : Outstation) (c : StationConnection) (link : StationLink) (octets : Octets) :
    Step :=
  match Asdu.parse o.config.parameters octets with
  | .error _ => (o.put (c.withLink link), [])
  | .ok asdu =>
    let dispatch := o.handlers.dispatch asdu
    let called := performCalls c asdu dispatch.calls
    let replies := dispatch.reply.toList
    (o.put (called.1.withLink { link with outbox := link.outbox ++ replies }),
      called.2 ++ replies.map (.replied c.id))

/-- Acts on what the link layer left of a frame. -/
def act (o : Outstation) (c : StationConnection) (link : StationLink) (inbound : Inbound) : Step :=
  let ignored := o.put (c.withLink { link with point := .due })
  match inbound with
  | .asdu octets =>
    if c.active then o.onAsdu c { link with point := .due } octets else (ignored, [])
  | .control .startAct =>
    let o := o.put (c.withLink { link with point := .confirming .startCon })
    if c.active then (o, []) else o.activate c.id
  | .control .stopAct =>
    let c' := c.withLink { link with point := .confirming .stopCon }
    (o.put { c' with active := false }, if c.active then [.event c.id .deactivated] else [])
  | .control _ | .handled => (ignored, [])

/-- An inactive connection discards its responses and waits; the active one begins to send. -/
def beginSending (o : Outstation) (c : StationConnection) (link : StationLink) : Step :=
  if c.active then (o.put (c.withLink { link with point := .sending }), [])
  else (o.put (c.withLink { link with outbox := [], point := .waiting }), [])

/-- The next ASDU to send: responses come before queued data. -/
def nextAsdu? (link : StationLink) (queue : OutboundQueue) :
    Option (Source × Asdu × StationLink × OutboundQueue) :=
  match link.outbox with
  | asdu :: later => some (.outbox, asdu, { link with outbox := later }, queue)
  | [] => queue.pop?.map fun (asdu, queue) => (.queue, asdu, link, queue)

/-- Sends the next ASDU. If there is none or the window is full, the task waits. -/
def sendNext (o : Outstation) (c : StationConnection) (link : StationLink) (now : Millis) : Step :=
  match if link.session.window.canSend then nextAsdu? link o.queue else none with
  | none => (o.put (c.withLink { link with point := .waiting }), [])
  | some (source, asdu, link, queue) =>
    after [.taken c source asdu] <|
      { o with queue }.conclude c link (link.session.sendInformation asdu.encode now)

def proceed (o : Outstation) (id : Nat) (now : Millis) : Step :=
  o.onLink id fun c link =>
    match link.point with
    | .waiting => (o, [])
    | .acting inbound => o.act c link inbound
    | .confirming function =>
      o.conclude c { link with point := .due } (link.session.sendControl function now)
    | .due => o.beginSending c link
    | .sending => o.sendNext c link now

/-! ## What the application does -/

/-- Puts an ASDU into the queue; the active connection is still to be looked up. -/
def push (o : Outstation) (asdu : Asdu) : Step :=
  let (queue, oldest) := o.queue.push asdu
  ({ o with queue, waking := o.waking + 1 }, oldest.toList.map .dropped)

def lookUp (o : Outstation) : Outstation :=
  match o.waking with
  | 0 => o
  | waking + 1 => { o with waking, woken := o.woken ++ (o.activeConnection.map (·.id)).toList }

/-- Wakes a connection that was looked up. It may no longer be the active one. -/
def wake (o : Outstation) (id : Nat) : Outstation :=
  if id ∈ o.woken then
    let o := { o with woken := o.woken.erase id }
    match o.connection? id with
    | some c => o.put (c.ask .wake)
    | none => o
  else o

def wakeActive (o : Outstation) : Outstation :=
  o.activeConnection.elim o.lookUp fun c => o.lookUp.wake c.id

def send (o : Outstation) (id : Nat) (asdu : Asdu) : Except Fault Outstation :=
  match o.connection? id with
  | some c => (c.send asdu).map o.put
  | none => .error .notConnected

def closeConnection (o : Outstation) (id : Nat) : Outstation :=
  match o.connection? id with
  | some c => o.put c.close
  | none => o

/-- Starts to listen; `free` tells whether the port could be bound. -/
def start (o : Outstation) (free : Bool) : Except Fault Outstation := do
  if o.running then
    throw (.config "server already running")
  o.config.validate
  if free then return { o with running := true }
  throw (.io "address in use")

end Outstation

end Telecontrol
