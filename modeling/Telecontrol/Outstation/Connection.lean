import Telecontrol.Outstation.Dispatch
import Telecontrol.Session

/-!
# Connections of an outstation

One connection from a master: how far it has come, whether it carries the data transfer, and what waits
for its task.

* `ConnectionPhase`: a stream is secured, then used, then let go; `StationLink` is a stream in use, and
  `TaskPoint` tells where its task stands.
* `StationConnection`: a connection, with the commands that wait for its task.
* `StationConnection.send`, `StationConnection.ask`, `StationConnection.close`,
  `StationConnection.perform`: what the outstation and the application do with it.
-/

namespace Telecontrol

/-- What happens to a connection of an outstation. It is also deactivated where the data transfer
starts on another one. -/
inductive ConnectionEvent where
  | opened
  | closed
  | activated
  | deactivated
  deriving DecidableEq, Repr, Inhabited

def ConnectionEvent.label : ConnectionEvent → String
  | opened => "Opened"
  | closed => "Closed"
  | activated => "Activated"
  | deactivated => "Deactivated"

/-- What is asked of the task of a connection. -/
inductive TaskCommand where
  | send (asdu : Asdu)
  | wake
  | close
  deriving DecidableEq, Repr, Inhabited

/-- Where the task of a connection stands. It waits for something to handle, handles it, sends what
the window allows and waits again. -/
inductive TaskPoint where
  /-- It waits for a frame, a command or a timer. -/
  | waiting
  /-- It has taken a frame, of which the link layer left this. -/
  | acting (inbound : Inbound)
  /-- It has started or stopped the data transfer and is to confirm that. -/
  | confirming (function : ControlFunction)
  /-- It is to find out whether it may send. -/
  | due
  /-- It has found its connection active and sends what waits. -/
  | sending
  deriving DecidableEq, Repr, Inhabited

/-- A connection whose stream is in use. The outbox holds its responses that wait for the window,
the oldest first. -/
structure StationLink where
  session : Session
  point : TaskPoint := .due
  inbound : Octets := []
  outbox : List Asdu := []
  deriving DecidableEq, Repr, Inhabited

/-- How far a connection has come. Its stream must be secured by a deadline; the counters of one
that is over can still be read. -/
inductive ConnectionPhase where
  | securing (deadline : Millis)
  | serving (link : StationLink)
  | ended (traffic : Traffic)
  deriving DecidableEq, Repr, Inhabited

/-- A connection from a master. The active one carries the data transfer; the commands wait for
its task, the oldest first. -/
structure StationConnection where
  id : Nat
  peer : String
  active : Bool := false
  phase : ConnectionPhase
  commands : List TaskCommand := []
  deriving DecidableEq, Repr, Inhabited

namespace StationConnection

/-- Whether the connection counts against the limit. -/
def isRegistered (c : StationConnection) : Bool :=
  match c.phase with
  | .ended _ => false
  | _ => true

def link? (c : StationConnection) : Option StationLink :=
  match c.phase with
  | .serving link => some link
  | _ => none

def traffic (c : StationConnection) : Traffic :=
  match c.phase with
  | .securing _ => {}
  | .serving link => link.session.traffic
  | .ended traffic => traffic

def withLink (c : StationConnection) (link : StationLink) : StationConnection :=
  { c with phase := .serving link }

/-- Asks the task to send an ASDU; only the active connection takes one. -/
def send (c : StationConnection) (asdu : Asdu) : Except Fault StationConnection :=
  if c.active then
    .ok { c with commands := c.commands ++ [.send asdu] }
  else
    .error (.connection s!"data transfer not started on {c.peer}")

/-- Gives the task a command, unless the connection is over. -/
def ask (c : StationConnection) (command : TaskCommand) : StationConnection :=
  if c.isRegistered then { c with commands := c.commands ++ [command] } else c

def close (c : StationConnection) : StationConnection := c.ask .close

/-- Does what a handler wants done, and tells how each action went. -/
def perform (c : StationConnection) :
    List HandlerAction → StationConnection × List (Except Fault Unit)
  | [] => (c, [])
  | action :: later =>
    let done : StationConnection × Except Fault Unit :=
      match action with
      | .close => (c.close, .ok ())
      | .send asdu =>
        match c.send asdu with
        | .ok c => (c, .ok ())
        | .error fault => (c, .error fault)
    let rest := done.1.perform later
    (rest.1, done.2 :: rest.2)

def describe (c : StationConnection) : String :=
  Text.record "ServerConnectionHandle"
    [("id", toString c.id), ("peer", c.peer), ("active", toString c.active)] false

end StationConnection

end Telecontrol
