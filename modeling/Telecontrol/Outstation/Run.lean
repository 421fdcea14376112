import Telecontrol.Outstation

/-!
# Runs of an outstation

The tasks of an outstation may take their steps in any order.

* `Outstation.Input`: what can happen to an outstation. `Outstation.begin` is what it does at once, and
  `Outstation.complete` what its task has left to do.
* `Outstation.apply`: both in one step.
* `Outstation.receive`, `Outstation.drainAll`, `Outstation.advance`, `Outstation.stop`: steps until
  nothing is left to do, in the order of the connections.
-/

namespace Telecontrol

namespace Outstation

/-- What can happen to an outstation. A task may look for a frame, a command or a deadline whether
or not there is one. -/
inductive Input where
  | accept (peer : String) (answer : Option Bool)
  | handshake (id : Nat) (secured : Bool)
  | expire (id : Nat)
  | arrive (id : Nat) (octets : Octets)
  | readable (id : Nat)
  | command (id : Nat)
  | timer (id : Nat)
  | endOfStream (id : Nat)
  | breakStream (id : Nat)
  | enqueue (asdu : Asdu)
  | send (id : Nat) (asdu : Asdu)
  | close (id : Nat)
  | handlers (handlers : Handlers)
  deriving Inhabited

/-- Changes the link of a connection, if its stream is in use. -/
def updateLink (o : Outstation) (id : Nat) (f : StationLink → StationLink) : Outstation :=
  (o.onLink id fun c link => (o.put (c.withLink (f link)), [])).1

def arrive (o : Outstation) (id : Nat) (octets : Octets) : Outstation :=
  o.updateLink id fun link => { link with inbound := link.inbound ++ octets }

def breakStream (o : Outstation) (id : Nat) : Outstation :=
  o.updateLink id fun link => { link with session := { link.session with writable := false } }

/-- What an outstation does at once when something happens. -/
def begin (o : Outstation) (now : Millis) : Input → Step
  | .accept peer answer => (o.accept peer answer now).1
  | .handshake id secured => o.secure id secured now
  | .expire id => o.expire id now
  | .arrive id octets => (o.arrive id octets, [])
  | .readable id => o.takeFrame id now
  | .command id => o.takeCommand id
  | .timer id => o.handleTimers id now
  | .endOfStream id => o.endOfStream id
  | .breakStream id => (o.breakStream id, [])
  | .enqueue asdu => o.push asdu
  | .send id asdu =>
    match o.send id asdu with
    | .ok o => (o, [.accepted id asdu])
    | .error _ => (o, [])
  | .close id => (o.closeConnection id, [])
  | .handlers handlers => ({ o with handlers }, [])

def iterate (step : Outstation → Step) : Nat → Outstation → Step
  | 0, o => (o, [])
  | n + 1, o => andThen (step o) (iterate step n)

/-- How often a task goes on, at most, until it waits; `queued` ASDUs wait in the queue. -/
def stepsLeft (link : StationLink) (queued : Nat) : Nat :=
  let ahead := link.outbox.length + queued
  match link.point with
  | .waiting => 0
  | .acting _ => ahead + 5
  | .confirming _ => ahead + 3
  | .due => ahead + 2
  | .sending => ahead + 1

/-- A task goes on until it waits. -/
def settle (o : Outstation) (id : Nat) (now : Millis) : Step :=
  let steps := ((o.connection? id).bind (·.link?)).elim 0 (stepsLeft · o.queue.size)
  iterate (·.proceed id now) steps o

/-- What is left to do when something has happened. -/
def complete (o : Outstation) (now : Millis) : Input → Step
  | .handshake id _ | .readable id | .command id | .timer id => o.settle id now
  | .enqueue _ => (o.wakeActive, [])
  | _ => (o, [])

/-- One step of an outstation, which nothing else comes between. -/
def apply (o : Outstation) (now : Millis) (input : Input) : Step :=
  andThen (o.begin now input) (·.complete now input)

def enqueue (o : Outstation) (asdu : Asdu) : Step := andThen (o.push asdu) fun o => (o.wakeActive, [])

/-- Lets a task take all commands that wait for it. -/
def drain (id : Nat) (now : Millis) (o : Outstation) : Step :=
  let waiting := (o.connection? id).elim 0 (·.commands.length)
  iterate (·.apply now (.command id)) waiting o

/-- Octets arrive, and the task handles the frames that they complete; after each it takes the commands
that have come up. Every frame takes at least one octet. -/
def receive (o : Outstation) (id : Nat) (octets : Octets) (now : Millis) : Step :=
  let o := o.arrive id octets
  let waiting := ((o.connection? id).bind (·.link?)).elim 0 (·.inbound.length)
  iterate (fun o => andThen (o.apply now (.readable id)) (drain id now)) waiting o

def drainAll (o : Outstation) (now : Millis) : Step :=
  o.connections.foldl (fun step c => andThen step (drain c.id now)) (o, [])

/-- The clock has moved: handshakes may end, and every task handles its timers. -/
def advance (o : Outstation) (now : Millis) : Step :=
  o.connections.foldl
    (fun step c => andThen (andThen step (·.expire c.id now)) (·.apply now (.timer c.id))) (o, [])

/-- Stops to listen and closes every connection. -/
def stop (o : Outstation) (now : Millis) : Step :=
  let o := { o with running := false, connections := o.connections.map StationConnection.close }
  o.drainAll now

end Outstation

end Telecontrol
