import Telecontrol.Apci
import Telecontrol.Parameters

/-!
# Sliding window

Numbering and acknowledgement of the I-frames of one link. Every operation takes the current instant,
so a window owns no clock.

* `Window`: the two counters, the sent frames that await their acknowledgement and the received ones
  that are to be acknowledged.
* `Window.distance`: how many numbers lie between two sequence numbers.
* `Window.prepareInformation`, `Window.prepareSupervisory`: the control information of a frame to send.
* `Window.onInformation`, `Window.acknowledge`: what a received frame does to the window, which keeps
  what was done before a fault.
* `Window.ackDeadline`, `Window.t1Deadline`: the timers t2 and t1.
-/

namespace Telecontrol

/-- A sent I-frame that awaits its acknowledgement. -/
structure SentFrame where
  number : Nat
  sentAt : Millis
  deriving DecidableEq, Repr, Inhabited

/-- The numbering state of one end of a link. `sendCount` is the number N(S) of the I-frame to
send next and `receiveCount` that of the one to be received next. The I-frames that were received
and not yet acknowledged are counted up to 65535; those sent and not yet acknowledged are kept,
the oldest first. -/
structure Window where
  parameters : Parameters
  sendCount : Nat := 0
  receiveCount : Nat := 0
  unconfirmed : Nat := 0
  firstUnconfirmedAt : Option Millis := none
  outstanding : Array SentFrame := #[]
  deriving DecidableEq, Repr, Inhabited

namespace Window

open Apci (sequenceModulus)

/-- Number of steps from one sequence number forward to another. -/
def distance (start finish : Nat) : Nat :=
  (finish + (sequenceModulus - start % sequenceModulus)) % sequenceModulus

def successor (n : Nat) : Nat := (n + 1) % sequenceModulus

def start (p : Parameters) : Window := { parameters := p }

def canSend (w : Window) : Bool := w.outstanding.size < w.parameters.k

/-- The window after everything received has been acknowledged. -/
def confirmed (w : Window) : Window := { w with unconfirmed := 0, firstUnconfirmedAt := none }

/-! ## Sending -/

/-- The control information of the next I-frame, which also acknowledges everything received. -/
def prepareInformation (w : Window) (now : Millis) : Apci × Window :=
  (.information w.sendCount w.receiveCount,
    { w.confirmed with
      outstanding := w.outstanding.push ⟨w.sendCount, now⟩
      sendCount := successor w.sendCount })

/-- The control information of an S-frame, which acknowledges everything received. -/
def prepareSupervisory (w : Window) : Apci × Window :=
  (.supervisory w.receiveCount, w.confirmed)

/-! ## Receiving -/

/-- Releases the sent frames in front of N(R) = `receive`. The number must lie between the oldest
frame that awaits its acknowledgement and the next one to send; 16 bits of their count matter. -/
def acknowledge (receive : Nat) : EStateM Fault Window Unit := do
  let w ← get
  let waiting := w.outstanding.size % 65536
  let oldest := distance waiting w.sendCount
  let released := distance oldest receive
  if waiting < released then
    let window := s!"(send count {w.sendCount}, {waiting} outstanding)"
    throw (.protocol s!"invalid acknowledgement N(R)={receive} {window}")
  else
    set { w with outstanding := w.outstanding.drop released }

/-- Counts a received I-frame with the numbers N(S) = `send` and N(R) = `receive`. -/
def onInformation (send receive : Nat) (now : Millis) : EStateM Fault Window Unit := do
  let w ← get
  if send ≠ w.receiveCount then
    throw (.sequenceMismatch w.receiveCount send)
  else
    acknowledge receive
    modify fun w =>
      { w with
        receiveCount := successor w.receiveCount
        firstUnconfirmedAt := if w.unconfirmed = 0 then some now else w.firstUnconfirmedAt
        unconfirmed := min (w.unconfirmed + 1) 65535 }

/-! ## Timers -/

def ackDeadline (w : Window) : Option Millis :=
  w.firstUnconfirmedAt.map (· + w.parameters.t2)

/-- Whether an S-frame is due: more than `w` frames are unacknowledged, or t2 has run out. -/
def ackRequired (w : Window) (now : Millis) : Bool :=
  decide (w.parameters.w < w.unconfirmed) || w.ackDeadline.any (· ≤ now)

def t1Deadline (w : Window) : Option Millis :=
  w.outstanding[0]?.map (·.sentAt + w.parameters.t1)

def t1Expired (w : Window) (now : Millis) : Bool := w.t1Deadline.any (· ≤ now)

end Window

end Telecontrol
