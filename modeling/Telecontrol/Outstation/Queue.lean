import Telecontrol.Asdu

/-!
# Outbound queue

Data that waits for the active connection of an outstation. The queue is bounded: when it is full the
oldest entry makes room for the new one.

* `OutboundQueue`: the waiting ASDUs, the oldest first.
* `OutboundQueue.push`, `OutboundQueue.pop?`: the two ends.
-/

namespace Telecontrol

/-- ASDUs that wait for the active connection, the oldest first. -/
structure OutboundQueue where
  capacity : Nat
  items : List Asdu := []
  deriving DecidableEq, Repr, Inhabited

namespace OutboundQueue

/-- An empty queue. A queue without room would lose everything, so one place is the least. -/
def ofCapacity (capacity : Nat) : OutboundQueue := { capacity := max capacity 1 }

def size (q : OutboundQueue) : Nat := q.items.length

/-- The queue with one more ASDU at its end, and the oldest one if it had to make room. -/
def push (q : OutboundQueue) (asdu : Asdu) : OutboundQueue × Option Asdu :=
  if q.capacity ≤ q.size then
    ({ q with items := q.items.drop 1 ++ [asdu] }, q.items.head?)
  else
    ({ q with items := q.items ++ [asdu] }, none)

def pop? (q : OutboundQueue) : Option (Asdu × OutboundQueue) :=
  match q.items with
  | [] => none
  | asdu :: later => some (asdu, { q with items := later })

end OutboundQueue

end Telecontrol
