import Telecontrol.Quality

/-!
# Commands

A command octet holds a state, a qualifier of five bits and the flag that tells a selection from an
execution.

* `DoubleCommandState`, `StepCommandState`: the states of two-bit commands.
* `Command`: a command with a state of any type, and `Command.layout`.
* `SetpointQualifier`: the qualifier of a set point.
-/

namespace Telecontrol

/-- State that a double command asks for. -/
inductive DoubleCommandState where
  | notPermitted0
  | off
  | on
  | notPermitted3
  deriving DecidableEq, Repr, Inhabited

namespace DoubleCommandState

def all : List DoubleCommandState := [notPermitted0, off, on, notPermitted3]

def label : DoubleCommandState → String
  | notPermitted0 => "NotPermitted0"
  | off => "Off"
  | on => "On"
  | notPermitted3 => "NotPermitted3"

def ofOctet (b : UInt8) : DoubleCommandState :=
  match b.toNat % 4 with
  | 0 => notPermitted0
  | 1 => off
  | 2 => on
  | _ => notPermitted3

def toOctet : DoubleCommandState → UInt8
  | notPermitted0 => 0
  | off => 1
  | on => 2
  | notPermitted3 => 3

end DoubleCommandState

/-- Step that a regulating command asks for. -/
inductive StepCommandState where
  | notPermitted0
  | lower
  | higher
  | notPermitted3
  deriving DecidableEq, Repr, Inhabited

namespace StepCommandState

def all : List StepCommandState := [notPermitted0, lower, higher, notPermitted3]

def label : StepCommandState → String
  | notPermitted0 => "Invalid0"
  | lower => "Lower"
  | higher => "Higher"
  | notPermitted3 => "Invalid3"

def ofOctet (b : UInt8) : StepCommandState :=
  match b.toNat % 4 with
  | 0 => notPermitted0
  | 1 => lower
  | 2 => higher
  | _ => notPermitted3

def toOctet : StepCommandState → UInt8
  | notPermitted0 => 0
  | lower => 1
  | higher => 2
  | notPermitted3 => 3

end StepCommandState

/-- A command to a point. Five bits of the qualifier travel; `select` selects the point instead of
executing the command. -/
structure Command (State : Type) where
  state : State
  qualifier : UInt8 := 0
  select : Bool := false
  deriving DecidableEq, Repr, Inhabited

namespace Command

variable {State : Type}

/-- The octet of a command, given the two bits of its state. -/
def toOctet (bits : State → UInt8) (c : Command State) : UInt8 :=
  bits c.state &&& 0x03 ||| (c.qualifier &&& 0x1F) <<< (2 : UInt8) ||| flagBits c.select 0x80

/-- The command in an octet, given what its low bits mean. -/
def ofOctet (state : UInt8 → State) (b : UInt8) : Command State where
  state := state b
  qualifier := (b &&& 0x7C) >>> (2 : UInt8)
  select := hasBits b 0x80

def layout (state : UInt8 → State) (bits : State → UInt8) : Layout (Command State) :=
  .packed (ofOctet state) (toOctet bits)

def singleLayout : Layout (Command Bool) :=
  layout (fun b => hasBits b 0x01) fun state => flagBits state 0x01

def doubleLayout : Layout (Command DoubleCommandState) :=
  layout .ofOctet DoubleCommandState.toOctet

def stepLayout : Layout (Command StepCommandState) :=
  layout .ofOctet StepCommandState.toOctet

end Command

/-- Qualifier of a set point, of which seven bits travel; `select` selects the set point instead
of executing it. -/
structure SetpointQualifier where
  qualifier : UInt8 := 0
  select : Bool := false
  deriving DecidableEq, Repr, Inhabited

namespace SetpointQualifier

/-- A qualifier reduced to seven bits. -/
def reduced (qualifier : UInt8) (select : Bool) : SetpointQualifier :=
  ⟨qualifier &&& 0x7F, select⟩

def toOctet (q : SetpointQualifier) : UInt8 := q.qualifier &&& 0x7F ||| flagBits q.select 0x80

def ofOctet (b : UInt8) : SetpointQualifier := ⟨b &&& 0x7F, hasBits b 0x80⟩

def layout : Layout SetpointQualifier := .packed ofOctet toOctet

end SetpointQualifier

end Telecontrol
