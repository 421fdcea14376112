import Telecontrol.Quality

/-!
# Points

* `DoublePoint`: the state that two bits report.
* `PackedPoints`: sixteen single points with the changes since the last report.
-/

namespace Telecontrol

/-- State of a double point; `intermediate` reports neither end position, `indeterminate` both. -/
inductive DoublePoint where
  | intermediate
  | off
  | on
  | indeterminate
  deriving DecidableEq, Repr, Inhabited

namespace DoublePoint

def all : List DoublePoint := [intermediate, off, on, indeterminate]

def label : DoublePoint → String
  | intermediate => "Intermediate"
  | off => "Off"
  | on => "On"
  | indeterminate => "Indeterminate"

def ofOctet (b : UInt8) : DoublePoint :=
  match b.toNat % 4 with
  | 0 => intermediate
  | 1 => off
  | 2 => on
  | _ => indeterminate

def toOctet : DoublePoint → UInt8
  | intermediate => 0
  | off => 1
  | on => 2
  | indeterminate => 3

end DoublePoint

/-- Sixteen single points, bit `i` for point `i`, and which of them changed since
the last report. -/
structure PackedPoints where
  status : UInt16 := 0
  changes : UInt16 := 0
  deriving DecidableEq, Repr, Inhabited

namespace PackedPoints

/-- Status of a point; there is none beyond the sixteenth. -/
def statusOf (p : PackedPoints) (point : Nat) : Bool :=
  decide (point < 16) && p.status.toNat.testBit point

def changed (p : PackedPoints) (point : Nat) : Bool :=
  decide (point < 16) && p.changes.toNat.testBit point

def layout : Layout PackedPoints :=
  (Layout.word16.followedBy .word16).map (fun (status, changes) => ⟨status, changes⟩)
    fun p => (p.status, p.changes)

end PackedPoints

end Telecontrol
