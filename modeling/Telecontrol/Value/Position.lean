import Telecontrol.Fault
import Telecontrol.Quality

/-!
# Step positions

`StepPosition` is the position of a tap changer between -64 and 63; `StepPosition.ofInt?` refuses any
other number.
-/

namespace Telecontrol

/-- Position of a step device, which is transient between two positions. -/
structure StepPosition where
  value : Int := 0
  transient : Bool := false
  lo_le : -64 ≤ value := by omega
  le_hi : value ≤ 63 := by omega
  deriving DecidableEq, Repr

instance : Inhabited StepPosition := ⟨{}⟩

namespace StepPosition

/-- The position of a number, if the field can hold it. -/
def ofInt? (value : Int) (transient : Bool) : Except Fault StepPosition :=
  if h : -64 ≤ value ∧ value ≤ 63 then .ok ⟨value, transient, h.1, h.2⟩
  else .error (.range s!"step position {value} outside -64..=63")

/-- The octet of a position: a signed number of seven bits below the transient flag. -/
def toOctet (p : StepPosition) : UInt8 :=
  UInt8.ofNat (p.value % 128).toNat ||| flagBits p.transient 0x80

def ofOctet (b : UInt8) : StepPosition :=
  let raw : Int := (b.toNat % 128 : Nat)
  { value := if 63 < raw then raw - 128 else raw
    transient := hasBits b 0x80
    lo_le := by omega
    le_hi := by omega }

def layout : Layout StepPosition := .packed ofOctet toOctet

end StepPosition

end Telecontrol
