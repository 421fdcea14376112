import Telecontrol.Fault
import Telecontrol.Text

/-!
# Protocol parameters

The parameters of a link: the window sizes and timeouts of the link layer and the field widths of the
application layer. Both ends of a link must agree on the widths.

* `Parameters`: the parameters, with the defaults of the standard.
* `Parameters.validate`: the first rule that parameters break, if any.
* `Parameters.headerSize`, `Parameters.maxObjectAddress`: what follows from the widths.
-/

namespace Telecontrol

/-- An instant or a time span, in milliseconds. -/
abbrev Millis := Nat

/-- Parameters of one link. At most `k` I-frames await their acknowledgement, and up to `w` may be
received before one is acknowledged. A link must be established within `t0`, an activation
confirmed and an I-frame acknowledged within `t1`; a received I-frame is acknowledged after `t2`,
and the link is tested after an idle time of `t3`. The widths are those of the fields of an ASDU,
in octets; the second octet of a cause is the originator address. -/
structure Parameters where
  k : Nat := 12
  w : Nat := 8
  t0 : Millis := 10000
  t1 : Millis := 15000
  t2 : Millis := 10000
  t3 : Millis := 20000
  typeIdSize : Nat := 1
  qualifierSize : Nat := 1
  causeSize : Nat := 2
  originator : UInt8 := 0
  commonAddressSize : Nat := 2
  objectAddressSize : Nat := 3
  deriving DecidableEq, Repr, Inhabited

namespace Parameters

def defaultPort : Nat := 2404

def defaultSecurePort : Nat := 19998

/-- Width of the data unit identifier in front of the information objects. -/
def headerSize (p : Parameters) : Nat :=
  p.typeIdSize + p.qualifierSize + p.causeSize + p.commonAddressSize

/-- The largest object address that the address field can hold. -/
def maxObjectAddress (p : Parameters) : Nat :=
  match p.objectAddressSize with
  | 1 => 0xFF
  | 2 => 0xFFFF
  | _ => 0xFFFFFF

/-- Accepts parameters that describe a link of the standard, or names the first rule they break. -/
def validate (p : Parameters) : Except Fault Unit :=
  if p.typeIdSize ≠ 1 ∨ p.qualifierSize ≠ 1 then
    .error (.config "type identification and VSQ must be one byte")
  else if p.causeSize ≠ 1 ∧ p.causeSize ≠ 2 then
    .error (.config s!"size of COT must be 1 or 2, got {p.causeSize}")
  else if p.commonAddressSize ≠ 1 ∧ p.commonAddressSize ≠ 2 then
    .error (.config s!"size of CA must be 1 or 2, got {p.commonAddressSize}")
  else if p.objectAddressSize < 1 ∨ 3 < p.objectAddressSize then
    .error (.config s!"size of IOA must be 1, 2 or 3, got {p.objectAddressSize}")
  else if p.k = 0 ∨ p.w = 0 then
    .error (.config "k and w must be greater than zero")
  else if 32767 < p.k then
    .error (.config "k must not exceed 32767")
  else if p.t1 = 0 ∨ p.t2 = 0 ∨ p.t3 = 0 then
    .error (.config "timeouts must be greater than zero")
  else
    .ok ()

def describe (p : Parameters) : String :=
  Text.record "ConnectionParameters"
    [("k", toString p.k), ("w", toString p.w),
      ("t0", Text.duration p.t0), ("t1", Text.duration p.t1),
      ("t2", Text.duration p.t2), ("t3", Text.duration p.t3),
      ("size_of_type_id", toString p.typeIdSize), ("size_of_vsq", toString p.qualifierSize),
      ("size_of_cot", toString p.causeSize), ("originator_address", toString p.originator),
      ("size_of_ca", toString p.commonAddressSize), ("size_of_ioa", toString p.objectAddressSize)]
    false

end Parameters

end Telecontrol
