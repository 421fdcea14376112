import Telecontrol.Asdu
import Telecontrol.Plain.Value

/-!
# Messages as plain data

* `Parameters.form`, `Cause.form`, `ControlFunction.form`, `Apci.form`: what frames are made of.
* `InformationObject.form`: an element under its address.
* `Asdu.ofPlain`: an ASDU by its octets or by its parts; `Asdu.toPlain` shows all there is to it.
* `Fault.toPlain`, `Plain.ofResult`: faults and results.
-/

namespace Telecontrol

open Form (field record)

/-! ## Frames -/

def Parameters.form : Form Parameters :=
  record {}
    [field "k" .nat (·.k) ({ · with k := · }),
      field "w" .nat (·.w) ({ · with w := · }),
      field "t0_ms" .nat (·.t0) ({ · with t0 := · }),
      field "t1_ms" .nat (·.t1) ({ · with t1 := · }),
      field "t2_ms" .nat (·.t2) ({ · with t2 := · }),
      field "t3_ms" .nat (·.t3) ({ · with t3 := · }),
      field "size_of_type_id" .nat (·.typeIdSize) ({ · with typeIdSize := · }),
      field "size_of_vsq" .nat (·.qualifierSize) ({ · with qualifierSize := · }),
      field "size_of_cot" .nat (·.causeSize) ({ · with causeSize := · }),
      field "originator_address" .octet (·.originator) ({ · with originator := · }),
      field "size_of_ca" .nat (·.commonAddressSize) ({ · with commonAddressSize := · }),
      field "size_of_ioa" .nat (·.objectAddressSize) ({ · with objectAddressSize := · })]

/-- A cause by its code, or a code without a meaning as it is; it is written by its name. -/
def Cause.form : Form Cause where
  read := ((Form.octet.map Cause.ofCode Cause.code).orAs "other" .octet .other).read
  write c := .text (toString c)
  default := .ofCode 0

/-- A function by its octet, or an octet without a meaning as it is; it is written by its name. -/
def ControlFunction.form : Form ControlFunction where
  read := ((Form.octet.map ofOctet toOctet).orAs "unknown" .octet .undefined).read
  write f := .text f.label
  default := .ofOctet 0

namespace Apci

/-- The fields of control information; the first names the format. -/
def fields : Apci → List (String × Plain)
  | information send receive =>
    [("frame", .text "I"), ("send_seq", .number send), ("recv_seq", .number receive)]
  | supervisory receive => [("frame", .text "S"), ("recv_seq", .number receive)]
  | unnumbered function =>
    [("frame", .text "U"), ("function", ControlFunction.form.write function)]

def form : Form Apci where
  read p := do
    match ← Form.text.get p "frame" with
    | "I" => return information (← Form.nat.get p "send_seq") (← Form.nat.get p "recv_seq")
    | "S" => return supervisory (← Form.nat.get p "recv_seq")
    | "U" => return unnumbered (← ControlFunction.form.get p "function")
    | name => throw (.malformed s!"unknown frame {name}")
  write a := .record a.fields
  default := supervisory 0

end Apci

def Apdu.toPlain (a : Apdu) : Plain :=
  .record <| a.apci.fields
    ++ [("asdu", a.asdu.elim .null Form.octets.write), ("display", .text (toString a))]

/-! ## Faults -/

/-- A fault by the name of its kind and its wording; that of the transport is left out, because it is
not the library's own. -/
def Fault.toPlain (f : Fault) : Plain :=
  match f with
  | .io _ => .record [("error", .text f.label)]
  | _ => .record [("error", .text f.label), ("message", .text f.message)]

def Plain.ofResult {α : Type} (write : α → Plain) : Except Fault α → Plain
  | .ok a => write a
  | .error f => f.toPlain

/-! ## Application data -/

def InformationObject.form : Form InformationObject :=
  record default
    [field "address" .word32 (·.address) ({ · with address := · }),
      field "element" Element.form (·.element) ({ · with element := · })]

namespace Asdu

/-- An ASDU by its octets, or by its header and the objects that are to be added to it. It may come
with parameters of its own. -/
def ofPlain (p : Parameters) (spec : Plain) : Except Refusal Asdu := do
  let p ← Parameters.form.getD spec "params" p
  match ← Form.octets.get? spec "hex" with
  | some bs => Refusal.ofResult (parse p bs)
  | none =>
    let a := empty p (← Cause.form.get spec "cot") (← Form.word16.get spec "ca")
    let a := a.withSequence (← Form.bit.getD spec "sequence" a.isSequence)
    let a := a.withTest (← Form.bit.getD spec "test" a.test)
    let a := a.withNegative (← Form.bit.getD spec "negative" a.negative)
    let a := a.withOriginator (← Form.octet.getD spec "originator" a.originator)
    return a.addAll (← (Form.list InformationObject.form).get spec "objects")

/-- Everything there is to an ASDU but its objects. -/
def toPlain (a : Asdu) : Plain :=
  .record
    [("type", Form.octet.write a.typeCode),
      ("type_name", a.typeId?.elim .null fun t => .text t.label),
      ("cot", Cause.form.write a.cause), ("test", .bit a.test), ("negative", .bit a.negative),
      ("originator", Form.octet.write a.originator), ("ca", Form.word16.write a.commonAddress),
      ("sequence", .bit a.isSequence), ("count", .number a.count),
      ("payload_len", .number a.payload.length), ("encoded_len", .number a.encodedLength),
      ("bytes", Form.octets.write a.encode), ("display", .text (toString a))]

def elementsToPlain (a : Asdu) : Plain :=
  .list (a.elements.map (Plain.ofResult InformationObject.form.write))

end Asdu

end Telecontrol
