import Telecontrol.Apdu

/-!
# Frames, octet by octet

How a machine reads and writes frames: it looks at octets by their positions and computes with numbers of a
fixed width. Where it would reach behind the end of an octet string, or a number would not fit, it crashes.

* `Machine.index`, `Machine.slice`, `Machine.tail`: octets at a position, between two positions and from a
  position on. `Machine.add`, `Machine.sub`, `Machine.mul`: arithmetic of a fixed width.
* `Machine.decode`, `Machine.encode`: frames. The positions have `word` bits.
* `Machine.decode_eq`, `Machine.encode_eq`: no octet string and no frame makes the machine crash.
-/

namespace Telecontrol

namespace Machine

/-! ## Accesses and arithmetic -/

def index (bs : Octets) (i : Nat) : Option UInt8 := bs[i]?

def slice (bs : Octets) (start stop : Nat) : Option Octets :=
  if start ≤ stop ∧ stop ≤ bs.length then some ((bs.take stop).drop start) else none

def tail (bs : Octets) (start : Nat) : Option Octets :=
  if start ≤ bs.length then some (bs.drop start) else none

def add (width a b : Nat) : Option Nat := if a + b < Nat.pow 2 width then some (a + b) else none

def sub (a b : Nat) : Option Nat := if b ≤ a then some (a - b) else none

def mul (width a b : Nat) : Option Nat := if a * b < Nat.pow 2 width then some (a * b) else none

section

variable {bs : Octets} {width a b start stop : Nat}

theorem index_eq (h : a < bs.length) : index bs a = some (bs.getD a 0) := by
  rw [index, List.getD_eq_getElem?_getD, List.getElem?_eq_getElem h, Option.getD_some]

theorem slice_eq (h : start ≤ stop) (h' : stop ≤ bs.length) :
    slice bs start stop = some ((bs.take stop).drop start) :=
  if_pos ⟨h, h'⟩

theorem tail_eq (h : start ≤ bs.length) : tail bs start = some (bs.drop start) := if_pos h

theorem add_eq (h : a + b < Nat.pow 2 width) : add width a b = some (a + b) := if_pos h

theorem sub_eq (h : b ≤ a) : sub a b = some (a - b) := if_pos h

theorem mul_eq (h : a * b < Nat.pow 2 width) : mul width a b = some (a * b) := if_pos h

/-- Positions have at least sixteen bits. -/
theorem lt_word {word : Nat} (hw : 16 ≤ word) (h : a < 65536) : a < Nat.pow 2 word :=
  Nat.lt_of_lt_of_le h (Nat.pow_le_pow_right Nat.two_pos hw)

end

/-! ## Frames -/

def content (frame : Octets) : Option (Except Fault Apdu) := do
  let control ← slice frame 2 6
  match Apci.parse control with
  | .error fault => return .error fault
  | .ok apci =>
    if apci.isInformation then
      if 6 < frame.length then
        let asdu ← tail frame 6
        return .ok ⟨apci, some asdu⟩
      else
        return .error (.protocol "I-frame without ASDU")
    else if 6 < frame.length then
      let trailing ← sub frame.length 6
      return .error (.protocol s!"{apci} frame with {trailing} trailing bytes")
    else
      return .ok ⟨apci, none⟩

/-- What stands at the front of a received octet string. Room is reserved for what is still to come. -/
def decode (word : Nat) (source : Octets) : Option Apdu.Decoded := do
  if source.isEmpty then return .incomplete
  let start ← index source 0
  if start ≠ Apdu.startOctet then
    let start ← index source 0
    return .refused (.protocol s!"invalid start byte 0x{Text.hexOctet start}")
  if source.length < 2 then return .incomplete
  let length ← index source 1
  if length.toNat < Apdu.minLength ∨ Apdu.maxLength < length.toNat then
    return .refused (.protocol s!"invalid APDU length {length}")
  let total ← add word 2 length.toNat
  if source.length < total then
    let _ ← sub total source.length
    return .incomplete
  let frame ← slice source 0 total
  let rest ← tail source total
  return .frame frame rest (← content frame)

/-- Writes a frame behind the octets that are to go out; the frame is seen as it stands there. -/
def encode (word : Nat) (target : Octets) (a : Apdu) : Option (Except Fault Octets) := do
  if Apdu.maxAsduLength < a.asduLength then
    return .error (.protocol s!"ASDU of {a.asduLength} bytes exceeds {Apdu.maxAsduLength}")
  let start := target.length
  let _ ← add word 6 a.asduLength
  let length ← add word Apdu.minLength a.asduLength
  let target := target ++
    (Apdu.startOctet :: UInt8.ofNat length :: a.apci.encode ++ a.asdu.getD [])
  return .ok (← tail target start)

section

variable {word : Nat} {frame source target : Octets}

/-- The control octets are the ones that count. -/
theorem parse_control (h : 6 ≤ frame.length) :
    Apci.parse ((frame.take 6).drop 2) = Apci.parse (frame.drop 2) := by
  match frame with
  | _ :: _ :: a :: b :: c :: d :: rest => rfl
  | [] | [_] | [_, _] | [_, _, _] | [_, _, _, _] | [_, _, _, _, _] =>
    simp only [List.length_cons, List.length_nil] at h
    omega

theorem content_eq (h : 6 ≤ frame.length) : content frame = some (Apdu.ofOctets frame) := by
  have hempty : (frame.drop 6).isEmpty = !decide (6 < frame.length) := by
    rw [Bool.eq_iff_iff, List.isEmpty_iff, List.drop_eq_nil_iff, Bool.not_eq_true', decide_eq_false_iff_not,
      Nat.not_lt]
  have htrailing : (frame.drop 6).length = frame.length - 6 := List.length_drop
  unfold content Apdu.ofOctets
  dsimp only
  rw [hempty, htrailing, slice_eq (by decide) h, tail_eq h, sub_eq h]
  simp only [Option.bind_eq_bind, Option.bind_some, parse_control h]
  cases Apci.parse (frame.drop 2) with
  | error fault => rfl
  | ok apci =>
    by_cases hi : apci.isInformation = true
    · by_cases hl : 6 < frame.length
      · simp [hi, hl, bind, Except.bind, pure, Except.pure]
      · simp [hi, hl, bind, Except.bind, pure, throw, throwThe, MonadExceptOf.throw]
    · by_cases hl : 6 < frame.length
      · simp [hi, hl, bind, Except.bind, pure, throw, throwThe, MonadExceptOf.throw]
      · simp [hi, hl, bind, Except.bind, pure, Except.pure]

/-- The octets of a complete frame and those behind it. -/
theorem split_frame (start : UInt8) {length : UInt8} {body : Octets} (hl : Apdu.minLength ≤ length.toNat)
    (hb : length.toNat ≤ body.length) :
    slice (start :: length :: body) 0 (2 + length.toNat) = some (start :: length :: body.take length.toNat) ∧
      tail (start :: length :: body) (2 + length.toNat) = some (body.drop length.toNat) ∧
      content (start :: length :: body.take length.toNat) =
        some (Apdu.ofOctets (start :: length :: body.take length.toNat)) := by
  have hlong : 2 + length.toNat ≤ (start :: length :: body).length := by
    simp only [List.length_cons]
    omega
  have htake : (start :: length :: body).take (2 + length.toNat) =
      start :: length :: body.take length.toNat := by
    rw [Nat.add_comm]
    rfl
  have hdrop : (start :: length :: body).drop (2 + length.toNat) = body.drop length.toNat := by
    rw [Nat.add_comm]
    rfl
  refine ⟨?_, ?_, content_eq ?_⟩
  · rw [slice_eq (Nat.zero_le _) hlong, htake, List.drop_zero]
  · rw [tail_eq hlong, hdrop]
  · simp only [Apdu.minLength] at hl
    rw [← htake, List.length_take_of_le hlong]
    omega

/-- No octet string makes the machine crash. -/
theorem decode_eq (hw : 16 ≤ word) (source : Octets) : decode word source = some (Apdu.decode source) := by
  match source with
  | [] => rfl
  | [start] =>
    unfold decode Apdu.decode
    by_cases hs : start = Apdu.startOctet
    · subst hs
      rfl
    · simp [index, hs]
  | start :: length :: body =>
    have hlength : length.toNat < 256 := length.toNat_lt
    have htotal : add word 2 length.toNat = some (2 + length.toNat) :=
      add_eq (lt_word hw (by omega))
    unfold decode Apdu.decode
    by_cases hs : start = Apdu.startOctet
    · subst hs
      by_cases hr : length.toNat < Apdu.minLength ∨ Apdu.maxLength < length.toNat
      · simp [index, hr]
      · by_cases hb : body.length < length.toNat
        · have hshort : body.length + 1 + 1 < 2 + length.toNat := by omega
          simp [index, hr, hb, htotal, hshort, sub_eq (Nat.le_of_lt hshort)]
        · obtain ⟨hslice, htail, hcontent⟩ := split_frame Apdu.startOctet
            (Nat.le_of_not_lt (not_or.1 hr).1) (Nat.le_of_not_lt hb)
          have htwo : ¬ body.length + 1 + 1 < 2 := by omega
          have hlong : ¬ body.length + 1 + 1 < 2 + length.toNat := by omega
          simp [index, hr, hb, htotal, htwo, hlong, hslice, htail, hcontent]
    · simp [index, hs]

/-- No frame makes the machine crash. -/
theorem encode_eq (hw : 16 ≤ word) (target : Octets) (a : Apdu) : encode word target a = some a.encode := by
  unfold encode Apdu.encode
  by_cases h : Apdu.maxAsduLength < a.asduLength
  · simp only [if_pos h]
    rfl
  · have hle : a.asduLength ≤ 249 := Nat.le_of_not_lt h
    have htail (bs : Octets) : tail (target ++ bs) target.length = some bs := by
      rw [tail_eq (by simp), List.drop_left]
    rw [if_neg h, if_neg h, add_eq (lt_word hw (by omega)),
      add_eq (lt_word hw (by simp only [Apdu.minLength]; omega))]
    simp only [Option.bind_eq_bind, Option.bind_some, htail]
    rfl

end

end Machine

end Telecontrol
