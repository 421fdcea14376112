import Telecontrol.Master
import Telecontrol.Proofs.Asdu.Build
import Telecontrol.Proofs.Asdu.Parse
import Telecontrol.Proofs.Session.Quiet

/-!
# Where a command goes

A command is never refused for its target. If the target does not fit into the fields that the parameters
give it, the command goes to another one.

* `Apdu.ReadAs`: what the other end makes of a frame.
* `Request.Fits`: the fields can carry the target of a command.
* `Request.asdu_ok`: every command makes an ASDU.
* `Master.sendAsdu_ok`, `Master.sendAsdu_error`: an ASDU is sent, or nothing is.
* `Master.request_target`: what becomes of a command.
-/

namespace Telecontrol

/-! ## The other end -/

namespace Apdu

/-- What an end with the parameters makes of the octets of a frame. -/
def ReadAs (frame : Apdu) (p : Parameters) (a : Asdu) : Prop :=
  ∃ bs peer octets, frame.encode = .ok bs ∧ decode bs = .frame bs [] (.ok peer) ∧
    peer.asdu = some octets ∧ Asdu.parse p octets = .ok a

theorem readAs_information {p : Parameters} {a : Asdu} {octets : Octets} (send receive : Nat)
    (h0 : 0 < octets.length) (h1 : octets.length ≤ maxAsduLength) (h : Asdu.parse p octets = .ok a) :
    (information send receive octets).ReadAs p a := by
  have hn : (information send receive octets).Normal := ⟨h0, h1⟩
  have hd := decode_octets hn []
  rw [List.append_nil] at hd
  exact ⟨_, _, octets, hn.encode, hd, rfl, h⟩

end Apdu

/-! ## The ASDU of a command -/

namespace Parameters

variable {p : Parameters}

theorem Valid.carried_eq_iff (hp : p.Valid) (address : UInt32) :
    p.carried address = address ↔ address.toNat ≤ p.maxObjectAddress := by
  have hmin := hp.one_le_objectAddressSize
  have hmax := hp.objectAddressSize_le
  have hlt := address.toNat_lt
  rw [← UInt32.toNat_inj]
  unfold carried maxObjectAddress
  rw [UInt32.toNat_ofNat']
  obtain h | h | h : p.objectAddressSize = 1 ∨ p.objectAddressSize = 2 ∨ p.objectAddressSize = 3 := by
    omega
  · rw [h]
    show address.toNat % 256 % 4294967296 = address.toNat ↔ address.toNat ≤ 255
    omega
  · rw [h]
    show address.toNat % 65536 % 4294967296 = address.toNat ↔ address.toNat ≤ 65535
    omega
  · rw [h]
    show address.toNat % 16777216 % 4294967296 = address.toNat ↔ address.toNat ≤ 16777215
    omega

theorem Valid.commonAddress_eq_iff (hp : p.Valid) (address : UInt16) :
    (if p.commonAddressSize = 1 then address % 256 else address) = address ↔
      address.toNat < Nat.pow 256 p.commonAddressSize := by
  have hlt := address.toNat_lt
  rcases hp.commonAddressSize with h | h
  · rw [h, if_pos rfl, ← UInt16.toNat_inj, UInt16.toNat_mod]
    show address.toNat % 256 = address.toNat ↔ address.toNat < 256
    omega
  · rw [h, if_neg (by decide)]
    show address = address ↔ address.toNat < 65536
    simpa using hlt

end Parameters

namespace Request

/-- The fields can carry the target of a command: its common address and its object address. -/
def Fits (r : Request) (p : Parameters) : Prop :=
  r.commonAddress.toNat < Nat.pow 256 p.commonAddressSize ∧ r.object.address.toNat ≤ p.maxObjectAddress

theorem asdu_ok {p : Parameters} (hp : p.Valid) (r : Request) :
    ∃ a, r.asdu p = .ok a ∧ a.Holds [r.object] ∧ a.parameters = p ∧ a.cause = r.cause ∧
      a.commonAddress = r.commonAddress := by
  have hstart := (Asdu.Draft.sound_start p r.cause r.commonAddress).holds
  have haccepts : (Asdu.empty p r.cause r.commonAddress).accepts r.object = true := by
    have hcount : 0 < Asdu.maxElements := by decide
    refine Asdu.accepts_iff.2 ⟨Or.inl rfl, hcount, nofun, ?_⟩
    have hheader := hp.headerSize_le
    have haddress := hp.objectAddressSize_le
    have helement := r.object.element.typeId.elementSize_le
    show p.headerSize + 0 + (r.object.element.typeId.elementSize + p.objectAddressSize) ≤ 249
    omega
  cases ha : (Asdu.empty p r.cause r.commonAddress).add? r.object with
  | none =>
    unfold Asdu.add? at ha
    rw [if_pos haccepts] at ha
    cases ha
  | some a =>
    refine ⟨a, ?_, hstart.add ha, ?_⟩
    · unfold asdu
      rw [ha]
    · obtain ⟨-, rfl⟩ := Asdu.add?_eq_some ha
      exact ⟨rfl, rfl, rfl⟩

/-- The octets of a command fit into a frame, and this is what is read of them. -/
theorem asdu_read {p : Parameters} (hp : p.Valid) (r : Request) :
    ∃ a b, r.asdu p = .ok a ∧ 0 < a.encode.length ∧ a.encode.length ≤ Apdu.maxAsduLength ∧
      Asdu.parse p a.encode = .ok b ∧ b.cause = .ofCode r.cause.code ∧ b.count = 1 ∧
      b.commonAddress = (if p.commonAddressSize = 1 then r.commonAddress % 256 else r.commonAddress) ∧
      b.element 0 = .ok ⟨p.carried r.object.address, r.object.element.canonical⟩ := by
  obtain ⟨a, ha, hholds, rfl, hcause, haddress⟩ := r.asdu_ok hp
  have hlength := Asdu.length_encode hp.toStandardHeader
  have hpos : 0 < a.encodedLength := by
    unfold Asdu.encodedLength Parameters.headerSize
    have := hp.typeIdSize
    omega
  refine ⟨a, a.received, ha, hlength ▸ hpos, ?_, hholds.parse hp.toStandardHeader, ?_, hholds.count, ?_, ?_⟩
  · rw [hlength]
    exact hholds.length_le (by simp)
  · show Cause.ofCode a.cause.code = _
    rw [hcause]
  · rw [← haddress]
    rfl
  · have helement := hholds.element (i := 0) rfl
    rw [if_neg fun h => Nat.lt_irrefl 0 h.2] at helement
    exact helement

end Request

/-! ## Sending -/

namespace Session

variable {s : Session} {asdu : Octets}

/-- A session that cannot send fails for its window or its stream, and nothing is written. -/
theorem sendInformation_error (h : ¬ (s.window.canSend = true ∧ s.writable = true))
    (h1 : asdu.length ≤ Apdu.maxAsduLength) (now : Millis) :
    (s.sendInformation asdu now).written = [] ∧
      ((s.sendInformation asdu now).result = .error (.tooManyUnconfirmed s.parameters.k) ∨
        (s.sendInformation asdu now).result = .error (.io "broken pipe")) := by
  cases hc : s.window.canSend with
  | false =>
    rw [sendInformation_full hc]
    exact ⟨rfl, Or.inl rfl⟩
  | true =>
    have hw : s.writable = false := by simpa [hc] using h
    have hlength : ¬ Apdu.maxAsduLength <
        (⟨(s.window.prepareInformation now).1, some asdu⟩ : Apdu).asduLength := Nat.not_lt.2 h1
    unfold sendInformation write Apdu.encode
    rw [if_pos hc]
    dsimp only
    rw [if_neg hlength, hw]
    exact ⟨rfl, Or.inr rfl⟩

end Session

namespace Master

variable {m : Master} {a : Asdu}

/-- The link runs, its window has room and its stream takes octets. -/
def CanSend (m : Master) : Prop :=
  ∃ link, m.link = some link ∧ link.session.window.canSend = true ∧ link.session.writable = true

theorem sendAsdu_ok (h : m.CanSend) (h0 : 0 < a.encode.length)
    (h1 : a.encode.length ≤ Apdu.maxAsduLength) (now : Millis) : (m.sendAsdu a now).2 = .ok () ∧
      ∃ send receive, (m.sendAsdu a now).1.2 = [.sent (.information send receive a.encode)] := by
  obtain ⟨link, hl, hc, hw⟩ := h
  have ho : link.session.sendInformation a.encode now = _ := Session.sendInformation_ok hw hc h0 h1
  simp only [sendAsdu, hl, answer, ho]
  exact ⟨trivial, _, _, rfl⟩

theorem sendAsdu_error (h : ¬ m.CanSend) (h1 : a.encode.length ≤ Apdu.maxAsduLength) (now : Millis) :
    ∃ fault, (m.sendAsdu a now).2 = .error fault ∧ (∀ text, fault ≠ .range text) ∧
      ∀ frame, .sent frame ∉ (m.sendAsdu a now).1.2 := by
  cases hl : m.link with
  | none =>
    simp only [sendAsdu, hl]
    exact ⟨.notConnected, rfl, nofun, nofun⟩
  | some link =>
    have hs : ¬ (link.session.window.canSend = true ∧ link.session.writable = true) :=
      fun hs => h ⟨link, hl, hs⟩
    obtain ⟨hwritten, hr | hr⟩ := Session.sendInformation_error hs h1 now
    · simp only [sendAsdu, hl, answer, hr]
      exact ⟨_, rfl, nofun, nofun⟩
    · -- A broken stream ends the link, which is all that is seen of it.
      simp only [sendAsdu, hl, answer, hr, settle, sentFrames, hwritten, after, finish]
      exact ⟨_, rfl, nofun, by simp⟩

/-- **Where a command goes.** A command is answered with success just if the link can send, whatever its
target. Then one I-frame is written, which the other end reads as an ASDU with the object of the command,
its target cut to the widths of its fields; that is the target of the command just if it fits. Otherwise
nothing is written, and the answer is not that a value is out of range. -/
theorem request_target (m : Master) (hm : m.config.parameters.validate = .ok ()) (r : Request)
    (now : Millis) :
    let p := m.config.parameters
    let step := m.request r now
    (step.2 = .ok () ↔ m.CanSend) ∧
    (step.2 = .ok () → ∃ frame b, step.1.2 = [.sent frame] ∧ frame.ReadAs p b ∧
      b.cause = .ofCode r.cause.code ∧ b.count = 1 ∧
      b.commonAddress = (if p.commonAddressSize = 1 then r.commonAddress % 256 else r.commonAddress) ∧
      b.element 0 = .ok ⟨p.carried r.object.address, r.object.element.canonical⟩ ∧
      (b.commonAddress = r.commonAddress ∧ p.carried r.object.address = r.object.address ↔ r.Fits p)) ∧
    (step.2 ≠ .ok () → (∀ text, step.2 ≠ .error (.range text)) ∧ ∀ frame, .sent frame ∉ step.1.2) := by
  intro p step
  have hp : p.Valid := Parameters.valid_iff.1 hm
  obtain ⟨a, b, ha, h0, h1, hparse, hcause, hcount, haddress, helement⟩ := r.asdu_read hp
  have hstep : step = m.sendAsdu a now := by
    show m.request r now = _
    unfold request
    rw [ha]
  rw [hstep]
  by_cases hsend : m.CanSend
  · obtain ⟨hok, send, receive, hsent⟩ := sendAsdu_ok hsend h0 h1 now
    refine ⟨by simp [hok, hsend], fun _ => ?_, fun hne => absurd hok hne⟩
    refine ⟨_, b, hsent, Apdu.readAs_information send receive h0 h1 hparse, hcause, hcount, haddress,
      helement, ?_⟩
    rw [haddress, hp.commonAddress_eq_iff, hp.carried_eq_iff]
    rfl
  · obtain ⟨fault, herror, hrange, hnone⟩ := sendAsdu_error hsend h1 now
    refine ⟨by simp [herror, hsend], fun hok => ?_, fun _ => ⟨fun text hr => ?_, hnone⟩⟩
    · rw [herror] at hok
      cases hok
    · rw [herror] at hr
      exact hrange text (Except.error.inj hr)

/-- A read command that fits. -/
theorem request_target_read :
    let m := ((create { host := "outstation", autostart := false } none).connectStream 0).1.1
    let r : Request := .read 1 0x123456
    m.config.parameters.validate = .ok () ∧ m.CanSend ∧ r.Fits m.config.parameters ∧
      (m.request r 0).2 = .ok () ∧
      ∃ frame b, (m.request r 0).1.2 = [.sent frame] ∧ frame.ReadAs m.config.parameters b ∧
        b.commonAddress = 1 ∧ b.element 0 = .ok ⟨0x123456, .readRequest⟩ := by
  intro m r
  have hm : m.config.parameters.validate = .ok () := rfl
  have hsend : m.CanSend := ⟨{ session := .start {} 0 }, rfl, rfl, rfl⟩
  have hfits : r.Fits m.config.parameters := ⟨by decide, by decide⟩
  obtain ⟨hok, hread, -⟩ := request_target m hm r 0
  obtain ⟨frame, b, hsent, hframe, -, -, -, helement, htarget⟩ := hread (hok.2 hsend)
  obtain ⟨hcommon, haddress⟩ := htarget.2 hfits
  rw [haddress] at helement
  exact ⟨hm, hsend, hfits, hok.2 hsend, frame, b, hsent, hframe, hcommon, helement⟩

/-- A command to switch on an object whose address has four octets goes to the object with address zero. -/
theorem request_retargets :
    let m := ((create { host := "outstation", autostart := false } none).connectStream 0).1.1
    let switch : Element := ⟨.singleCommand, ⟨true, 0, false⟩, ()⟩
    let r : Request := .control .activation 1 ⟨0x1000000, switch⟩
    m.config.parameters.validate = .ok () ∧ m.config.parameters.maxObjectAddress < r.object.address.toNat ∧
      (m.request r 0).2 = .ok () ∧
      ∃ frame b, (m.request r 0).1.2 = [.sent frame] ∧ frame.ReadAs m.config.parameters b ∧
        b.element 0 = .ok ⟨0, switch⟩ := by
  intro m switch r
  let octets : Octets := [45, 1, 6, 0, 1, 0, 0, 0, 0, 1]
  let b : Asdu :=
    { parameters := {}, typeCode := 45, qualifier := ⟨1, false⟩, cause := .activation, originator := 0,
      commonAddress := 1, payload := [0, 0, 0, 1] }
  have hparse : Asdu.parse {} octets = .ok b := by
    refine Asdu.parse_eq_ok_iff.2 ⟨by decide +kernel, by decide, fun t ht => ?_⟩
    have hb : b.typeId? = some .singleCommand := by decide +kernel
    rw [hb] at ht
    cases ht
    decide
  have hframe : (Apdu.information 0 0 octets).ReadAs {} b :=
    Apdu.readAs_information 0 0 (by decide) (by decide) hparse
  exact ⟨rfl, by decide, by rfl, .information 0 0 octets, b, by decide +kernel, hframe, by rfl⟩

end Master

end Telecontrol
