import Telecontrol.Proofs.Asdu.Parse
import Telecontrol.Proofs.Machine.Asdu
import Telecontrol.Proofs.Machine.Session

/-!
# Nothing that comes in makes a machine crash

One end of a link whose other end sends what it likes, in pieces of any size, while this end sends, builds
ASDUs and handles its timers in any order. What it receives goes all the way up: a frame through the link
layer, the ASDU of an I-frame to the objects that it says it has, and on to the handlers.

* `Host`: the end of a link with the octets that it has not taken yet. `Act`: what happens at it. `Report`:
  what comes of that, in each case a value or a fault.
* `Host.run`: all that happens. `Machine.run`: the same on a machine, which could crash.
* `Machine.never_crashes`: the main result.
-/

namespace Telecontrol

/-- What was made of the octets of an ASDU: the ASDU, some of its objects and what became of it. -/
structure Reading where
  asdu : Except Fault Asdu
  objects : List (Except Fault InformationObject) := []
  dispatch : Option Dispatch := none
  deriving DecidableEq

/-- One end of a link. -/
structure Host where
  session : Session
  inbound : Octets := []
  deriving DecidableEq

/-- What happens at one end of a link. Of an ASDU that is taken or built, the objects at some
indices are looked at. -/
inductive Act where
  | arrive (octets : Octets)
  | take (now : Millis) (indices : List Nat)
  | timer (now : Millis)
  | sendControl (function : ControlFunction) (now : Millis)
  | sendInformation (asdu : Octets) (now : Millis)
  | build (cause : Cause) (commonAddress : UInt16) (sequence : Bool) (objects : List InformationObject)
      (indices : List Nat)
  | breakStream

/-- What comes of it. -/
inductive Report where
  | nothing
  /-- What stood in front of the octets was no frame, or one that was malformed. -/
  | malformed (fault : Fault)
  /-- What the link layer wrote for a frame, what it left of it and what was made of that. -/
  | received (written : List Apdu) (result : Except Fault Inbound) (reading : Option Reading)
  /-- What was written, and how it went. -/
  | sent (written : List Apdu) (result : Except Fault Unit)
  | built (asdu : Asdu) (objects : List (Except Fault InformationObject))
  deriving DecidableEq

/-- What an operation on the session leaves. -/
def Session.Outcome.report (o : Session.Outcome Unit) (inbound : Octets) : Host × Report :=
  (⟨o.session, inbound⟩, .sent o.written o.result)

/-! ## By itself -/

namespace Host

/-- An end of a link whose stream has just been opened. -/
def start (p : Parameters) (now : Millis) : Host := { session := .start p now }

/-- Reads an ASDU, looks at some of its objects and routes it. -/
def read (p : Parameters) (handlers : Handlers) (indices : List Nat) (octets : Octets) : Reading :=
  match Asdu.parse p octets with
  | .error fault => { asdu := .error fault }
  | .ok a => ⟨.ok a, indices.map a.element, some (handlers.dispatch a)⟩

/-- Takes what stands in front of the octets. -/
def take (p : Parameters) (handlers : Handlers) (host : Host) (now : Millis) (indices : List Nat) :
    Host × Report :=
  match Apdu.decode host.inbound with
  | .incomplete => (host, .nothing)
  | .refused fault => (host, .malformed fault)
  | .frame _ rest (.error fault) => (⟨host.session, rest⟩, .malformed fault)
  | .frame _ rest (.ok frame) =>
    let o := host.session.receive frame now
    let reading :=
      match o.result with
      | .ok (.asdu octets) => some (read p handlers indices octets)
      | _ => none
    (⟨o.session, rest⟩, .received o.written o.result reading)

def act (p : Parameters) (handlers : Handlers) (host : Host) : Act → Host × Report
  | .arrive octets => ({ host with inbound := host.inbound ++ octets }, .nothing)
  | .take now indices => host.take p handlers now indices
  | .timer now => (host.session.onTimer now).report host.inbound
  | .sendControl function now => (host.session.sendControl function now).report host.inbound
  | .sendInformation asdu now => (host.session.sendInformation asdu now).report host.inbound
  | .build cause commonAddress sequence objects indices =>
    let a := ((Asdu.empty p cause commonAddress).withSequence sequence).addAll objects
    (host, .built a (indices.map a.element))
  | .breakStream => (⟨{ host.session with writable := false }, host.inbound⟩, .nothing)

def run (p : Parameters) (handlers : Handlers) (host : Host) : List Act → Host × List Report
  | [] => (host, [])
  | a :: later =>
    let (host, report) := host.act p handlers a
    let (host, reports) := host.run p handlers later
    (host, report :: reports)

end Host

/-! ## On a machine -/

namespace Machine

def objects (word : Nat) (a : Asdu) (indices : List Nat) : Option (List (Except Fault InformationObject)) :=
  indices.mapM fun i => (element word a i).run

def read (word : Nat) (p : Parameters) (handlers : Handlers) (indices : List Nat) (octets : Octets) :
    Option Reading := do
  match ← parse word p octets with
  | .error fault => return { asdu := .error fault }
  | .ok a =>
    let objects ← objects word a indices
    let dispatch ← dispatch word handlers a
    return ⟨.ok a, objects, some dispatch⟩

def take (word : Nat) (p : Parameters) (handlers : Handlers) (host : Host) (now : Millis) (indices : List Nat) :
    Option (Host × Report) := do
  match ← decode word host.inbound with
  | .incomplete => return (host, .nothing)
  | .refused fault => return (host, .malformed fault)
  | .frame _ rest (.error fault) => return (⟨host.session, rest⟩, .malformed fault)
  | .frame _ rest (.ok frame) =>
    let o ← receive word host.session frame now
    let reading ←
      match o.result with
      | .ok (.asdu octets) => (read word p handlers indices octets).map some
      | _ => pure none
    return (⟨o.session, rest⟩, .received o.written o.result reading)

def act (word : Nat) (p : Parameters) (handlers : Handlers) (host : Host) : Act → Option (Host × Report)
  | .arrive octets => return ({ host with inbound := host.inbound ++ octets }, .nothing)
  | .take now indices => take word p handlers host now indices
  | .timer now => return (← onTimer word host.session now).report host.inbound
  | .sendControl function now => return (← sendControl word host.session function now).report host.inbound
  | .sendInformation asdu now => return (← sendInformation word host.session asdu now).report host.inbound
  | .build cause commonAddress sequence os indices => do
    let a ← addAll word ((Asdu.empty p cause commonAddress).withSequence sequence) os
    return (host, .built a (← objects word a indices))
  | .breakStream => return (⟨{ host.session with writable := false }, host.inbound⟩, .nothing)

def run (word : Nat) (p : Parameters) (handlers : Handlers) (host : Host) :
    List Act → Option (Host × List Report)
  | [] => return (host, [])
  | a :: later => do
    let (host, report) ← act word p handlers host a
    let (host, reports) ← run word p handlers host later
    return (host, report :: reports)

section

variable {word : Nat} {p : Parameters} {handlers : Handlers} {host : Host} {a : Asdu}

theorem objects_eq (hw : 16 ≤ word) (hp : a.parameters.objectAddressSize ≤ 3) (hc : a.count < 128)
    (indices : List Nat) : objects word a indices = some (indices.map a.element) := by
  have hall : (fun i => (element word a i).run) = fun i => (pure (a.element i) : Option _) :=
    funext fun i => element_eq hw hp hc i
  unfold objects
  rw [hall, List.mapM_pure]
  rfl

/-- An ASDU that was read has the widths of valid parameters, and its objects are counted in seven bits. -/
theorem bounds_of_parse {bs : Octets} (hp : p.Valid) (h : Asdu.parse p bs = .ok a) :
    a.parameters.objectAddressSize ≤ 3 ∧ a.count < 128 := by
  obtain ⟨rfl, -, -⟩ := Asdu.parse_eq_ok_iff.1 h
  exact ⟨hp.objectAddressSize_le, Nat.mod_lt _ (by decide)⟩

theorem read_eq (hw : 16 ≤ word) (hp : p.Valid) (indices : List Nat) (octets : Octets) :
    read word p handlers indices octets = some (Host.read p handlers indices octets) := by
  unfold read Host.read
  rw [parse_eq hw hp]
  cases ha : Asdu.parse p octets with
  | error fault => rfl
  | ok a =>
    obtain ⟨hwidth, hcount⟩ := bounds_of_parse hp ha
    simp only [Option.bind_eq_bind, Option.bind_some, objects_eq hw hwidth hcount, dispatch_eq hw hwidth hcount]
    rfl

theorem Runs.report {m : Option (Session.Outcome Unit)} {o : Session.Outcome Unit} (h : Runs m o)
    (inbound : Octets) : (do return (← m).report inbound) = some (o.report inbound) ∧
      (o.report inbound).1.session.window.Numbered := by
  obtain ⟨rfl, hs⟩ := h
  exact ⟨rfl, hs⟩

/-- What stands in front of the octets is taken without a crash, and the numbers of the session fit again. -/
theorem take_eq (hw : 16 ≤ word) (hp : p.Valid) (hs : host.session.window.Numbered) (now : Millis)
    (indices : List Nat) :
    take word p handlers host now indices = some (host.take p handlers now indices) ∧
      (host.take p handlers now indices).1.session.window.Numbered := by
  unfold take Host.take
  rw [decode_eq hw]
  cases hd : Apdu.decode host.inbound with
  | incomplete => exact ⟨rfl, hs⟩
  | refused fault => exact ⟨rfl, hs⟩
  | frame octets rest content =>
    cases content with
    | error fault => exact ⟨rfl, hs⟩
    | ok frame =>
      obtain ⟨heq, hs⟩ := receive_runs hw hs (Apdu.fits_ofOctets (Apdu.decode_content hd).symm) now
      refine ⟨?_, hs⟩
      simp only [Option.bind_eq_bind, Option.bind_some, heq]
      cases (host.session.receive frame now).result with
      | error fault => rfl
      | ok inbound =>
        cases inbound with
        | asdu octets =>
          dsimp only
          rw [read_eq hw hp]
          rfl
        | control | handled => rfl

theorem act_eq (hw : 16 ≤ word) (hp : p.Valid) (hs : host.session.window.Numbered) (a : Act) :
    act word p handlers host a = some (host.act p handlers a) ∧
      (host.act p handlers a).1.session.window.Numbered := by
  cases a with
  | arrive octets => exact ⟨rfl, hs⟩
  | take now indices => exact take_eq hw hp hs now indices
  | timer now => exact (onTimer_runs hw hs now).report host.inbound
  | sendControl function now => exact (sendControl_runs hw hs function now).report host.inbound
  | sendInformation asdu now => exact (sendInformation_runs hw hs asdu now).report host.inbound
  | build cause commonAddress sequence os indices =>
    have hempty : Fits ((Asdu.empty p cause commonAddress).withSequence sequence) :=
      ⟨hp, Nat.two_pow_pos 7, Nat.le_trans hp.headerSize_le (by decide)⟩
    obtain ⟨heq, hfits⟩ := addAll_eq hw hempty os
    refine ⟨?_, hs⟩
    unfold act
    simp only [heq, Option.bind_eq_bind, Option.bind_some,
      objects_eq hw hfits.parameters.objectAddressSize_le hfits.count]
    rfl
  | breakStream => exact ⟨rfl, hs⟩

theorem run_eq (hw : 16 ≤ word) (hp : p.Valid) (hs : host.session.window.Numbered) (acts : List Act) :
    run word p handlers host acts = some (host.run p handlers acts) := by
  induction acts generalizing host with
  | nil => rfl
  | cons a later ih =>
    obtain ⟨heq, hs⟩ := act_eq hw hp hs a
    unfold run
    rw [heq]
    simp only [Option.bind_eq_bind, Option.bind_some, ih hs]
    rfl

end

/-- **Nothing that comes in makes a machine crash.** Under valid parameters, whatever octets come in and
however they are cut, whatever is sent and built in between and whenever timers are handled, the machine does
what the end of the link does by itself, so every act ends in a value or a fault. Nor does it crash on any
other octets that it is to read as frames or as an ASDU, at any index and with any handlers. -/
theorem never_crashes (word : Nat) (hw : 16 ≤ word) (p : Parameters) (hp : p.validate = .ok ())
    (handlers : Handlers) :
    (∀ now acts, run word p handlers (Host.start p now) acts =
      some ((Host.start p now).run p handlers acts)) ∧
    (∀ bs, decode word bs = some (Apdu.decode bs) ∧ parse word p bs = some (Asdu.parse p bs)) ∧
    ∀ bs a, Asdu.parse p bs = .ok a → dispatch word handlers a = some (handlers.dispatch a) ∧
      ∀ index, element word a index = some (a.element index) := by
  have hv := Parameters.Valid.of_validate hp
  refine ⟨fun now acts => ?_, fun bs => ⟨decode_eq hw bs, parse_eq hw hv bs⟩, fun bs a ha => ?_⟩
  · have hstart : (Host.start p now).session.window.Numbered :=
      Window.Numbered.start (Nat.lt_succ_of_le hv.k_le)
    exact run_eq hw hv hstart acts
  · obtain ⟨hwidth, hcount⟩ := bounds_of_parse hv ha
    exact ⟨dispatch_eq hw hwidth hcount handlers, element_eq hw hwidth hcount⟩

/-- A command in two pieces, of which objects are asked for that it does not have, the same command out of
sequence and octets that begin no frame. An ASDU that is too long is refused, and another one is not
acknowledged in time. -/
theorem never_crashes_hostile :
    let p : Parameters := { k := 1 }
    let asdu : Octets := [100, 1, 6, 0, 1, 0, 0, 0, 0, 20]
    let command : Octets := [0x68, 14, 0, 0, 0, 0] ++ asdu
    let acts : List Act :=
      [.arrive (command.take 5), .take 1 [], .arrive (command.drop 5 ++ command ++ [0xFF]), .take 1 [0, 1, 127],
        .take 2 [0], .take 3 [], .sendInformation (List.replicate 250 7) 4, .timer 40000]
    p.validate = .ok () ∧ ∃ host reports, run 16 p {} (Host.start p 0) acts = some (host, reports) ∧
      host.inbound = [0xFF] ∧ host.session.window.receiveCount = 1 ∧
      reports =
        [.nothing, .nothing, .nothing,
          .received [] (.ok (.asdu asdu)) (some
            { asdu := .ok (.ofOctets p asdu)
              objects :=
                [.ok ⟨0, .interrogation 20⟩, .error (.parsing "element index 1 out of bounds (1 elements)"),
                  .error (.parsing "element index 127 out of bounds (1 elements)")]
              dispatch := some { reply := some ((Asdu.ofOctets p asdu).refusal .unknownTypeId) } }),
          .received [] (.error (.sequenceMismatch 1 0)) none, .malformed (.protocol "invalid start byte 0xFF"),
          .sent [] (.error (.protocol "ASDU of 250 bytes exceeds 249")), .sent [] (.error .t1Timeout)] := by
  intro p asdu command acts
  have hp : p.validate = .ok () := rfl
  obtain ⟨hrun, -, -⟩ := never_crashes 16 (by decide) p hp {}
  refine ⟨hp, _, _, hrun 0 acts, ?_, ?_, ?_⟩
  · decide +kernel
  · decide +kernel
  · decide +kernel

end Machine

end Telecontrol
