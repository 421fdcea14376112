import Telecontrol.Session
import Telecontrol.Proofs.Apdu.RoundTrip

/-!
# What a session writes

The operations of a session on a stream that takes octets, one lemma for each: what they write, what
they make of the window and how they end.

* `Session.Quiet`: an operation that writes only S-frames and U-frames and leaves the numbers alone.
* `Session.sendControl_quiet`, `Session.onTimer_quiet`: sending U-frames, and the timers.
* `Session.sendInformation_ok`: sending an I-frame.
* `Session.receive_information`, `Session.receive_supervisory`, `Session.receive_unnumbered`: receiving.
-/

namespace Telecontrol

/-- A function that the standard defines. -/
def ControlFunction.Defined : ControlFunction → Prop
  | undefined _ => False
  | _ => True

theorem ControlFunction.Defined.normal {f : ControlFunction} (h : f.Defined) : f.Normal := by
  cases f with
  | undefined octet => exact h.elim
  | _ => trivial

namespace Session

variable {α β : Type} {s : Session} {w : Window} {o : Outcome α} {now : Millis}

/-- From the window `w` on, an operation succeeded, wrote S-frames that acknowledge what `w` has received
and defined U-frames only, and changed no more of the window than what is still to be acknowledged. -/
structure Quiet (w : Window) (o : Outcome α) : Prop where
  writable : o.session.writable = true
  window : o.session.window = w ∨ o.session.window = w.confirmed
  written : ∀ f ∈ o.written, f = .supervisory w.receiveCount ∨
    ∃ function : ControlFunction, function.Defined ∧ f = .unnumbered function
  ok : ∃ a, o.result = .ok a

theorem Quiet.receiveCount (h : Quiet w o) : o.session.window.receiveCount = w.receiveCount := by
  rcases h.window with h | h
  · rw [h]
  · rw [h]
    rfl

theorem Quiet.silent {a : α} (hs : o.session.writable = true) (hw : o.session.window = w)
    (hn : o.written = []) (ha : o.result = .ok a) : Quiet w o where
  writable := hs
  window := Or.inl hw
  written _ hf := absurd (hn ▸ hf) List.not_mem_nil
  ok := ⟨a, ha⟩

theorem Quiet.andThen {next : α → Session → Outcome β} (h : Quiet w o)
    (hn : ∀ a, Quiet o.session.window (next a o.session)) : Quiet w (o.andThen next) := by
  obtain ⟨a, ha⟩ := h.ok
  have hn := hn a
  simp only [Outcome.andThen, ha]
  refine ⟨hn.writable, ?_, ?_, hn.ok⟩
  · rcases h.window with h | h <;> rcases hn.window with hn | hn <;> rw [h] at hn
    · exact Or.inl hn
    · exact Or.inr hn
    · exact Or.inr hn
    · exact Or.inr hn
  · intro f hf
    rcases List.mem_append.1 hf with hf | hf
    · exact h.written f hf
    · rw [← h.receiveCount]
      exact hn.written f hf

/-! ## Writing -/

/-- The session after it wrote a frame. -/
def sent (s : Session) : Session :=
  { s with traffic := { s.traffic with sent := s.traffic.sent + 1 } }

theorem write_ok (hs : s.writable = true) {f : Apdu} (hf : f.Normal) :
    s.write f = ⟨s.sent, [f], .ok ()⟩ := by
  rw [write, hf.encode]
  exact if_pos hs

theorem sendControl_quiet (hs : s.writable = true) {function : ControlFunction}
    (hf : function.Defined) : Quiet s.window (s.sendControl function now) := by
  have hw : s.write (.unnumbered function) = ⟨s.sent, [.unnumbered function], .ok ()⟩ :=
    write_ok hs hf.normal
  rw [sendControl, hw]
  refine Quiet.andThen ⟨hs, Or.inl rfl, ?_, (), rfl⟩ fun _ => ?_
  · intro f hm
    exact Or.inr ⟨function, hf, List.mem_singleton.1 hm⟩
  · split
    · exact Quiet.silent hs rfl rfl rfl
    · exact Quiet.silent hs rfl rfl rfl

theorem sendSupervisory_ok (hs : s.writable = true) : s.sendSupervisory =
    ⟨({ s with window := s.window.confirmed } : Session).sent, [.supervisory s.window.receiveCount], .ok ()⟩ :=
  write_ok (s := { s with window := s.window.confirmed }) (f := .supervisory s.window.receiveCount) hs trivial

theorem sendSupervisory_quiet (hs : s.writable = true) : Quiet s.window s.sendSupervisory := by
  rw [sendSupervisory_ok hs]
  exact ⟨hs, Or.inr rfl, fun f hm => Or.inl (List.mem_singleton.1 hm), (), rfl⟩

theorem acknowledgeIfDue_quiet (hs : s.writable = true) (now : Millis) :
    Quiet s.window (s.acknowledgeIfDue now) := by
  unfold acknowledgeIfDue
  split
  · exact sendSupervisory_quiet hs
  · exact Quiet.silent hs rfl rfl rfl

theorem testIfIdle_quiet (hs : s.writable = true) : Quiet s.window (s.testIfIdle now) := by
  unfold testIfIdle
  split
  · dsimp only
    split
    · exact Quiet.silent hs rfl rfl rfl
    · exact sendControl_quiet (s := { s with idleSince := now }) hs trivial
  · exact Quiet.silent hs rfl rfl rfl

/-- The timers write S-frames and link tests, as long as t1 has not run out. -/
theorem onTimer_quiet (hs : s.writable = true) (ht : s.t1Expired now = false) :
    Quiet s.window (s.onTimer now) := by
  rw [onTimer, ht]
  have ha := acknowledgeIfDue_quiet hs now
  show Quiet s.window ((s.acknowledgeIfDue now).andThen fun _ s => s.testIfIdle now)
  exact ha.andThen fun _ => testIfIdle_quiet ha.writable

theorem onTimer_expired (ht : s.t1Expired now = true) : s.onTimer now = .fail s .t1Timeout := by
  rw [onTimer, ht, if_pos rfl]

/-! ## I-frames -/

theorem sendInformation_ok (hs : s.writable = true) (hc : s.window.canSend = true) {asdu : Octets}
    (h0 : 0 < asdu.length) (h1 : asdu.length ≤ Apdu.maxAsduLength) :
    s.sendInformation asdu now =
      ⟨({ s with window := (s.window.prepareInformation now).2 } : Session).sent,
        [.information s.window.sendCount s.window.receiveCount asdu], .ok ()⟩ := by
  have hf : (Apdu.information s.window.sendCount s.window.receiveCount asdu).Normal := ⟨h0, h1⟩
  rw [sendInformation, if_pos hc]
  exact write_ok (s := { s with window := (s.window.prepareInformation now).2 }) hs hf

theorem sendInformation_full (hc : s.window.canSend = false) (asdu : Octets) :
    s.sendInformation asdu now = .fail s (.tooManyUnconfirmed s.parameters.k) := by
  rw [sendInformation, hc, if_neg Bool.false_ne_true]

/-! ## Receiving -/

theorem receive_information (hs : s.writable = true) {n r : Nat} (asdu : Octets)
    (hw : Window.onInformation n r now s.window = .ok () w) :
    Quiet w (s.receive (.information n r asdu) now) ∧
      (s.receive (.information n r asdu) now).result = .ok (.asdu asdu) := by
  have hr : s.receive (.information n r asdu) now =
      (({ s.counted now with window := w } : Session).acknowledgeIfDue now).andThen fun _ s =>
        .done s (.asdu asdu) := by
    simp only [receive, Apdu.information, counted, hw]
    rfl
  have hs' : ({ s.counted now with window := w } : Session).writable = true := hs
  have ha := acknowledgeIfDue_quiet hs' now
  obtain ⟨a, hok⟩ := ha.ok
  rw [hr]
  refine ⟨ha.andThen fun _ => Quiet.silent ha.writable rfl rfl rfl, ?_⟩
  simp only [Outcome.andThen, hok]
  rfl

theorem receive_supervisory (hs : s.writable = true) (now : Millis) {r : Nat}
    (hw : Window.acknowledge r s.window = .ok () w) :
    Quiet w (s.receive (.supervisory r) now) ∧
      (s.receive (.supervisory r) now).result = .ok .handled := by
  have hr : s.receive (.supervisory r) now =
      .done ({ s.counted now with window := w } : Session) .handled := by
    simp only [receive, Apdu.supervisory, counted, hw]
  rw [hr]
  exact ⟨Quiet.silent hs rfl rfl rfl, rfl⟩

/-- A U-frame hands no ASDU up. -/
theorem receive_unnumbered (hs : s.writable = true) (now : Millis) (function : ControlFunction) :
    Quiet s.window (s.receive (.unnumbered function) now) ∧
      ∀ asdu, (s.receive (.unnumbered function) now).result ≠ .ok (.asdu asdu) := by
  show Quiet s.window ((s.counted now).receiveControl function now) ∧
    ∀ asdu, ((s.counted now).receiveControl function now).result ≠ .ok (.asdu asdu)
  cases function with
  | testAct =>
    let counted : Session := { s.counted now with traffic := { (s.counted now).traffic with
      testAct := (s.counted now).traffic.testAct + 1 } }
    have hs' : counted.writable = true := hs
    have hq : Quiet s.window (counted.sendControl .testCon now) := sendControl_quiet hs' trivial
    obtain ⟨a, hok⟩ := hq.ok
    have hr : (s.counted now).receiveControl .testAct now =
        (counted.sendControl .testCon now).andThen fun _ s => .done s .handled := rfl
    rw [hr]
    refine ⟨hq.andThen fun _ => Quiet.silent hq.writable rfl rfl rfl, fun asdu h => ?_⟩
    rw [Outcome.andThen, hok] at h
    cases h
  | testCon => exact ⟨Quiet.silent hs rfl rfl rfl, nofun⟩
  | startCon => exact ⟨Quiet.silent hs rfl rfl rfl, nofun⟩
  | stopCon => exact ⟨Quiet.silent hs rfl rfl rfl, nofun⟩
  | startAct => exact ⟨Quiet.silent hs rfl rfl rfl, nofun⟩
  | stopAct => exact ⟨Quiet.silent hs rfl rfl rfl, nofun⟩
  | undefined octet => exact ⟨Quiet.silent hs rfl rfl rfl, nofun⟩

end Session

end Telecontrol
