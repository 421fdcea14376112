import Telecontrol.Proofs.Session.Quiet

/-!
# The frames of session operations

Which frames the operations of a session write, whether or not they succeed.

* `Session.write_cases`, `Session.sendControl_cases`, `Session.sendSupervisory_cases`: one frame is
  written, or none and the operation fails.
* `Session.Outcome.Writes`: what all frames of an operation have, one lemma for every operation.
* `Session.Outcome.Bare`: `Session.sendInformation` alone writes I-frames
  (`Session.sendInformation_carries`).
* `Session.Outcome.Withdraws`: an operation that fails has written nothing.
-/

namespace Telecontrol

namespace Session

variable {α β : Type} {s s' : Session} {o : Outcome α} {f frame : Apdu} {now : Millis}
  {P : Apdu → Prop}

theorem written_andThen_done (o : Outcome α) (f : α → β) :
    (o.andThen fun a s => .done s (f a)).written = o.written := by
  unfold Outcome.andThen
  split
  · rfl
  · exact List.append_nil _

theorem andThen_done_ok {f : α → β} {b : β}
    (h : (o.andThen fun a s => .done s (f a)).result = .ok b) : ∃ a, o.result = .ok a ∧ f a = b := by
  unfold Outcome.andThen at h
  split at h
  · cases h
  · rename_i a ha
    cases h
    exact ⟨a, ha, rfl⟩

/-! ## One frame -/

theorem write_cases (s : Session) (frame : Apdu) : (∃ fault, s.write frame = .fail s fault) ∨
    s.writable = true ∧ s.write frame = ⟨s.sent, [frame], .ok ()⟩ := by
  unfold write
  split
  · rename_i fault _
    exact .inl ⟨fault, rfl⟩
  · split
    · rename_i hw
      exact .inr ⟨hw, rfl⟩
    · exact .inl ⟨_, rfl⟩

theorem write_fits (hs : s.writable = true) (hf : f.asduLength ≤ Apdu.maxAsduLength) :
    s.write f = ⟨s.sent, [f], .ok ()⟩ := by
  rw [write, Apdu.encode, if_neg (Nat.not_lt.2 hf)]
  exact if_pos hs

theorem write_tooLong (hf : Apdu.maxAsduLength < f.asduLength) :
    ∃ text, s.write f = .fail s (.protocol text) := by
  rw [write, Apdu.encode, if_pos hf]
  exact ⟨_, rfl⟩

theorem sendSupervisory_cases (s : Session) :
    (∃ fault, s.sendSupervisory = .fail { s with window := s.window.confirmed } fault) ∨
    s.writable = true ∧ s.sendSupervisory = ⟨({ s with window := s.window.confirmed } : Session).sent,
      [.supervisory s.window.receiveCount], .ok ()⟩ :=
  write_cases { s with window := s.window.confirmed } (.supervisory s.window.receiveCount)

/-- The session after it has sent a U-frame. -/
def activated (s : Session) (function : ControlFunction) (now : Millis) : Session :=
  { s with awaited := s.awaited ++
      function.confirmation.toList.map fun _ => ⟨function, now + s.parameters.t1⟩ }

theorem sendControl_cases (s : Session) (function : ControlFunction) (now : Millis) :
    (∃ fault, s.sendControl function now = .fail s fault) ∨
    s.writable = true ∧ s.sendControl function now =
      ⟨s.sent.activated function now, [.unnumbered function], .ok ()⟩ := by
  obtain ⟨fault, hw⟩ | ⟨hs, hw⟩ := write_cases s (.unnumbered function)
  · refine .inl ⟨fault, ?_⟩
    rw [sendControl, hw]
    rfl
  · refine .inr ⟨hs, ?_⟩
    rw [sendControl, hw]
    cases hf : function.confirmation <;> simp [Outcome.andThen, Outcome.done, activated, hf]

theorem sendControl_ok (hs : s.writable = true) (function : ControlFunction) (now : Millis) :
    s.sendControl function now = ⟨s.sent.activated function now, [.unnumbered function], .ok ()⟩ := by
  obtain ⟨fault, he⟩ | ⟨-, he⟩ := sendControl_cases s function now
  · have hw : s.write (.unnumbered function) = ⟨s.sent, [.unnumbered function], .ok ()⟩ :=
      write_fits hs (Nat.zero_le _)
    have hr : (s.sendControl function now).result = .ok () := by
      rw [sendControl, hw]
      cases function.confirmation <;> simp [Outcome.andThen, Outcome.done]
    rw [he] at hr
    cases hr
  · exact he

theorem sendControl_written {function : ControlFunction} {u : Unit}
    (h : (s.sendControl function now).result = .ok u) :
    (s.sendControl function now).written = [.unnumbered function] := by
  obtain ⟨fault, he⟩ | ⟨-, he⟩ := sendControl_cases s function now
  · rw [he] at h
    cases h
  · rw [he]

theorem sendInformation_fits (hs : s.writable = true) (hc : s.window.canSend = true) {asdu : Octets}
    (h : asdu.length ≤ Apdu.maxAsduLength) (now : Millis) : s.sendInformation asdu now =
      ⟨({ s with window := (s.window.prepareInformation now).2 } : Session).sent,
        [.information s.window.sendCount s.window.receiveCount asdu], .ok ()⟩ := by
  rw [sendInformation, if_pos hc]
  exact write_fits (s := { s with window := (s.window.prepareInformation now).2 })
    (f := .information s.window.sendCount s.window.receiveCount asdu) hs h

theorem sendInformation_tooLong (hc : s.window.canSend = true) {asdu : Octets}
    (h : Apdu.maxAsduLength < asdu.length) (now : Millis) : ∃ text, s.sendInformation asdu now =
      .fail { s with window := (s.window.prepareInformation now).2 } (.protocol text) := by
  rw [sendInformation, if_pos hc]
  exact write_tooLong (f := .information s.window.sendCount s.window.receiveCount asdu) h

theorem sendInformation_written {asdu : Octets} {u : Unit}
    (h : (s.sendInformation asdu now).result = .ok u) :
    (s.sendInformation asdu now).written =
      [.information s.window.sendCount s.window.receiveCount asdu] := by
  unfold sendInformation at h ⊢
  split at h
  · rename_i hc
    obtain ⟨fault, he⟩ | ⟨-, he⟩ := write_cases
      { s with window := (s.window.prepareInformation now).2 }
      ⟨(s.window.prepareInformation now).1, some asdu⟩
    · simp only [he] at h
      cases h
    · simp only [if_pos hc, he]
      rfl
  · cases h

/-- At most one frame is written for an ASDU, and it carries that ASDU. -/
theorem sendInformation_carries (s : Session) (asdu : Octets) (now : Millis) :
    List.Sublist ((s.sendInformation asdu now).written.filterMap (·.asdu)) [asdu] := by
  unfold sendInformation
  split
  · obtain ⟨fault, h⟩ | ⟨-, h⟩ := write_cases
      { s with window := (s.window.prepareInformation now).2 }
      ⟨(s.window.prepareInformation now).1, some asdu⟩
    · simp only [h]
      exact List.nil_sublist _
    · simp only [h]
      exact List.Sublist.refl _
  · exact List.nil_sublist _

/-! ## All frames -/

/-- Every frame that was written has the property `P`. -/
def Outcome.Writes (P : Apdu → Prop) (o : Outcome α) : Prop := ∀ f ∈ o.written, P f

theorem writes_done {a : α} : (Outcome.done s a).Writes P := nofun

theorem writes_fail {fault : Fault} : (Outcome.fail s fault : Outcome α).Writes P := nofun

theorem Outcome.Writes.andThen {next : α → Session → Outcome β} (h : o.Writes P)
    (hn : ∀ a s, (next a s).Writes P) : (o.andThen next).Writes P := by
  unfold Outcome.andThen
  split
  · exact h
  · intro f hf
    rcases List.mem_append.1 hf with hf | hf
    · exact h f hf
    · exact hn _ _ f hf

theorem writes_write (hf : P f) : (s.write f).Writes P := by
  obtain ⟨fault, hw⟩ | ⟨-, hw⟩ := write_cases s f
  · rw [hw]
    exact writes_fail
  · rw [hw]
    exact fun g hg => List.mem_singleton.1 hg ▸ hf

theorem writes_sendControl {function : ControlFunction} (hf : P (.unnumbered function)) :
    (s.sendControl function now).Writes P := by
  obtain ⟨fault, hw⟩ | ⟨-, hw⟩ := sendControl_cases s function now
  · rw [hw]
    exact writes_fail
  · rw [hw]
    exact fun g hg => List.mem_singleton.1 hg ▸ hf

theorem writes_sendInformation {asdu : Octets} (hf : ∀ n r, P (.information n r asdu)) :
    (s.sendInformation asdu now).Writes P := by
  unfold sendInformation
  split
  · exact writes_write (hf _ _)
  · exact writes_fail

theorem writes_acknowledgeIfDue (hs : ∀ r, P (.supervisory r)) : (s.acknowledgeIfDue now).Writes P := by
  unfold acknowledgeIfDue
  split
  · exact writes_write (hs _)
  · exact writes_done

theorem writes_receiveControl (ht : P (.unnumbered .testCon)) (function : ControlFunction) :
    (s.receiveControl function now).Writes P := by
  cases function with
  | testAct => exact (writes_sendControl ht).andThen fun _ _ => writes_done
  | _ => exact writes_done

/-- What comes in is acknowledged and answered, but no I-frame is sent for it. -/
theorem writes_receive (hs : ∀ r, P (.supervisory r)) (ht : P (.unnumbered .testCon)) :
    (s.receive frame now).Writes P := by
  simp only [receive]
  split
  · split
    · exact writes_fail
    · exact (writes_acknowledgeIfDue hs).andThen fun _ _ => writes_done
  · split
    · exact writes_fail
    · exact writes_done
  · exact writes_receiveControl ht _

theorem writes_onTimer (hs : ∀ r, P (.supervisory r)) (ht : P (.unnumbered .testAct)) :
    (s.onTimer now).Writes P := by
  unfold onTimer
  split
  · exact writes_fail
  · refine (writes_acknowledgeIfDue hs).andThen fun _ _ => ?_
    unfold testIfIdle
    split
    · dsimp only
      split
      · exact writes_done
      · exact writes_sendControl ht
    · exact writes_done

/-- No ASDU was written. -/
def Outcome.Bare (o : Outcome α) : Prop := o.Writes (·.asdu = none)

theorem bare_sendControl (s : Session) (function : ControlFunction) (now : Millis) :
    (s.sendControl function now).Bare := writes_sendControl rfl

theorem bare_receive (s : Session) (f : Apdu) (now : Millis) : (s.receive f now).Bare :=
  writes_receive (fun _ => rfl) rfl

theorem bare_onTimer (s : Session) (now : Millis) : (s.onTimer now).Bare :=
  writes_onTimer (fun _ => rfl) rfl

/-! ## Operations that fail -/

/-- Where an operation on `s` failed, it has written nothing, and the same activations await their
confirmation. -/
def Outcome.Withdraws (s : Session) (o : Outcome α) : Prop :=
  ∀ fault, o.result = .error fault → o.written = [] ∧ o.session.awaited = s.awaited

theorem withdraws_ok {a : α} (h : o.result = .ok a) : o.Withdraws s :=
  fun fault he => by rw [h] at he; cases he

theorem withdraws_fail {fault : Fault} (h : s'.awaited = s.awaited) :
    (Outcome.fail s' fault : Outcome α).Withdraws s := fun _ _ => ⟨rfl, h⟩

/-- What only hands a value on cannot fail. -/
theorem Outcome.Withdraws.andThen_done (h : o.Withdraws s) (f : α → β) :
    (o.andThen fun a s => .done s (f a)).Withdraws s := by
  unfold Outcome.andThen
  split
  · rename_i fault hf
    exact fun _ _ => h fault hf
  · exact withdraws_ok rfl

theorem withdraws_write (h : s'.awaited = s.awaited) : (s'.write frame).Withdraws s := by
  obtain ⟨fault, hw⟩ | ⟨-, hw⟩ := write_cases s' frame
  · rw [hw]
    exact withdraws_fail h
  · rw [hw]
    exact withdraws_ok rfl

theorem withdraws_sendControl {function : ControlFunction} (h : s'.awaited = s.awaited) :
    (s'.sendControl function now).Withdraws s := by
  obtain ⟨fault, hw⟩ | ⟨-, hw⟩ := sendControl_cases s' function now
  · rw [hw]
    exact withdraws_fail h
  · rw [hw]
    exact withdraws_ok rfl

theorem withdraws_sendInformation (s : Session) (asdu : Octets) (now : Millis) :
    (s.sendInformation asdu now).Withdraws s := by
  unfold sendInformation
  split
  · exact withdraws_write rfl
  · exact withdraws_fail rfl

theorem withdraws_acknowledgeIfDue (h : s'.awaited = s.awaited) :
    (s'.acknowledgeIfDue now).Withdraws s := by
  unfold acknowledgeIfDue
  split
  · exact withdraws_write h
  · exact withdraws_ok rfl

theorem withdraws_receive (s : Session) (frame : Apdu) (now : Millis) :
    (s.receive frame now).Withdraws s := by
  simp only [receive]
  split
  · split
    · exact withdraws_fail rfl
    · exact (withdraws_acknowledgeIfDue rfl).andThen_done _
  · split
    · exact withdraws_fail rfl
    · exact withdraws_ok rfl
  · rename_i function _
    cases function with
    | testAct => exact (withdraws_sendControl rfl).andThen_done _
    | _ => exact withdraws_ok rfl

theorem withdraws_testIfIdle (s : Session) (now : Millis) : (s.testIfIdle now).Withdraws s := by
  unfold testIfIdle
  split
  · dsimp only
    split
    · exact withdraws_ok rfl
    · exact withdraws_sendControl rfl
  · exact withdraws_ok rfl

/-- A stream that took an S-frame takes the link test as well. -/
theorem withdraws_onTimer (s : Session) (now : Millis) : (s.onTimer now).Withdraws s := by
  unfold onTimer
  split
  · exact withdraws_fail rfl
  · unfold acknowledgeIfDue
    split
    · obtain ⟨fault, hw⟩ | ⟨hs, hw⟩ := sendSupervisory_cases s
      · rw [hw]
        exact withdraws_fail rfl
      · rw [hw]
        obtain ⟨u, hu⟩ := (testIfIdle_quiet
          (s := ({ s with window := s.window.confirmed } : Session).sent) hs).ok
        exact withdraws_ok (a := u) hu
    · exact withdraws_testIfIdle s now

end Session

end Telecontrol
