import Telecontrol.Master
import Telecontrol.Proofs.Window.Ideal

/-!
# The ledger of a link

What the outside can tell of a link from the effects of its master alone. Which frames count follows from the
numbers of the frames that were written and received, and not from the state of the master.

* `framesIn`, `eventsIn`, `asdusIn`: the received frames, the events and the ASDUs among effects.
* `Apdu.report?`, `Apdu.carried?`: the event and the ASDU that a frame brings.
* `IdealWindow.take?`: a frame whose numbers are right moves the counters.
* `Ledger`: the counters and the frames that were taken; `Master.ledger` after some effects.
* `Master.Account`: what was reported and delivered agrees with the ledger.
-/

namespace Telecontrol

open Apci (sequenceModulus)

/-! ## What effects show -/

/-- The complete frames that came in. -/
def framesIn (effects : List MasterEffect) : List Octets :=
  effects.filterMap fun
    | .received octets => some octets
    | _ => none

/-- The events that were reported. -/
def eventsIn (effects : List MasterEffect) : List LinkEvent :=
  effects.filterMap fun
    | .event event => some event
    | _ => none

/-- The ASDUs that the application was given. -/
def asdusIn (effects : List MasterEffect) : List Asdu :=
  effects.filterMap fun
    | .delivered asdu => some asdu
    | _ => none

section

variable (effects later : List MasterEffect) (frames : List Apdu) (octets : List Octets)

@[simp] theorem framesIn_append : framesIn (effects ++ later) = framesIn effects ++ framesIn later :=
  List.filterMap_append

@[simp] theorem eventsIn_append : eventsIn (effects ++ later) = eventsIn effects ++ eventsIn later :=
  List.filterMap_append

@[simp] theorem asdusIn_append : asdusIn (effects ++ later) = asdusIn effects ++ asdusIn later :=
  List.filterMap_append

@[simp] theorem framesIn_sent : framesIn (frames.map .sent) = [] := by
  simp [framesIn]

@[simp] theorem framesIn_received : framesIn (octets.map .received) = octets := by
  induction octets with
  | nil => rfl
  | cons first octets ih => exact congrArg (first :: ·) ih

@[simp] theorem eventsIn_sent : eventsIn (frames.map .sent) = [] := by
  simp [eventsIn]

@[simp] theorem eventsIn_received : eventsIn (octets.map .received) = [] := by
  simp [eventsIn]

@[simp] theorem asdusIn_sent : asdusIn (frames.map .sent) = [] := by
  simp [asdusIn]

@[simp] theorem asdusIn_received : asdusIn (octets.map .received) = [] := by
  simp [asdusIn]

end

/-! ## What a frame brings -/

namespace Apdu

/-- The event that is reported for a frame. -/
def report? (frame : Apdu) : Option LinkEvent :=
  match frame.apci with
  | .unnumbered .startCon => some .startConfirmed
  | .unnumbered .stopCon => some .stopConfirmed
  | _ => none

/-- The ASDU that a frame carries, if it is well formed. -/
def carried? (p : Parameters) (frame : Apdu) : Option Asdu :=
  match frame.apci with
  | .information _ _ => (Asdu.parse p (frame.asdu.getD [])).toOption
  | _ => none

theorem report?_of_carried {p : Parameters} {frame : Apdu} {asdu : Asdu}
    (h : frame.carried? p = some asdu) : frame.report? = none := by
  obtain ⟨apci, octets⟩ := frame
  cases apci with
  | information send receive => rfl
  | supervisory receive => cases h
  | unnumbered function => cases h

end Apdu

/-! ## The counters -/

namespace IdealWindow

variable {i i' : IdealWindow} {s r : Nat} {frame : Apdu}

/-- Takes a frame, if its numbers are right. -/
def take? (i : IdealWindow) (frame : Apdu) : Option IdealWindow :=
  match frame.apci with
  | .information send receive => i.receive? send receive
  | .supervisory receive => i.acknowledge? receive
  | .unnumbered _ => some i

theorem acks_of_acknowledge? (h : i.acknowledge? r = some i') :
    ∃ a, i.Acks r a ∧ { i with acked := a } = i' := by
  obtain ⟨a, ha, hi⟩ := Option.map_eq_some_iff.1 h
  exact ⟨a, acks_of_target? ha, hi⟩

theorem not_acks_of_acknowledge? (hw : i.sent - i.acked < sequenceModulus) (h : i.acknowledge? r = none) :
    ¬ ∃ a, i.Acks r a := by
  rintro ⟨a, ha⟩
  rw [acknowledge?, target?_eq_some hw ha] at h
  cases h

theorem acks_of_receive? (h : i.receive? s r = some i') : s = i.received % sequenceModulus ∧
    ∃ a, i.Acks r a ∧ { i with acked := a, received := i.received + 1 } = i' := by
  unfold receive? at h
  split at h
  · rename_i hs
    obtain ⟨i₁, hi₁, rfl⟩ := Option.map_eq_some_iff.1 h
    obtain ⟨a, ha, rfl⟩ := acks_of_acknowledge? hi₁
    exact ⟨hs, a, ha, rfl⟩
  · cases h

theorem not_acks_of_receive? (hw : i.sent - i.acked < sequenceModulus) (h : i.receive? s r = none) :
    ¬ (s = i.received % sequenceModulus ∧ ∃ a, i.Acks r a) := by
  rintro ⟨hs, ha⟩
  rw [receive?, if_pos hs, Option.map_eq_none_iff] at h
  exact not_acks_of_acknowledge? hw h ha

theorem capacity_take? (h : i.take? frame = some i') : i'.capacity = i.capacity := by
  unfold take? at h
  split at h
  · obtain ⟨-, a, -, rfl⟩ := acks_of_receive? h
    rfl
  · obtain ⟨a, -, rfl⟩ := acks_of_acknowledge? h
    rfl
  · cases h
    rfl

/-- Every I-frame that is taken counts as one that was received. -/
theorem received_take? (h : i.take? frame = some i') :
    i'.received = i.received + [frame].countP (·.apci.isInformation) := by
  obtain ⟨apci, octets⟩ := frame
  cases apci with
  | information send receive =>
    obtain ⟨-, a, -, rfl⟩ := acks_of_receive? h
    rfl
  | supervisory receive =>
    obtain ⟨a, -, rfl⟩ := acks_of_acknowledge? h
    rfl
  | unnumbered function =>
    cases h
    rfl

end IdealWindow

/-! ## The books -/

/-- The books of a link: its counters, and the well-formed frames whose numbers were right, in order. -/
structure Ledger where
  window : IdealWindow
  taken : List Apdu := []
  deriving DecidableEq, Repr

/-- The books after one more effect. -/
def Ledger.note (l : Ledger) : MasterEffect → Ledger
  | .sent frame =>
    if frame.apci.isInformation then { l with window := { l.window with sent := l.window.sent + 1 } } else l
  | .received octets =>
    match Apdu.ofOctets octets with
    | .error _ => l
    | .ok frame =>
      match l.window.take? frame with
      | none => l
      | some window => { window, taken := l.taken ++ [frame] }
  | .event _ | .delivered _ => l

/-- The I-frames that were taken are those that were counted. -/
def Ledger.Counted (l : Ledger) : Prop := l.window.received = l.taken.countP (·.apci.isInformation)

theorem Ledger.Counted.note {l : Ledger} (h : l.Counted) (effect : MasterEffect) : (l.note effect).Counted := by
  cases effect with
  | sent frame =>
    rw [Ledger.note]
    split
    · exact h
    · exact h
  | received octets =>
    rw [Ledger.note]
    split
    · exact h
    · split
      · exact h
      · rename_i window ht
        rw [Counted, List.countP_append, ← h]
        exact IdealWindow.received_take? ht
  | event event => exact h
  | delivered asdu => exact h

namespace Master

/-- The books of a link after some effects. -/
def ledger (m : Master) (effects : List MasterEffect) : Ledger :=
  effects.foldl Ledger.note { window := .start m.config.parameters.k }

section

variable {m : Master} {octets : Octets} {frame : Apdu} {i : IdealWindow} {written : List Apdu}
  (effects later : List MasterEffect)

theorem ledger_append : m.ledger (effects ++ later) = later.foldl Ledger.note (m.ledger effects) :=
  List.foldl_append

/-- S-frames and U-frames do not count. -/
theorem ledger_sent (h : ∀ f ∈ written, f.apci.isInformation = false) :
    m.ledger (effects ++ written.map .sent) = m.ledger effects := by
  rw [ledger_append]
  generalize m.ledger effects = l
  induction written with
  | nil => rfl
  | cons f written ih =>
    have hf : l.note (.sent f) = l := if_neg (by rw [h f List.mem_cons_self]; exact Bool.false_ne_true)
    rw [List.map_cons, List.foldl_cons, hf]
    exact ih fun g hg => h g (List.mem_cons_of_mem f hg)

theorem ledger_received (ho : Apdu.ofOctets octets = .ok frame)
    (ht : (m.ledger effects).window.take? frame = some i) :
    m.ledger (effects ++ [.received octets]) = ⟨i, (m.ledger effects).taken ++ [frame]⟩ := by
  rw [ledger_append]
  simp only [List.foldl_cons, List.foldl_nil, Ledger.note, ho, ht]

theorem ledger_unexpected (ho : Apdu.ofOctets octets = .ok frame)
    (ht : (m.ledger effects).window.take? frame = none) :
    m.ledger (effects ++ [.received octets]) = m.ledger effects := by
  rw [ledger_append]
  simp only [List.foldl_cons, List.foldl_nil, Ledger.note, ho, ht]

theorem ledger_malformed {fault : Fault} (ho : Apdu.ofOctets octets = .error fault) :
    m.ledger (effects ++ [.received octets]) = m.ledger effects := by
  rw [ledger_append]
  simp only [List.foldl_cons, List.foldl_nil, Ledger.note, ho]

/-- Each I-frame that was taken was counted. -/
theorem received_ledger (m : Master) (effects : List MasterEffect) :
    (m.ledger effects).window.received = (m.ledger effects).taken.countP (·.apci.isInformation) := by
  suffices hfold : ∀ l : Ledger, l.Counted → (effects.foldl Ledger.note l).Counted from hfold _ rfl
  induction effects with
  | nil => exact fun _ h => h
  | cons effect effects ih => exact fun l h => ih _ (h.note effect)

@[simp] theorem ledger_event (event : LinkEvent) :
    m.ledger (effects ++ [.event event]) = m.ledger effects := by
  rw [ledger_append]
  rfl

@[simp] theorem ledger_delivered (asdu : Asdu) :
    m.ledger (effects ++ [.delivered asdu]) = m.ledger effects := by
  rw [ledger_append]
  rfl

end

/-! ## The account -/

/-- The state that a master shows, by its link and by what was reported of it. -/
def stateAfter (link : Option MasterLink) (events : List LinkEvent) : MasterState :=
  match link with
  | none => .closed
  | some _ => if events.getLast? = some .startConfirmed then .connectedActive else .connectedInactive

theorem stateAfter_concat (link : Option MasterLink) (events : List LinkEvent) (event : LinkEvent) :
    stateAfter link (events ++ [event]) = stateAfter link [event] := by
  cases link with
  | none => rfl
  | some link => rw [stateAfter, stateAfter, List.getLast?_concat, List.getLast?_singleton]

/-- What a link of the master `m` has shown when it became `n`. -/
structure Account (m n : Master) (effects : List MasterEffect) : Prop where
  /-- Every frame that came in was taken, except that a link ends with one that is not. -/
  received : ∃ last, (framesIn effects).map Apdu.ofOctets = (m.ledger effects).taken.map .ok ++ last ∧
    last.length ≤ 1 ∧ (n.link ≠ none → last = [])
  /-- The link was opened, each confirmation was reported, and the link was closed if it has ended. -/
  events : eventsIn effects = .opened :: (m.ledger effects).taken.filterMap Apdu.report? ++
    (if n.link = none then [.closed] else [])
  /-- Nothing was seen of the link after it had been closed. -/
  ended : n.link = none → effects.getLast? = some (.event .closed)
  /-- The state follows the last event. -/
  state : n.state = stateAfter n.link (eventsIn effects)
  /-- The well-formed ASDUs of the frames that were taken went to the application, if it takes any. -/
  delivered : asdusIn effects =
    if m.answers = none then [] else (m.ledger effects).taken.filterMap (Apdu.carried? m.config.parameters)
  /-- The first ASDU that was refused was the last one, and the link has ended. -/
  refused : ∀ answers i, m.answers = some answers → answers[i]? = some false →
    (asdusIn effects).length ≤ i + (if n.link = none then 1 else 0)
  /-- The window shows the counters of the ledger modulo 32768. -/
  tracks : ∀ link, n.link = some link → link.session.window.Tracks (m.ledger effects).window

end Master

end Telecontrol
